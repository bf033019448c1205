import Std.Time.DateTime.Timestamp
import TestReport.CommandLine.Run

/-!
# The program

The command line, run on the disk, the standard streams and the clock of the computer.
-/

namespace TestReport.CommandLine

/-- A path as the file system takes it. -/
def located (path : String) : IO.FS.DirEntry where
  root := path
  fileName := ""

/-- The kind of what a path leads to, if it leads anywhere. -/
def kindAt? (path : String) : IO (Option IO.FS.FileType) := do
  try return some (← (located path).root.metadata).type
  catch _ => return none

/-- The disk of the computer. -/
def computerDisk : Disk IO where
  isFile path := return (← kindAt? path) == some .file
  isDirectory path := return (← kindAt? path) == some .dir
  names path := do
    try return (← (located path).root.readDir).toList.map (·.fileName)
    catch _ => return []
  bytes? path := do
    try return some (← IO.FS.readBinFile path)
    catch _ => return none

/-- The text of the standard input; nothing when it cannot be read or is not UTF-8. -/
def standardInput : IO (Option String) := do
  try return String.fromUTF8? (← (← IO.getStdin).readBinToEnd)
  catch _ => return none

/-- The current time. -/
def currentTime : IO Instant := do
  let time ← Std.Time.Timestamp.now
  return (Instant.ofNanos? time.toNanosecondsSinceUnixEpoch.toInt).getD .epoch

end TestReport.CommandLine

open TestReport CommandLine in
/-- Runs the command line and prints its outcome. -/
def main (arguments : List String) : IO UInt32 := do
  let outcome ← call arguments Report.toJson computerDisk standardInput (← currentTime)
  IO.print outcome.stdout
  if let some complaint := outcome.complaint then IO.eprintln s!"error: {complaint}"
  return outcome.exit.toUInt32
