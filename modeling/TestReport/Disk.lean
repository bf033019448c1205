import TestReport.Text.Split

/-!
# Disks

What the program asks of a disk: whether a path leads to a file or to a directory, the names in a
directory, and the bytes of a file. The answers come in a monad, so that the same program runs on
the disk of a computer and on one that is a value.

Such a value is `Disk.ofFiles`. It holds files by relative path, and a directory is there when a
file is in it. A path is followed part by part: every part but the last has to lead to a directory,
an empty part and `.` stay where they are, and `..` leads back, but not out of the disk.
-/

namespace TestReport

/-- A disk that answers in a monad. -/
structure Disk (m : Type → Type) where
  isFile : String → m Bool
  isDirectory : String → m Bool
  /-- The names of what is in a directory, in any order; none when it cannot be listed. -/
  names : String → m (List String)
  /-- The bytes of a file; nothing when it cannot be read. -/
  bytes? : String → m (Option ByteArray)

namespace Disk

section

variable {m : Type → Type} [Monad m]

/-- Whether a path leads anywhere. -/
def reaches (disk : Disk m) (path : String) : m Bool := do
  if ← disk.isFile path then return true
  disk.isDirectory path

/-- The text of a file; nothing when it cannot be read or is not UTF-8. -/
def text? (disk : Disk m) (path : String) : m (Option String) := do
  return (← disk.bytes? path).bind String.fromUTF8?

end

/-! ## Paths -/

/-- The parts of a path. -/
def parts (path : String) : List String :=
  (Text.splitAll '/' path.toList).map String.ofList

/-- A path with one more part. -/
def join (path part : String) : String :=
  if path.endsWith "/" then path ++ part else path ++ "/" ++ part

/-- Whether a path leads to where it starts, by `.` alone. -/
def isHere (path : String) : Bool :=
  (parts path).head? == some "." && (parts path).all fun part => part == "" || part == "."

/-- The path of a part of a directory, which the current directory does not show in it. -/
def child (path part : String) : String :=
  if isHere path then part else join path part

/-! ## Disks that are values -/

/-- A file by the parts of its path. -/
abbrev FileEntry := List String × ByteArray

/-- The name under which a file is found in a directory or a directory inside it. -/
def nameUnder? (directory : List String) (file : FileEntry) : Option String :=
  if directory.isPrefixOf file.1 then (file.1.drop directory.length).head? else none

/-- Whether a place is a directory: files are in it. The disk as a whole always is one. -/
def holdsFiles (files : List FileEntry) (place : List String) : Bool :=
  place.isEmpty || files.any fun file => (nameUnder? place file).isSome

/-- The place to which parts of a path lead from another place. -/
def follow (files : List FileEntry) (place : List String) : List String → Option (List String)
  | [] => some place
  | part :: rest =>
    if !holdsFiles files place then none
    else if part = "" ∨ part = "." then follow files place rest
    else if part = ".." then
      if place.isEmpty then none else follow files place.dropLast rest
    else follow files (place ++ [part]) rest

/-- The place to which a path leads; no place for an absolute or an empty one. -/
def place? (files : List FileEntry) (path : String) : Option (List String) :=
  match parts path with
  | "" :: _ => none
  | parts => follow files [] parts

/-- The file at a place. -/
def fileAt? (files : List FileEntry) (place : List String) : Option ByteArray :=
  files.lookup place

/-- The disk that holds some files. -/
def ofFiles (files : List (String × ByteArray)) : Disk Id :=
  let files := files.map fun file => (parts file.1, file.2)
  { isFile := fun path => ((place? files path).bind (fileAt? files)).isSome
    isDirectory := fun path => (place? files path).any (holdsFiles files)
    names := fun path =>
      match place? files path with
      | some place => (files.filterMap (nameUnder? place)).eraseDups
      | none => []
    bytes? := fun path => (place? files path).bind (fileAt? files) }

end Disk

end TestReport
