import TestReport.Disk
import TestReport.Glob.Pattern

/-!
# Paths of a pattern

A path pattern is a row of segments with slashes between them. Its paths are found by going through
the disk from the current directory, or from the root, one segment at a time (`walk`). A segment
that is a plain name is gone to without listing the directory. Any other segment is tried on what
the directory holds, in the order of names; `**` is tried on nothing, but lets the segments behind
it be tried at every depth, and an entry comes before what is below it.

A pattern with a slash at its end has only directories as paths.
-/

namespace TestReport.Glob

/-- A pattern of paths. -/
structure PathPattern where
  /-- Where the search starts. -/
  root : String
  segments : List Segment
  directoriesOnly : Bool
deriving DecidableEq, Repr

namespace PathPattern

/-- A list without an empty text at its end. -/
def dropEmptyEnd (pieces : List (List Char)) : List (List Char) :=
  if pieces.getLast? = some [] then pieces.dropLast else pieces

/-- The pattern that a text spells; nothing when it is malformed. -/
def ofText? (text : String) : Option PathPattern := do
  let s := text.toList
  let (root, s) :=
    match s with
    | '/' :: s => ("/", s)
    | s => (".", s)
  let pieces := Text.splitAll '/' s
  let segments ← (if s.isEmpty then pieces else dropEmptyEnd pieces).mapM Segment.ofText?
  return ⟨root, segments, text.endsWith "/"⟩

end PathPattern

/-! ## The search -/

section

variable {m : Type → Type} [Monad m]

/-- The paths that an entry of a directory has for segments, when `walk` finds those below a path.
-/
def visit (disk : Disk m) (walk : List Segment → String → m (List String))
    (segments : List Segment) (path name : String) : m (List String) := do
  match segments with
  | [] => return []
  | .anyDepth :: rest =>
    let rest := rest.dropWhile (· = .anyDepth)
    let isDirectory ← disk.isDirectory path
    let here ←
      match rest with
      | [] => pure (if isDirectory then [path] else [])
      | segment :: more => if segment.accepts name then walk more path else pure []
    let below ← if isDirectory then walk (.anyDepth :: rest) path else pure []
    return here ++ below
  | segment :: rest => if segment.accepts name then walk rest path else return []

/-- The paths that go on from a path by segments, in at most `fuel` steps. -/
def walk (disk : Disk m) : Nat → List Segment → String → m (List String)
  | _, [], path => return [path]
  | 0, _, _ => return []
  | fuel + 1, segment :: rest, path => do
    match segment.literal? with
    | some name =>
      let next := Disk.child path name
      let isThere ←
        if name = "." ∨ name = ".." then disk.isDirectory path else disk.reaches next
      if isThere then walk disk fuel rest next else return []
    | none =>
      if ← disk.isDirectory path then
        let dots := if segment.startsWithDot then ["..", "."].filter segment.accepts else []
        let around ← dots.mapM fun dot => walk disk fuel rest (Disk.join path dot)
        let names := (← disk.names path).mergeSort
        let inside ← names.mapM fun name =>
          visit disk (walk disk fuel) (segment :: rest) (Disk.child path name) name
        return around.flatten ++ inside.flatten
      else return []

/-- A bound on the number of directories inside one another: no path is longer than this. -/
def depthLimit : Nat := 4096

/-- The paths of a pattern. -/
def PathPattern.paths (disk : Disk m) (p : PathPattern) : m (List String) := do
  let paths ← walk disk (depthLimit + p.segments.length) p.segments p.root
  if p.directoriesOnly then paths.filterM disk.isDirectory else return paths

end

end TestReport.Glob
