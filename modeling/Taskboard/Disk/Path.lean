import Taskboard.Text.Words

/-!
# Paths

A path is a starting point and the names after it. Reading a path drops empty names and single dots,
so that doubled and trailing slashes do not matter; two dots stay. A path without names is written as
its starting point, or as a dot.
-/

namespace Taskboard

/-- Where a path starts. -/
inductive PathRoot where
  /-- At the working folder. -/
  | here
  /-- At the root of all folders. -/
  | top
  /-- At the root, written with two slashes. -/
  | doubled
deriving DecidableEq, Inhabited

/-- A path in normal form. -/
structure Path where
  /-- Starting point. -/
  root : PathRoot
  /-- Names to follow from there. -/
  names : List Text
deriving DecidableEq, Inhabited

namespace Path

/-- Written form of a starting point. -/
def rootText : PathRoot → Text
  | .here => ""
  | .top => "/"
  | .doubled => "//"

/-- Text of a path. -/
def text (path : Path) : Text :=
  match path.root, path.names with
  | .here, [] => "."
  | root, names => rootText root ++ Text.intercalate "/" names

/-- Whether a name takes part in a path. -/
def isName (name : List CodePoint) : Bool := name ≠ [] && name ≠ [.char '.']

/-- Starting point given by the slashes in front: exactly two are kept apart from one or more. -/
def rootOf (text : List CodePoint) : PathRoot :=
  match (text.takeWhile (· = .char '/')).length with
  | 0 => .here
  | 2 => .doubled
  | _ => .top

/-- Reads a path. -/
def ofText (text : Text) : Path where
  root := rootOf text.toList
  names := ((Text.pieces '/' text.toList).filter isName).map Text.ofList

/-- The path one name further. -/
def child (path : Path) (name : Text) : Path := { path with names := path.names ++ [name] }

/-- The path on which one gets by following a second path from the end of the first; a second path that
starts at a root stands for itself. -/
def join (path other : Path) : Path :=
  match other.root with
  | .here => { path with names := path.names ++ other.names }
  | _ => other

/-- The path without its last name; a path without names is its own parent. -/
def parent (path : Path) : Path := { path with names := path.names.dropLast }

/-- The path with a text added to its last name. -/
def withSuffix (path : Path) (suffix : Text) : Path :=
  { path with names := path.names.dropLast ++ [path.names.getLastD "" ++ suffix] }

theorem parent_child (path : Path) (name : Text) : (path.child name).parent = path := by
  simp [child, parent]

theorem withSuffix_child (path : Path) (name suffix : Text) :
    (path.child name).withSuffix suffix = path.child (name ++ suffix) := by
  simp [child, withSuffix]

end Path

end Taskboard
