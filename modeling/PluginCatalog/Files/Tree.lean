import PluginCatalog.Text.Basic
import PluginCatalog.Text.Utf8

/-!
# File trees

A file tree says which files and directories there are, by their place below the root, and what the
files contain. There is nothing else in it: no links, no other kinds of files, and no permissions, so
every file can be read and every directory can be listed. Paths are resolved component by component:
everything before a component has to be a directory, an empty component and `.` stay there, and `..`
goes up. A path with a NUL in it leads nowhere, and neither a path nor a component may be too long.
Reading and writing fail for the reasons of a file system (`FileError`).
-/

namespace PluginCatalog

/-- Why a file cannot be read or written. -/
inductive FileError where
  | notFound
  | notDirectory
  | isDirectory
  /-- The path contains a NUL. -/
  | nulInPath
  /-- The path or a component of it is too long. -/
  | nameTooLong
  /-- The file is no text. -/
  | notText
  deriving DecidableEq

namespace FileError

/-- The kind of an error. -/
def kind : FileError → String
  | notFound => "entity not found"
  | notDirectory => "not a directory"
  | isDirectory => "is a directory"
  | nulInPath => "invalid input parameter"
  | nameTooLong => "invalid filename"
  | notText => "invalid data"

/-- The wording of an error. -/
def message : FileError → String
  | notFound => "No such file or directory (os error 2)"
  | notDirectory => "Not a directory (os error 20)"
  | isDirectory => "Is a directory (os error 21)"
  | nulInPath => "file name contained an unexpected NUL byte"
  | nameTooLong => "File name too long (os error 36)"
  | notText => "stream did not contain valid UTF-8"

end FileError

/-- A place in a file tree: the names on the way from the root. -/
abbrev Location := List String

/-- What can be at a place. -/
inductive FileNode where
  | file (content : List UInt8)
  | directory
  deriving DecidableEq

/-- A tree of files. None of them is closed to the reader, and a directory can be listed wherever there is
one (`FileTree.isDirectory_iff_exists_list`). -/
structure FileTree where
  /-- What there is below the root, in any order. -/
  nodes : List (Location × FileNode)
  /-- The directory in which relative paths begin. -/
  workingDirectory : Location
  /-- At each place there is one thing. -/
  nodup : (nodes.map (·.1)).Nodup

namespace FileTree

/-- The tree with nothing below the root. -/
def empty : FileTree := ⟨[], [], .nil⟩

instance : Inhabited FileTree := ⟨empty⟩

/-- The first node at a place. -/
def find (l : Location) : List (Location × FileNode) → Option FileNode
  | [] => none
  | (l', n) :: rest => if l = l' then some n else find l rest

/-- What there is at a place. The root is a directory. -/
def get? (t : FileTree) (l : Location) : Option FileNode :=
  if l = [] then some .directory else find l t.nodes

/-! ## Changing a tree -/

/-- Removes the things at the places that satisfy a test. -/
def removeWhere (t : FileTree) (p : Location → Bool) : FileTree where
  nodes := t.nodes.filter fun n => !p n.1
  workingDirectory := t.workingDirectory
  nodup := ((List.filter_sublist).map _).nodup t.nodup

/-- Removes what is at a place and below it. -/
def removeAt (t : FileTree) (l : Location) : FileTree := t.removeWhere l.isPrefixOf

/-- Puts a node at a place, in place of another. -/
def put (t : FileTree) (l : Location) (n : FileNode) : FileTree where
  nodes := (l, n) :: (t.removeWhere (· = l)).nodes
  workingDirectory := t.workingDirectory
  nodup := by
    rw [List.map_cons, List.nodup_cons]
    refine ⟨fun h => ?_, (t.removeWhere (· = l)).nodup⟩
    obtain ⟨⟨l', n'⟩, hm, rfl⟩ := List.mem_map.1 h
    simp [removeWhere] at hm

/-- Makes a directory, if there is none, at the first `n` names on the way to a place. -/
def ensureAbove (t : FileTree) (l : Location) : Nat → FileTree
  | 0 => t
  | n + 1 =>
    let t := t.ensureAbove l n
    match t.get? (l.take (n + 1)) with
    | some .directory => t
    | _ => t.put (l.take (n + 1)) .directory

/-- Puts a node at a place below the directories that this takes. -/
def install (t : FileTree) (l : Location) (n : FileNode) : FileTree :=
  if l = [] then t else (t.ensureAbove l (l.length - 1)).put l n

/-- Moves the working directory to a place, which becomes a directory. -/
def enter (t : FileTree) (l : Location) : FileTree :=
  { t.ensureAbove l l.length with workingDirectory := l }

/-! ## Paths -/

/-- The most bytes that a component may have. -/
def maxNameBytes : Nat := 255

/-- The most bytes that a path may have. -/
def maxPathBytes : Nat := 4095

/-- The place that a component leads to. -/
def walk (t : FileTree) (l : Location) (component : List Char) : Except FileError Location :=
  match t.get? l with
  | some .directory =>
    if component = [] ∨ component = ['.'] then .ok l
    else if component = ['.', '.'] then .ok l.dropLast
    else
      let child := l ++ [String.ofList component]
      if maxNameBytes < Text.byteLength component then .error .nameTooLong
      else if (t.get? child).isSome then .ok child else .error .notFound
  | some (.file _) => .error .notDirectory
  | none => .error .notFound

/-- The place in which a path begins. -/
def startOf (t : FileTree) (path : String) : Location :=
  if path.toList.head? = some '/' then [] else t.workingDirectory

/-- The components of a path that can lead somewhere. -/
def componentsOf (path : String) : Except FileError (List (List Char)) :=
  if '\x00' ∈ path.toList then .error .nulInPath
  else if maxPathBytes < Text.byteLength path.toList then .error .nameTooLong
  else if path.isEmpty then .error .notFound
  else .ok (Text.splitBy (· = '/') path.toList)

/-- The place that a path leads to. -/
def resolve (t : FileTree) (path : String) : Except FileError Location := do
  (← componentsOf path).foldlM t.walk (t.startOf path)

/-- What a path leads to. -/
def node? (t : FileTree) (path : String) : Option FileNode :=
  match t.resolve path with
  | .ok l => t.get? l
  | .error _ => none

/-- Whether a path leads to a file. -/
def isFile (t : FileTree) (path : String) : Bool :=
  match t.node? path with
  | some (.file _) => true
  | _ => false

/-- Whether a path leads to a directory. -/
def isDirectory (t : FileTree) (path : String) : Bool := t.node? path = some .directory

/-! ## Reading and writing -/

/-- The content of the file at a path. -/
def read (t : FileTree) (path : String) : Except FileError (List UInt8) := do
  let l ← t.resolve path
  match t.get? l with
  | some (.file content) => .ok content
  | some .directory => .error .isDirectory
  | none => .error .notFound

/-- The text in the file at a path. -/
def readText (t : FileTree) (path : String) : Except FileError String := do
  match Utf8.text? (← t.read path) with
  | some s => .ok (String.ofList s)
  | none => .error .notText

/-- The names in a directory, in no particular order. -/
def namesIn (t : FileTree) (l : Location) : List String :=
  t.nodes.filterMap fun n => if n.1.dropLast = l then n.1.getLast? else none

/-- The names in the directory at a path, in no particular order. -/
def list (t : FileTree) (path : String) : Except FileError (List String) := do
  let l ← t.resolve path
  match t.get? l with
  | some .directory => .ok (t.namesIn l)
  | some (.file _) => .error .notDirectory
  | none => .error .notFound

/-- The place of a file to be written at a path: the path has to lead to a directory but for its last
component, which names the file. -/
def place (t : FileTree) (path : String) : Except FileError Location := do
  let components ← componentsOf path
  let parent ← components.dropLast.foldlM t.walk (t.startOf path)
  let name := components.getLastD []
  let child := parent ++ [String.ofList name]
  match t.get? parent with
  | some .directory =>
    if name = [] ∨ name = ['.'] ∨ name = ['.', '.'] then .error .isDirectory
    else if maxNameBytes < Text.byteLength name then .error .nameTooLong
    else if t.get? child = some .directory then .error .isDirectory
    else .ok child
  | some (.file _) => .error .notDirectory
  | none => .error .notFound

/-- Writes the file at a path. -/
def write (t : FileTree) (path : String) (content : List UInt8) : Except FileError FileTree := do
  return t.put (← t.place path) (.file content)

/-- The place at which a path is to be installed, regardless of what is there: a component `..` goes
up, and an empty one and `.` stay. -/
def placeOf (t : FileTree) (path : String) : Location :=
  (Text.splitBy (· = '/') path.toList).foldl (fun l c =>
    if c = [] ∨ c = ['.'] then l
    else if c = ['.', '.'] then l.dropLast
    else l ++ [String.ofList c]) (t.startOf path)

/-- Removes what is at a path and below it. -/
def remove (t : FileTree) (path : String) : FileTree :=
  match t.resolve path with
  | .ok l => t.removeAt l
  | .error _ => t

end FileTree

end PluginCatalog
