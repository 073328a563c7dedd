import PluginCatalog.Text.Basic

/-!
# Paths

A path is a text whose components are separated by `/`; one that begins with `/` is absolute. Nothing
is looked up here: `.` and `..` are components, except that a file name is sought past empty
components and `.`.
-/

namespace PluginCatalog.Path

/-- Whether a path is absolute. -/
def isAbsolute (path : String) : Bool := path.toList.head? = some '/'

/-- A path below a base, with one separator between them. An absolute path replaces the base. -/
def join (base path : String) : String :=
  if isAbsolute path || base.isEmpty then path
  else if base.toList.getLast? = some '/' then base ++ path
  else base ++ "/" ++ path

/-- The components of a path that name something: all but the empty ones and `.`. -/
def components (path : String) : List (List Char) :=
  (Text.splitBy (· = '/') path.toList).filter fun c => c ≠ [] && c ≠ ['.']

/-- The name of the file that a path ends in; none if it ends in `..` or has no component. -/
def fileName? (path : String) : Option String :=
  match (components path).getLast? with
  | none => none
  | some name => if name = ['.', '.'] then none else some (String.ofList name)

/-- A file name without its extension, which begins with the last point that is not the first
character. -/
def stem (name : String) : String :=
  let beforePoint := (name.toList.reverse.dropWhile (· ≠ '.')).drop 1
  if beforePoint.isEmpty then name else String.ofList beforePoint.reverse

/-- The file name of a path without its extension. -/
def fileStem? (path : String) : Option String := (fileName? path).map stem

/-- The paths of a list with `:` between them; empty ones name nothing. -/
def splitList (paths : String) : List String :=
  ((Text.splitBy (· = ':') paths.toList).map String.ofList).filter fun p => !p.isEmpty

end PluginCatalog.Path
