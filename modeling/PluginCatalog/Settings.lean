import PluginCatalog.Json.Decoder
import PluginCatalog.Json.Printer
import PluginCatalog.Locale.Environment
import PluginCatalog.Path

/-!
# Settings

Where plugins are sought and how their files are named. Settings can be read from a JSON text, in
which every member may be missing, and from the environment, which names the base directories.
-/

namespace PluginCatalog

/-- The settings of a catalog. -/
structure Settings where
  /-- The directories below which relative directories are sought, by precedence. -/
  libraryPaths : List String
  /-- The name of the index in a directory. -/
  indexFileName : String
  /-- The endings of library names. -/
  librarySuffixes : List String
  deriving DecidableEq

namespace Settings

/-- The settings when nothing is set. -/
def default : Settings where
  libraryPaths := []
  indexFileName := "pluginindex.json"
  librarySuffixes := [".so", ".dylib", ".bundle", ".sl"]

instance : Inhabited Settings := ⟨default⟩

/-- The variable that lists the base directories. -/
def pathVariable : String := "PLUGIN_PATH"

/-- The settings with the base directories of an environment. -/
def ofEnvironment (env : Environment) : Settings :=
  { default with
    libraryPaths := ((env.values.get? pathVariable).map Path.splitList).getD [] }

/-- Decodes settings. -/
def ofTree? (t : Json.Tree) : Option Settings := do
  match ← t.fixedMembers? ["library_paths", "index_file_name", "library_suffixes"] with
  | [paths, name, suffixes] =>
    return {
      libraryPaths := ← Json.Tree.orDefault default.libraryPaths Json.Tree.texts? paths
      indexFileName := ← Json.Tree.orDefault default.indexFileName Json.Tree.text? name
      librarySuffixes := ← Json.Tree.orDefault default.librarySuffixes Json.Tree.texts? suffixes }
  | _ => none

/-- Reads settings from a JSON text. -/
def ofText? (s : String) : Option Settings := (Json.Tree.ofText? s.toList).bind ofTree?

/-- Settings as a JSON value. -/
def toJson (s : Settings) : Json :=
  .object [
    ("library_paths", .strings s.libraryPaths),
    ("index_file_name", .string s.indexFileName),
    ("library_suffixes", .strings s.librarySuffixes)]

end Settings

end PluginCatalog
