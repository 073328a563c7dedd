import PluginCatalog.Catalog
import PluginCatalog.Record.Views

/-!
# The command line

`query` prints the plugins in a directory, each as a line of JSON, and `index` writes the index of a
directory. A command gives what it prints, its exit code, and the files as it leaves them.
-/

namespace PluginCatalog.CommandLine

/-- What a command leaves behind. -/
structure Result where
  exitCode : UInt32
  output : List String
  errors : List String
  tree : FileTree

/-- How the program is called. -/
def usage : List String :=
  ["usage: pluginfinder query <dir> [capability] [constraint]",
   "       pluginfinder index <dir>"]

/-- A plugin as a line of output. -/
def pluginLine (r : Record) : String :=
  (Json.object [("library", .string r.libraryPath), ("metadata", r.toJson)]).text

/-- The result of an error: the lines about it. -/
def failure (t : FileTree) (lines : List String) : Result := ⟨1, [], lines, t⟩

/-- Prints the plugins in a directory that offer a service and satisfy a constraint. -/
def query (env : Environment) (t : FileTree) (dir tag constraint : String) : Result :=
  let found := (Catalog.ofEnvironment env).query t env.locale dir tag constraint
  let count := String.ofList (Decimal.text found.length)
  ⟨0, found.map pluginLine, ["Matching plugins: " ++ count], t⟩

/-- Writes the index of a directory. -/
def index (env : Environment) (now : Int) (t : FileTree) (dir : String) : Result :=
  match writeIndex (.ofEnvironment env) .embedded now t dir with
  | .ok written =>
    let count := String.ofList (Decimal.text written.count)
    ⟨0, ["Indexed " ++ count ++ " plugins into " ++ written.path], [], written.tree⟩
  | .error e =>
    failure t ["Error: Failed to index " ++ dir, "", "Caused by:", "    0: " ++ e.message,
      "    1: " ++ e.cause.message]

/-- The directories that the program looks into when it is called with some arguments. -/
def directories (env : Environment) : List String → List String
  | "query" :: dir :: _ => (Catalog.ofEnvironment env).roots dir
  | ["index", dir] => [dir]
  | _ => []

/-- Runs the program with arguments, at a time in milliseconds since 1970. -/
def run (env : Environment) (now : Int) (t : FileTree) (args : List String) : Result :=
  match args with
  | ["query", dir] => query env t dir "" ""
  | ["query", dir, tag] => query env t dir tag ""
  | ["query", dir, tag, constraint] => query env t dir tag constraint
  | ["index", dir] => index env now t dir
  | _ => failure t (usage.modifyHead ("Error: " ++ ·))

end PluginCatalog.CommandLine
