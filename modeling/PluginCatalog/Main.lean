import PluginCatalog.CommandLine
import Std.Time.DateTime.Timestamp

/-!
# The program

The program takes a file tree of the directories that its command looks into, runs the command on it,
writes the files that the command changed, and prints what it says. In these directories it reads the
files that are read for plugins and passes over all others.
-/

namespace PluginCatalog.Program

/-- The variables that the program reads. -/
def variablesRead : List String := Settings.pathVariable :: Environment.localeVariables

/-- The environment of the process. -/
def environment : IO Environment := do
  let found ← variablesRead.filterMapM fun name => return (← IO.getEnv name).map (name, ·)
  return ⟨none, .ofList found⟩

/-- The path of a place. -/
def pathOf (l : Location) : String := "/" ++ "/".intercalate l

/-- Adds what there is at a place. The content of a file counts only if it is asked for; a file that
cannot be read is passed over. -/
def addPlace (t : FileTree) (l : Location) (withContent : Bool) : IO FileTree := do
  let path := (← IO.currentDir) / pathOf l
  if ← path.isDir then return t.install l .directory
  else if ← path.pathExists then
    if withContent then
      try
        return t.install l (.file (← IO.FS.readBinFile path).toList)
      catch _ => return t
    else return t.install l (.file [])
  else return t

/-- Adds the places on the way to a path, the last of them included. -/
def addWay (t : FileTree) (path : String) : IO FileTree := do
  let names := (Text.splitBy (· = '/') path.toList).map String.ofList
  let ways := (List.range names.length).map fun n => "/".intercalate (names.take (n + 1))
  ways.foldlM (fun t way => addPlace t (t.placeOf way) false) t

/-- Adds a directory with what is read in it and the directories in it. -/
def addDirectory (s : Settings) (t : FileTree) (dir : String) : IO FileTree := do
  let t ← addWay t dir
  let path := (← IO.currentDir) / dir
  if ← path.isDir then
    try
      (← path.readDir).toList.foldlM (fun t entry => do
        if s.isRead entry.fileName then addPlace t (t.placeOf dir ++ [entry.fileName]) true
        else return t) t
    catch _ => return t
  else return t

/-- The file tree of some directories. -/
def fileTree (s : Settings) (dirs : List String) : IO FileTree := do
  let workingDirectory := FileTree.empty.placeOf (← IO.currentDir).toString
  dirs.foldlM (addDirectory s) (FileTree.empty.enter workingDirectory)

/-- Writes the files in which a tree differs from an earlier one. -/
def writeChanges (earlier later : FileTree) : IO Unit := do
  for (l, node) in later.nodes do
    match node with
    | .file content =>
      if earlier.get? l ≠ some node then
        IO.FS.writeBinFile ((← IO.currentDir) / pathOf l) ⟨content.toArray⟩
    | .directory => pure ()

/-- Runs the program with arguments. -/
def run (args : List String) : IO UInt32 := do
  let env ← environment
  let t ← fileTree (.ofEnvironment env) (CommandLine.directories env args)
  let now ← Std.Time.Timestamp.now
  let result := CommandLine.run env now.toMillisecondsSinceUnixEpoch.val t args
  writeChanges t result.tree
  result.output.forM IO.println
  result.errors.forM IO.eprintln
  return result.exitCode

end PluginCatalog.Program

/-- Runs the program. -/
def main (args : List String) : IO UInt32 := PluginCatalog.Program.run args
