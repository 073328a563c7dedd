import PluginCatalog.Files.Library
import PluginCatalog.Index.Basic
import PluginCatalog.Settings

/-!
# Finding plugins in directories

A directory with a readable index holds the plugins that the index lists. Any other directory is
scanned: its plugins are the files in it, by name, that are called like a library and for which the
loader has metadata. Several directories are taken one after another, and those that are missing are
passed over. `writeIndex` makes the index of a directory from a scan.
-/

namespace PluginCatalog

open Metadata (Field)

/-- How a plugin was found. -/
inductive Origin where
  | index
  | scan
  deriving DecidableEq

/-- A plugin that was found. -/
structure Finding where
  /-- Its metadata. -/
  metadata : Properties
  /-- The path of its library. -/
  libraryPath : String
  /-- How it was found. -/
  origin : Origin
  deriving DecidableEq

/-- Why a directory has no index after all. -/
inductive IndexError where
  /-- The directory cannot be read. -/
  | unreadableDirectory (path : String) (cause : FileError)
  /-- The index cannot be written. -/
  | unwritable (path : String) (cause : FileError)
  deriving DecidableEq

namespace IndexError

/-- The wording of an error. -/
def message : IndexError → String
  | unreadableDirectory path _ => "Failed to read directory: " ++ Text.quoted path
  | unwritable path _ => "Failed to write plugin index: " ++ Text.quoted path

/-- What lies behind an error. -/
def cause : IndexError → FileError
  | unreadableDirectory _ cause | unwritable _ cause => cause

end IndexError

namespace PluginIndex

/-- Reads the index at a path; none if there is no text or no index in it. -/
def read? (t : FileTree) (path : String) : Option PluginIndex :=
  match t.readText path with
  | .ok s => ofText? s
  | .error _ => none

/-- Writes an index to a path. -/
def write (i : PluginIndex) (t : FileTree) (path : String) : Except IndexError FileTree :=
  (t.write path (Utf8.encode i.text.toList)).mapError (.unwritable path)

/-- The metadata of an indexed plugin; the index supplies an identifier that is missing. -/
def entryProperties (id : String) (e : IndexEntry) : Properties :=
  let p := e.metadata.filterMap fun _ j => Value.ofJson? j
  if p.contains Field.id.key then p else p.insert Field.id.key (.text id)

/-- The plugins of an index, by identifier. -/
def findings (i : PluginIndex) : List Finding :=
  i.plugins.toList.map fun (id, e) => ⟨entryProperties id e, e.path, .index⟩

end PluginIndex

/-! ## Scanning -/

/-- Whether a file name ends in a suffix and has something before it. -/
def hasSuffix (name suffix : String) : Bool :=
  suffix.toList.length < name.toList.length && suffix.toList.isSuffixOf name.toList

/-- Whether a file is called like a library. -/
def Settings.isLibraryName (s : Settings) (name : String) : Bool :=
  s.librarySuffixes.any (hasSuffix name)

/-- Whether a file in a directory is read for the plugins there: the index and the libraries are. -/
def Settings.isRead (s : Settings) (name : String) : Bool :=
  name = s.indexFileName || s.isLibraryName name

/-- The names of the libraries in a directory, in order. -/
def libraryNames (s : Settings) (t : FileTree) (dir : String) (names : List String) : List String :=
  (names.filter fun name => t.isFile (Path.join dir name) && s.isLibraryName name).mergeSort
    fun a b => a ≤ b

/-- The plugins whose libraries are in a directory. -/
def scan (s : Settings) (load : Loader) (t : FileTree) (dir : String) :
    Except IndexError (List Finding) :=
  match t.list dir with
  | .error cause => .error (.unreadableDirectory dir cause)
  | .ok names =>
    .ok <| (libraryNames s t dir names).filterMap fun name =>
      (load t (Path.join dir name)).map (⟨·, Path.join dir name, .scan⟩)

/-! ## Finding -/

namespace Finding

/-- The services that metadata names, before they are brought to a record. -/
def serviceTypes (p : Properties) : List String :=
  match p.get? Field.serviceTypes.key with
  | some (.list types) => types
  | some (.text types) => Metadata.splitItems types
  | _ => []

/-- Whether a plugin names a service; the empty tag is no service and asks for nothing. -/
def offers (tag : String) (f : Finding) : Bool :=
  tag.isEmpty || (serviceTypes f.metadata).contains tag

/-- The index of a directory, if there is one that can be read. -/
def indexOf? (s : Settings) (t : FileTree) (dir : String) : Option PluginIndex :=
  let path := Path.join dir s.indexFileName
  if t.isFile path then PluginIndex.read? t path else none

/-- The plugins in a directory. Where nothing can be listed there are none; in a file tree that is only
where there is no directory (`FileTree.isDirectory_iff_exists_list`). -/
def inDirectory (s : Settings) (load : Loader) (t : FileTree) (dir : String) : List Finding :=
  match indexOf? s t dir with
  | some i => i.findings
  | none =>
    match scan s load t dir with
    | .ok found => found
    | .error _ => []

/-- The plugins in several directories that offer a service. -/
def inDirectories (s : Settings) (load : Loader) (t : FileTree) (dirs : List String) (tag : String) :
    List Finding :=
  dirs.flatMap fun dir =>
    if t.isDirectory dir then (inDirectory s load t dir).filter (offers tag) else []

end Finding

/-! ## Making an index -/

namespace PluginIndex

/-- The version of the indexes that are written. -/
def currentVersion : UInt32 := 1

/-- The identifier under which a plugin is indexed: the declared one, else the file name of its
library. -/
def keyOf (f : Finding) : String :=
  match f.metadata.get? Field.id.key with
  | some (.text id) => if id.isEmpty then (Path.fileStem? f.libraryPath).getD "" else id
  | _ => (Path.fileStem? f.libraryPath).getD ""

/-- A plugin as it is indexed. -/
def entryOf (f : Finding) : IndexEntry := ⟨f.libraryPath, f.metadata.map fun _ v => v.toJson⟩

/-- The index of some plugins, made at a time in milliseconds since 1970. -/
def ofFindings (now : Int) (found : List Finding) : PluginIndex where
  version := some currentVersion
  timestamp := some (.signed (now < 0) ((Magnitude.ofNat now.natAbs).div (.ofNat 1000)))
  plugins := .ofList (found.map fun f => (keyOf f, entryOf f))

end PluginIndex

/-- A written index: where it is, how many plugins it lists, and the tree with it. -/
structure WrittenIndex where
  path : String
  count : Nat
  tree : FileTree

/-- Scans a directory and writes its index. -/
def writeIndex (s : Settings) (load : Loader) (now : Int) (t : FileTree) (dir : String) :
    Except IndexError WrittenIndex := do
  let i := PluginIndex.ofFindings now (← scan s load t dir)
  let path := Path.join dir s.indexFileName
  return ⟨path, i.plugins.size, ← i.write t path⟩

end PluginCatalog
