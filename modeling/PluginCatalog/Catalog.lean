import PluginCatalog.Constraint.Evaluation
import PluginCatalog.Index.Finding
import PluginCatalog.Metadata.DesktopEntry
import PluginCatalog.Record.Normalization

/-!
# Catalogs

A catalog answers which plugins there are in a directory that offer a service and satisfy a
constraint. It never fails: a directory or a plugin that cannot be read contributes nothing, and a
constraint that cannot be read is satisfied by no plugin. A blank constraint is none.
-/

namespace PluginCatalog

namespace Constraint

/-- Whether a constraint text asks for nothing. -/
def isBlank (text : String) : Bool := (Text.trim text.toList).isEmpty

/-- The records that satisfy a constraint in a locale, in order. -/
def filter (c : Constraint) (locale : String) (records : List Record) : List Record :=
  records.filter fun r => c.isSatisfied (r.lookup locale)

/-- The records that satisfy the constraint with a text. -/
def apply (text locale : String) (records : List Record) : List Record :=
  if isBlank text then records
  else
    match parse text with
    | .ok c => c.filter locale records
    | .error _ => []

end Constraint

/-- Where plugins are sought and where their metadata comes from. -/
structure Catalog where
  settings : Settings
  loader : Loader

namespace Catalog

/-- The catalog of an environment, with the metadata in the libraries themselves. -/
def ofEnvironment (env : Environment) : Catalog := ⟨.ofEnvironment env, .embedded⟩

/-- The directories that a directory stands for: itself if it is absolute, else the one below each
base directory. -/
def roots (c : Catalog) (dir : String) : List String :=
  if Path.isAbsolute dir then [dir]
  else c.settings.libraryPaths.map fun base => if dir.isEmpty then base else Path.join base dir

/-- The plugins in a directory that offer a service. The metadata is checked before and after it is
brought to records. -/
def discover (c : Catalog) (t : FileTree) (locale dir tag : String) : List Record :=
  let found := Finding.inDirectories c.settings c.loader t (c.roots dir) tag
  let records := Record.normalizeAll locale (found.map fun f => (.flat f.metadata, f.libraryPath))
  if tag.isEmpty then records else records.filter (·.hasServiceType tag)

/-- The plugins in a directory that offer a service and satisfy a constraint. -/
def query (c : Catalog) (t : FileTree) (locale dir tag constraint : String) : List Record :=
  if Constraint.isBlank constraint then c.discover t locale dir tag
  else
    match Constraint.parse constraint with
    | .ok parsed => parsed.filter locale (c.discover t locale dir tag)
    | .error _ => []

end Catalog

/-- Why a desktop entry file gives no record. -/
inductive EntryError where
  | file (cause : FileError)
  | metadata (cause : MetadataError)
  deriving DecidableEq

/-- The record of a desktop entry file. The library is the one that the file declares. -/
def Record.ofDesktopFile (t : FileTree) (locale path : String) : Except EntryError (Option Record) :=
  match t.readText path with
  | .error cause => .error (.file cause)
  | .ok text =>
    (Record.normalize locale (.flat (Metadata.DesktopEntry.parse text)) "" path).mapError .metadata

end PluginCatalog
