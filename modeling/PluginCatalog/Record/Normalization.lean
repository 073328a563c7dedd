import PluginCatalog.Path
import PluginCatalog.Record.Basic

/-!
# From metadata to records

A source gives a record if the plugin has an identifier, declared or taken from the file name of its
library, and is of use: it offers a service or declares whether it is enabled by default. Metadata
without an identifier is malformed, which is an error; an empty source and a plugin of no use give no
record.
-/

namespace PluginCatalog

open Metadata (Declaration Field Source)

/-- Why metadata gives no answer. -/
inductive MetadataError where
  /-- There is neither an identifier nor a library to take one from. -/
  | noIdentity
  deriving DecidableEq

/-- The wording of an error. -/
def MetadataError.message : MetadataError → String
  | noIdentity => "Malformed plugin metadata: no plugin id and no library path to derive one from"

namespace Metadata.Declaration

/-- The library that a declaration names. -/
def library (d : Declaration) : String := ((d.fields.get? Field.library.key).bind Value.text?).getD ""

/-- The identifier that a declaration names, if it is not empty. -/
def declaredId? (d : Declaration) : Option String :=
  ((d.fields.get? Field.id.key).bind Value.text?).filter fun id => !id.isEmpty

/-- The services that a declaration names. -/
def serviceTypes (d : Declaration) : List String :=
  ((d.fields.get? Field.serviceTypes.key).bind Value.list?).getD []

/-- Whether a plugin is of use. -/
def isUseful (d : Declaration) : Bool :=
  !d.serviceTypes.isEmpty || d.fields.contains Field.enabledByDefault.key

/-- The titles of a declaration; those that are translated once are so for a locale. -/
def titles (d : Declaration) (locale : String) : TranslationPolicy → Titles
  | .lazy => .translatable d.name d.comment
  | .eager => .frozen (d.name.resolve locale) (d.comment.resolve locale)

/-- Adds a title that is not empty to some fields. -/
def addTitle (f : Field) (text : String) (fields : Properties) : Properties :=
  if text.isEmpty then fields else fields.insert f.key (.text text)

/-- Adds the titles that no longer depend on the locale to some fields. -/
def addTitles (fields : Properties) : Titles → Properties
  | .frozen name comment => addTitle .comment comment (addTitle .name name fields)
  | .translatable _ _ => fields

/-- The record of a declaration with an identifier. -/
def record (d : Declaration) (id libraryPath entryPath : String) (titles : Titles) : Record :=
  let fields := addTitles (d.fields.insert Field.id.key (.text id)) titles
  { titles
    fields := .ofProperties fields
    properties := .ofProperties (fields.overlay d.custom)
    libraryPath
    entryPath }

end Metadata.Declaration

namespace Record

/-- The path of the library: the one that is given, else the declared one. -/
def effectivePath (d : Declaration) (libraryPath : String) : String :=
  if libraryPath.isEmpty then d.library else libraryPath

/-- The record of a source that was read in a locale, if it gives one. -/
def normalize (locale : String) (source : Source) (libraryPath entryPath : String) :
    Except MetadataError (Option Record) :=
  if source.isEmpty then .ok none
  else
    let d := Declaration.ofSource source
    let path := effectivePath d libraryPath
    match d.declaredId?.or (Path.fileStem? path) with
    | none => .error .noIdentity
    | some id =>
      if d.isUseful then .ok (some (d.record id path entryPath (d.titles locale source.policy)))
      else .ok none

/-- The records of several sources with the paths of their libraries. A source that gives no record
does not affect the others. -/
def normalizeAll (locale : String) (sources : List (Source × String)) : List Record :=
  sources.filterMap fun (source, libraryPath) =>
    match normalize locale source libraryPath "" with
    | .ok r => r
    | .error _ => none

end Record

end PluginCatalog
