import PluginCatalog.Record.Basic

/-!
# Records as metadata

A record can be written as the metadata of either a flat source (`Record.toProperties`) or a
structured one (`Record.toJson`). In the flat form a custom property under a key that is already taken
is left out; in the structured form custom properties stand beside the object `Plugin`.
-/

namespace PluginCatalog

open Metadata (Field withLocale)

namespace DisplayText

/-- Adds a title to flat metadata: a text that is not empty, and every translation. -/
def addToProperties (key : String) (text : DisplayText) (p : Properties) : Properties :=
  match text with
  | frozen s => if s.isEmpty then p else p.insert key (.text s)
  | translatable table =>
    table.translations.toList.foldl (fun p e => p.insert (withLocale key e.1) (.text e.2))
      (if table.default.isEmpty then p else p.insert key (.text table.default))

/-- Adds a title to the object `Plugin`: a fixed text that is not empty, or a text with every
translation. -/
def addToJson (name : String) (text : DisplayText) (members : Dict Json) : Dict Json :=
  match text with
  | frozen s => if s.isEmpty then members else members.insert name (.string s)
  | translatable table =>
    table.translations.toList.foldl (fun m e => m.insert (withLocale name e.1) (.string e.2))
      (members.insert name (.string table.default))

end DisplayText

namespace Record

/-- A record as flat metadata. -/
def toProperties (r : Record) : Properties :=
  let titled := r.titles.comment.addToProperties Field.comment.key
    (r.titles.name.addToProperties Field.name.key r.fields.entries)
  let located :=
    if r.libraryPath.isEmpty || titled.contains Field.library.key then titled
    else titled.insert Field.library.key (.text r.libraryPath)
  r.customProperties.overlay located

/-- The fields that are written under a name of their own in the object `Plugin`. -/
def structuredFields : List Field :=
  [.icon, .category, .depends, .enabledByDefault, .license, .version, .website, .serviceTypes, .hidden]

/-- Adds a field to the object `Plugin`, if the record has it. -/
def addFieldToJson (r : Record) (members : Dict Json) (f : Field) : Dict Json :=
  match Metadata.Vocabulary.structured.name? f, r.fields.entries.get? f.key with
  | some name, some v => members.insert name v.toJson
  | _, _ => members

/-- Adds the author to the object `Plugin`, if the record names one. -/
def addAuthorToJson (r : Record) (members : Dict Json) : Dict Json :=
  if r.author.isEmpty && r.email.isEmpty then members
  else
    members.insert Metadata.Declaration.authorsName <|
      .array [.object [("Email", .string r.email), ("Name", .string r.author)]]

/-- The members of the object `Plugin`. -/
def toNamespace (r : Record) : Dict Json :=
  let titled := r.titles.comment.addToJson "Description"
    (r.titles.name.addToJson "Name" (Dict.empty.insert "Id" (.string r.id)))
  r.addAuthorToJson (structuredFields.foldl r.addFieldToJson titled)

/-- A record as a structured document. -/
def toJson (r : Record) : Json :=
  .ofDict <| (Dict.empty.insert Metadata.namespaceName (.ofDict r.toNamespace)).overlay
    (r.customProperties.map fun _ v => v.toJson)

end Record

end PluginCatalog
