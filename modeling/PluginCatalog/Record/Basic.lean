import PluginCatalog.Metadata.Source

/-!
# Plugin records

A record is what is known of one plugin. The fields with a meaning are read by accessors (`id`,
`icon`, …), all properties by `Record.lookup`, which is also what constraints see. A custom property
under the key of a field hides the field from `lookup`, never from the accessor.

The titles of a record either keep their translations, so that each reading follows the locale of the
moment, or are fixed from the start (`Titles`).
-/

namespace PluginCatalog

open Metadata (Field)

/-- A text that is shown to users. -/
inductive DisplayText where
  /-- A text that no longer depends on the locale. -/
  | frozen (text : String)
  /-- A text that each reading translates. -/
  | translatable (table : TranslationTable)
  deriving DecidableEq, Inhabited

namespace DisplayText

/-- The text for a locale. -/
def resolve (locale : String) : DisplayText → String
  | frozen text => text
  | translatable table => table.resolve locale

/-- The translations, if they are kept. -/
def table? : DisplayText → Option TranslationTable
  | frozen _ => none
  | translatable table => some table

end DisplayText

/-- When titles are translated. -/
inductive TranslationPolicy where
  /-- Once, when the record is made. -/
  | eager
  /-- At each reading. -/
  | lazy
  deriving DecidableEq, Inhabited

/-- The name and the description of a plugin. -/
inductive Titles where
  /-- Texts that no longer depend on the locale. -/
  | frozen (name comment : String)
  /-- Texts that each reading translates. -/
  | translatable (name comment : TranslationTable)
  deriving DecidableEq, Inhabited

namespace Titles

/-- When the titles are translated. -/
def policy : Titles → TranslationPolicy
  | frozen _ _ => .eager
  | translatable _ _ => .lazy

/-- The name. -/
def name : Titles → DisplayText
  | frozen name _ => .frozen name
  | translatable name _ => .translatable name

/-- The description. -/
def comment : Titles → DisplayText
  | frozen _ comment => .frozen comment
  | translatable _ comment => .translatable comment

end Titles

/-- When the titles of a record from a source are translated: flat sources are read for one locale. -/
def Metadata.Source.policy : Source → TranslationPolicy
  | structured _ => .lazy
  | legacy _ => .lazy
  | flat _ => .eager

/-- What is known of a plugin. -/
structure Record where
  /-- Its name and description. -/
  titles : Titles
  /-- The fields with a meaning by canonical key. -/
  fields : Bag
  /-- All properties: the fields, under the custom properties. -/
  properties : Bag
  /-- The path of its library, empty if it is not known. -/
  libraryPath : String
  /-- The path of the file that the record was read from, empty if there is none. -/
  entryPath : String
  deriving DecidableEq, Inhabited

namespace Record

/-- The text in a field, empty if there is none. -/
def fieldText (r : Record) (f : Field) : String := (r.fields.lookup f.key).text?.getD ""

/-- The list in a field, empty if there is none. -/
def fieldList (r : Record) (f : Field) : List String := (r.fields.lookup f.key).list?.getD []

/-- The flag in a field, false if there is none. -/
def fieldFlag (r : Record) (f : Field) : Bool := (r.fields.lookup f.key).bool?.getD false

/-- The identifier of the plugin. -/
def id (r : Record) : String := r.fieldText .id

/-- The services that the plugin offers. -/
def serviceTypes (r : Record) : List String := r.fieldList .serviceTypes

/-- Whether the plugin offers a service. -/
def hasServiceType (r : Record) (tag : String) : Bool := r.serviceTypes.contains tag

/-- The name of the plugin in a locale. -/
def name (r : Record) (locale : String) : String := r.titles.name.resolve locale

/-- The description of the plugin in a locale. -/
def comment (r : Record) (locale : String) : String := r.titles.comment.resolve locale

/-- When the titles are translated. -/
def policy (r : Record) : TranslationPolicy := r.titles.policy

/-- The icon of the plugin. -/
def icon (r : Record) : String := r.fieldText .icon

/-- The author of the plugin. -/
def author (r : Record) : String := r.fieldText .author

/-- The address of the author. -/
def email (r : Record) : String := r.fieldText .email

/-- The category of the plugin. -/
def category (r : Record) : String := r.fieldText .category

/-- The plugins that the plugin depends on. -/
def dependencies (r : Record) : List String := r.fieldList .depends

/-- The license of the plugin. -/
def license (r : Record) : String := r.fieldText .license

/-- The version of the plugin. -/
def version (r : Record) : String := r.fieldText .version

/-- The website of the plugin. -/
def website (r : Record) : String := r.fieldText .website

/-- Whether the plugin is hidden from users. -/
def isHidden (r : Record) : Bool := r.fieldFlag .hidden

/-- Whether the plugin is enabled unless the user disables it. -/
def isEnabledByDefault (r : Record) : Bool := r.fieldFlag .enabledByDefault

/-- A text as the value of a property: the empty one is absent. -/
def presentText (text : String) : Value := if text.isEmpty then .absent else .text text

/-- The value of a property in a locale. A title that no property hides is its text. -/
def lookup (r : Record) (locale key : String) : Value :=
  match r.properties.lookup key with
  | .absent =>
    if key = Field.name.key then presentText (r.name locale)
    else if key = Field.comment.key then presentText (r.comment locale)
    else .absent
  | v => v

/-- The properties that are no fields, or that hide one. -/
def customProperties (r : Record) : Properties :=
  r.properties.entries.filter fun key v => r.fields.lookup key ≠ v

/-- The record with one more custom property, or without a property if the value is absent. It is no
longer the record of a file. -/
def withProperty (r : Record) (key : String) (value : Value) : Record :=
  { r with
    properties := .ofProperties (r.properties.entries.insert key value)
    entryPath := "" }

/-- Whether two records agree in properties, titles and paths, numbers by their value. -/
def same (r s : Record) : Bool :=
  r.properties.same s.properties && r.titles = s.titles && r.libraryPath = s.libraryPath
    && r.entryPath = s.entryPath

end Record

end PluginCatalog
