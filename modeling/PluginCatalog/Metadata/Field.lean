import PluginCatalog.Property.Value
import PluginCatalog.Text.Basic

/-!
# The fields of plugin metadata

Fifteen properties of a plugin have a meaning of their own. Each has a canonical key, and each
requires a kind of value, to which values of other kinds are brought where that is possible: a list
that is given as one text is split into its items (`splitItems`). Sources of metadata name the fields
in different ways (`Vocabulary`).
-/

namespace PluginCatalog.Metadata

/-- The fields with a meaning. -/
inductive Field where
  | name
  | comment
  | icon
  | hidden
  | id
  | author
  | email
  | category
  | depends
  | enabledByDefault
  | license
  | version
  | website
  | serviceTypes
  | library
  deriving DecidableEq, Inhabited

namespace Field

/-- All fields. -/
def all : List Field :=
  [name, comment, icon, hidden, id, author, email, category, depends, enabledByDefault, license,
   version, website, serviceTypes, library]

/-- The canonical key of a field. -/
def key : Field → String
  | name => "Name"
  | comment => "Comment"
  | icon => "Icon"
  | hidden => "Hidden"
  | id => "X-Plugin-Id"
  | author => "X-Plugin-Author"
  | email => "X-Plugin-Email"
  | category => "X-Plugin-Category"
  | depends => "X-Plugin-Depends"
  | enabledByDefault => "X-Plugin-EnabledByDefault"
  | license => "X-Plugin-License"
  | version => "X-Plugin-Version"
  | website => "X-Plugin-Website"
  | serviceTypes => "X-Plugin-ServiceTypes"
  | library => "X-Plugin-Library"

/-- What kind of value a field requires. -/
inductive Kind where
  /-- A text that may have translations. -/
  | title
  | text
  | flag
  | list
  deriving DecidableEq

/-- The kind of value of a field. -/
def kind : Field → Kind
  | name | comment => .title
  | hidden | enabledByDefault => .flag
  | depends | serviceTypes => .list
  | _ => .text

/-- Whether a field has translations. -/
def isTitle (f : Field) : Bool := f.kind = .title

end Field

/-! ## Values of a kind -/

/-- Whether a character separates items. -/
def isItemSeparator (c : Char) : Bool := c = ',' || c = ';'

/-- The items of a list. -/
def splitItems (text : String) : List String :=
  (((Text.splitBy isItemSeparator text.toList).map Text.trim).filter fun item => !item.isEmpty).map
    String.ofList

/-- The text of a value that is shown to users; lists and absent values have none. -/
def displayText? : Value → Option String
  | .text s => some s
  | .number x => some x.plain
  | .bool true => some "true"
  | .bool false => some "false"
  | .list _ => none
  | .absent => none

/-- A value as a list of texts; a single text is split into items. -/
def asList? : Value → Option (List String)
  | .list items => some items
  | .text s => some (splitItems s)
  | _ => none

/-- A value as a flag; a text has to be one of the words `true` and `false` in any case. -/
def asFlag? : Value → Option Bool
  | .bool b => some b
  | .text s =>
    if Text.sameWord s "true" then some true
    else if Text.sameWord s "false" then some false
    else none
  | _ => none

/-- Brings a value to the kind that a field requires. -/
def Field.coerce? (f : Field) (v : Value) : Option Value :=
  match f.kind with
  | .list => (asList? v).map .list
  | .flag => (asFlag? v).map .bool
  | .title | .text => (displayText? v).map .text

/-! ## Names -/

/-- How a source of metadata names the fields that it can declare. -/
structure Vocabulary where
  /-- The name of a field. -/
  name? : Field → Option String

namespace Vocabulary

/-- The field of a name. -/
def field? (v : Vocabulary) (name : String) : Option Field :=
  Field.all.find? fun f => v.name? f = some name

/-- Flat sources use the canonical keys. -/
def canonical : Vocabulary := ⟨fun f => some f.key⟩

/-- The names inside the object `Plugin` of a structured source. Authors have a form of their own. -/
def structured : Vocabulary where
  name?
    | .id => "Id"
    | .name => "Name"
    | .comment => "Description"
    | .icon => "Icon"
    | .category => "Category"
    | .depends => "Dependencies"
    | .enabledByDefault => "EnabledByDefault"
    | .license => "License"
    | .version => "Version"
    | .website => "Website"
    | .serviceTypes => "ServiceTypes"
    | .hidden => "Hidden"
    | .author | .email | .library => none

/-- The names of the older form of metadata. -/
def legacy : Vocabulary where
  name?
    | .name => "Name"
    | .comment => "Comment"
    | .icon => "Icon"
    | .hidden => "Hidden"
    | .id => "X-PluginInfo-Name"
    | .author => "X-PluginInfo-Author"
    | .email => "X-PluginInfo-Email"
    | .category => "X-PluginInfo-Category"
    | .depends => "X-PluginInfo-Depends"
    | .enabledByDefault => "X-PluginInfo-EnabledByDefault"
    | .license => "X-PluginInfo-License"
    | .version => "X-PluginInfo-Version"
    | .website => "X-PluginInfo-Website"
    | .serviceTypes => "ServiceTypes"
    | .library => "X-Library"

end Vocabulary

end PluginCatalog.Metadata
