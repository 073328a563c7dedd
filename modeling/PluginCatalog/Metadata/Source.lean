import PluginCatalog.Locale.Translation
import PluginCatalog.Metadata.Field
import PluginCatalog.Property.Bag

/-!
# Sources of metadata

The metadata of a plugin comes in three forms: a JSON document with an object `Plugin` that holds the
fields (structured), a JSON document with older names (legacy), and plain properties (flat). What a
source declares is gathered in one form (`Declaration`): the fields with a meaning, brought to their
kind; the titles with their translations; and all other properties as they are.
-/

namespace PluginCatalog.Metadata

/-- Metadata of a plugin. -/
inductive Source where
  | structured (root : Dict Json)
  | legacy (root : Dict Json)
  | flat (properties : Properties)

/-- The name of the object that holds the fields of a structured source. -/
def namespaceName : String := "Plugin"

namespace Source

/-- The source that a JSON document is: structured if it has an object `Plugin`. A document that is no
object counts as an empty one. -/
def ofJson : Json → Source
  | .object members =>
    let root := Dict.ofList members
    match root.get? namespaceName with
    | some (.object _) => structured root
    | _ => legacy root
  | _ => legacy .empty

/-- Whether a source says nothing. -/
def isEmpty : Source → Bool
  | structured root => root.isEmpty
  | legacy root => root.isEmpty
  | flat properties => properties.isEmpty

end Source

/-! ## Names with a locale

The translation of a field is named by the field and a locale tag in brackets, as in `Name[de]`. -/

/-- Splits a name at its last opening bracket if the name ends in a closing one and there is something
before and between the brackets. -/
def splitLocale (name : String) : String × Option String :=
  match name.toList.reverse with
  | ']' :: inner =>
    let tag := inner.takeWhile (· ≠ '[')
    let base := (inner.dropWhile (· ≠ '[')).drop 1
    if tag.isEmpty || base.isEmpty then (name, none)
    else (String.ofList base.reverse, some (String.ofList tag.reverse))
  | _ => (name, none)

/-- The name of the translation of a field. -/
def withLocale (base tag : String) : String := base ++ "[" ++ tag ++ "]"

/-- What a property name of a source stands for. -/
inductive Slot where
  /-- The value of a field. -/
  | field (f : Field)
  /-- A translation of a title. -/
  | translation (f : Field) (tag : String)
  /-- A property without a meaning of its own. -/
  | custom
  deriving DecidableEq

/-- What a name stands for in a vocabulary. Only titles have translations. -/
def Vocabulary.slot (v : Vocabulary) (name : String) : Slot :=
  match splitLocale name with
  | (base, none) =>
    match v.field? base with
    | some f => .field f
    | none => .custom
  | (base, some tag) =>
    match v.field? base with
    | some f => if f.isTitle then .translation f tag else .custom
    | none => .custom

/-! ## Declarations -/

/-- What a source declares. -/
structure Declaration where
  /-- The name of the plugin with its translations. -/
  name : TranslationTable
  /-- The description of the plugin with its translations. -/
  comment : TranslationTable
  /-- The other fields by canonical key. -/
  fields : Properties
  /-- The properties without a meaning of their own. -/
  custom : Properties

namespace Declaration

/-- The value of a field among properties that are named by a vocabulary. -/
def fieldValue? (v : Vocabulary) (p : Properties) (f : Field) : Option Value :=
  (v.name? f).bind p.get?

/-- The fields other than titles among some properties. A value that cannot be brought to the kind of
its field is dropped. -/
def fieldsOf (v : Vocabulary) (p : Properties) : Properties :=
  .ofList <| Field.all.filterMap fun f =>
    if f.isTitle then none
    else ((fieldValue? v p f).bind f.coerce?).map (f.key, ·)

/-- Adds a property to the translations of a title, if it is one. -/
def addTranslation (v : Vocabulary) (f : Field) (t : TranslationTable) (entry : String × Value) :
    TranslationTable :=
  match v.slot entry.1, displayText? entry.2 with
  | .translation g tag, some text => if g = f then t.withTranslation tag text else t
  | _, _ => t

/-- The texts of a title among some properties. Of translations to one locale the last is kept. -/
def titleOf (v : Vocabulary) (p : Properties) (f : Field) : TranslationTable :=
  let untranslated := ((fieldValue? v p f).bind displayText?).getD ""
  p.toList.foldl (addTranslation v f) (.ofText untranslated)

/-- What properties named by a vocabulary declare. -/
def ofProperties (v : Vocabulary) (p : Properties) : Declaration where
  name := titleOf v p .name
  comment := titleOf v p .comment
  fields := fieldsOf v p
  custom := p.filter fun name _ => v.slot name = .custom

/-- The members of a JSON object as properties, without those that are `null`. -/
def convert (members : Dict Json) : Properties := members.filterMap fun _ j => Value.ofJson? j

/-- The name of the authors of a structured source. -/
def authorsName : String := "Authors"

/-- The first author: the only one, or the first of several. -/
def firstAuthor? : Json → Option (Dict Json)
  | .object members => some (.ofList members)
  | .array (.object members :: _) => some (.ofList members)
  | _ => none

/-- Adds a member of the first author as a field, if it is a string. -/
def addAuthorField (author : Dict Json) (member : String) (f : Field) (fields : Properties) :
    Properties :=
  match author.get? member with
  | some (.string s) => fields.insert f.key (.text s)
  | _ => fields

/-- Adds the author and the address from the authors of a structured source. -/
def addAuthor (namespaceMembers : Dict Json) (fields : Properties) : Properties :=
  match (namespaceMembers.get? authorsName).bind firstAuthor? with
  | some author => addAuthorField author "Email" .email (addAuthorField author "Name" .author fields)
  | none => fields

/-- The members of the object `Plugin`. -/
def namespaceMembers (root : Dict Json) : Dict Json :=
  match root.get? namespaceName with
  | some (.object members) => .ofList members
  | _ => .empty

/-- What a structured source declares. Properties beside the object `Plugin` are custom, and precede
those inside without a meaning. -/
def ofStructured (root : Dict Json) : Declaration :=
  let members := namespaceMembers root
  let inside := ofProperties .structured (convert (members.erase authorsName))
  { inside with
    fields := addAuthor members inside.fields
    custom := inside.custom.overlay (convert (root.erase namespaceName)) }

/-- What a source declares. -/
def ofSource : Source → Declaration
  | .structured root => ofStructured root
  | .legacy root => ofProperties .legacy (convert root)
  | .flat p => ofProperties .canonical p

end Declaration

end PluginCatalog.Metadata
