import PluginCatalog.Proofs.Property.Conversion
import PluginCatalog.Proofs.Record.Titles

/-!
# The structured form of records

In the object `Plugin` of a written record each name holds what it stands for
(`Record.get?_toNamespace`).
-/

namespace PluginCatalog

open Metadata (Declaration Field Slot Source Vocabulary withLocale namespaceName)

namespace Record

variable (r : Record)

/-- What the object `Plugin` holds of a record for what a name stands for. -/
def member? : Slot → Option Json
  | .field .id => some (.string r.id)
  | .field .name => r.titles.name.member?.map .string
  | .field .comment => r.titles.comment.member?.map .string
  | .field f => (r.fields.entries.get? f.key).map Value.toJson
  | .translation .name tag => (r.titles.name.translations.get? tag).map .string
  | .translation .comment tag => (r.titles.comment.translations.get? tag).map .string
  | .translation _ _ => none
  | .custom => none

/-- Writing a field stores its value under its name. -/
theorem get?_addFieldToJson (members : Dict Json) (f : Field) (name : String) :
    (r.addFieldToJson members f).get? name
      = if Vocabulary.structured.slot name = .field f
        then ((r.fields.entries.get? f.key).map Value.toJson).or (members.get? name)
        else members.get? name := by
  have hname : Vocabulary.structured.slot name = .field f
      ↔ Vocabulary.structured.name? f = some name :=
    Vocabulary.slot_eq_field_iff Vocabulary.reads_structured
  unfold addFieldToJson
  cases hf : Vocabulary.structured.name? f with
  | none => simp [hname, hf]
  | some own =>
    cases r.fields.entries.get? f.key with
    | none => simp
    | some v =>
      dsimp only
      rw [Dict.get?_insert]
      simp [hname, hf, eq_comm]

/-- Writing fields stores their values under their names. -/
theorem get?_foldl_addFieldToJson (fields : List Field) (members : Dict Json) (name : String) :
    (fields.foldl r.addFieldToJson members).get? name
      = match Vocabulary.structured.slot name with
        | .field f =>
          if f ∈ fields then ((r.fields.entries.get? f.key).map Value.toJson).or (members.get? name)
          else members.get? name
        | _ => members.get? name := by
  induction fields generalizing members with
  | nil => cases Vocabulary.structured.slot name <;> rfl
  | cons g fields ih =>
    rw [List.foldl_cons, ih, get?_addFieldToJson]
    cases Vocabulary.structured.slot name with
    | translation f tag => simp
    | custom => simp
    | field f =>
      by_cases hg : f = g
      · subst hg
        cases hv : r.fields.entries.get? f.key <;> simp [hv]
      · simp [hg]

/-- The authors of a record in the object `Plugin`, if the record names one. -/
def authors? : Option Json :=
  if r.author.isEmpty && r.email.isEmpty then none
  else some (.array [.object [("Email", .string r.email), ("Name", .string r.author)]])

/-- In the object `Plugin` each name holds what it stands for. Beside them there are the authors. -/
theorem get?_toNamespace (h : r.titles.Normal) (name : String) :
    r.toNamespace.get? name
      = if name = Declaration.authorsName then r.authors?
        else r.member? (Vocabulary.structured.slot name) := by
  have hreads := Vocabulary.reads_structured
  have hid : name = "Id" ↔ Vocabulary.structured.slot name = .field .id := by
    rw [Vocabulary.slot_eq_field_iff hreads]
    exact ⟨fun h => h ▸ rfl, fun h => (Option.some.inj h).symm⟩
  have hfields : (structuredFields.foldl r.addFieldToJson
      (r.titles.comment.addToJson "Description" (r.titles.name.addToJson "Name"
        (Dict.empty.insert "Id" (.string r.id))))).get? name
      = r.member? (Vocabulary.structured.slot name) := by
    rw [get?_foldl_addFieldToJson, DisplayText.addToJson_eq,
      DisplayText.addToJson_eq, h.comment.get?_addTexts hreads (f := .comment) rfl rfl (by decide),
      h.name.get?_addTexts hreads (f := .name) rfl rfl (by decide), Dict.get?_insert]
    simp only [hid]
    cases hslot : Vocabulary.structured.slot name with
    | custom => simp [member?]
    | translation f tag => cases f <;> simp [member?]
    | field f =>
      -- The fields that have no name here are no names' meaning.
      have hfield := (Vocabulary.slot_eq_field_iff hreads).1 hslot
      cases f <;> first | cases hfield; done | simp [member?, structuredFields]
  have hauthors : Vocabulary.structured.slot Declaration.authorsName = .custom := by decide
  dsimp only [toNamespace, addAuthorToJson, authors?]
  split
  · rw [hfields]
    split
    · rename_i hname
      rw [hname, hauthors]
      rfl
    · rfl
  · rw [Dict.get?_insert, hfields]

/-! ## The document -/

/-- The members of the structured document of a record. -/
def document : Dict Json :=
  (Dict.empty.insert namespaceName (.ofDict r.toNamespace)).overlay
    (r.customProperties.map fun _ v => v.toJson)

/-- A member of the document is a custom property, or else the object `Plugin`. -/
theorem get?_document (key : String) :
    r.document.get? key
      = ((r.customProperties.get? key).map Value.toJson).or
        (if key = namespaceName then some (.ofDict r.toNamespace) else none) := by
  rw [document, Dict.get?_overlay, Dict.get?_map, Dict.get?_insert]
  rfl

/-- The document reads as a structured source exactly if no custom property takes the place of the
object `Plugin`: no value is written as an object. -/
theorem ofJson_toJson :
    Source.ofJson r.toJson
      = if r.customProperties.contains namespaceName then .legacy r.document
        else .structured r.document := by
  have hroot : Dict.ofList r.document.toList = r.document := Dict.ofList_toList _
  have hobject (v : Value) (members : List (String × Json)) : v.toJson ≠ .object members := by
    cases v <;> simp [Value.toJson, Json.strings, Json.ofBinary64]
    split <;> simp
  have hget := r.get?_document namespaceName
  show Source.ofJson (.object r.document.toList) = _
  rw [if_pos rfl] at hget
  unfold Source.ofJson Dict.contains
  dsimp only
  rw [hroot, hget]
  cases hv : r.customProperties.get? namespaceName with
  | none => rfl
  | some v =>
    rw [Option.map_some, Option.some_or]
    split
    · rename_i members h
      exact absurd (Option.some.inj h) (hobject v members)
    · rfl

/-! ## Reading the document again -/

/-- A member of the object `Plugin` as a property is what its name stands for. -/
theorem get?_convert_toNamespace (h : r.titles.Normal) (name : String) :
    (Declaration.convert (r.toNamespace.erase Declaration.authorsName)).get? name
      = (r.member? (Vocabulary.structured.slot name)).bind Value.ofJson? := by
  have hauthors : Vocabulary.structured.slot Declaration.authorsName = .custom := by decide
  rw [Declaration.convert, Dict.get?_filterMap, Dict.get?_erase, r.get?_toNamespace h]
  by_cases hname : name = Declaration.authorsName
  · subst hname
    rw [if_pos rfl, hauthors]
    rfl
  · rw [if_neg hname, if_neg hname]

variable {r} (h : r.Valid)

include h in
/-- The fields that are read from the object `Plugin` are those of the record that have a name there. -/
theorem Valid.get?_fieldsOf_toNamespace {f : Field} (hf : f.isTitle = false) :
    (Declaration.fieldsOf .structured
        (Declaration.convert (r.toNamespace.erase Declaration.authorsName))).get? f.key
      = (Vocabulary.structured.name? f).bind fun _ => r.fields.entries.get? f.key := by
  rw [Declaration.get?_fieldsOf, hf, if_neg Bool.false_ne_true, Declaration.fieldValue?]
  cases hname : Vocabulary.structured.name? f with
  | none => rfl
  | some name =>
    rw [Option.bind_some, Option.bind_some, r.get?_convert_toNamespace h.normal,
      Vocabulary.reads_structured f name hname]
    by_cases hid : f = .id
    · subst hid
      exact h.get?_id.symm
    · have hmember : r.member? (.field f) = (r.fields.entries.get? f.key).map Value.toJson := by
        cases f with
        | id => exact absurd rfl hid
        | name | comment => cases hf
        | _ => rfl
      rw [hmember]
      cases hv : r.fields.entries.get? f.key with
      | none => rfl
      | some v =>
        have hcoerce := (h.areFields.of_key hv).2
        obtain ⟨hpresent, hnumber⟩ := Field.kind_of_coerce?_self hcoerce
        rw [Option.map_some, Option.bind_some,
          Value.ofJson?_toJson fun x hx => absurd hx (hnumber x), if_neg hpresent, Option.bind_some,
          hcoerce]

include h in
/-- The author and the address are read again together, if the record names one of them. -/
theorem Valid.addAuthor_toNamespace (fields : Properties) :
    Declaration.addAuthor r.toNamespace fields
      = if r.author.isEmpty && r.email.isEmpty then fields
        else (fields.insert Field.author.key (.text r.author)).insert Field.email.key
          (.text r.email) := by
  rw [Declaration.addAuthor, r.get?_toNamespace h.normal, if_pos rfl]
  by_cases hnone : (r.author.isEmpty && r.email.isEmpty) = true
  · rw [if_pos hnone, authors?, if_pos hnone]
    rfl
  · rw [if_neg hnone, authors?, if_neg hnone]
    simp [Declaration.firstAuthor?, Declaration.addAuthorField, Dict.get?_ofList, Dict.lookup]

section

variable (hplugin : r.customProperties.contains namespaceName = false)

include hplugin in
/-- The object `Plugin` is found again. -/
theorem namespaceMembers_document : Declaration.namespaceMembers r.document = r.toNamespace := by
  have hget := r.get?_document namespaceName
  rw [Dict.contains_eq_false_iff.1 hplugin, if_pos rfl] at hget
  unfold Declaration.namespaceMembers
  rw [hget]
  exact Dict.ofList_toList _

include h hplugin in
/-- What the document declares of the fields of a record: the author and the address if one of them is
not empty, not the library, and the others as they are. -/
theorem Valid.get?_fields_ofStructured {f : Field} (hf : f.isTitle = false) :
    (Declaration.ofStructured r.document).fields.get? f.key
      = if f = .author ∨ f = .email then
          if r.author.isEmpty && r.email.isEmpty then none else some (.text (r.fieldText f))
        else if f = .library then none
        else r.fields.entries.get? f.key := by
  have hkey {g : Field} : f.key = g.key ↔ f = g :=
    ⟨fun hk => Field.key_injective hk, fun hk => by rw [hk]⟩
  have hinside := h.get?_fieldsOf_toNamespace hf
  simp only [Declaration.ofStructured, namespaceMembers_document hplugin, Declaration.ofProperties]
  rw [h.addAuthor_toNamespace]
  split
  · rw [hinside]
    cases f <;> rfl
  · simp only [Dict.get?_insert, hkey, hinside]
    cases f <;> rfl

variable (locale entryPath : String)

include h hplugin in
/-- The document gives a record with the identifier of the one that was written and the library that
is given. -/
theorem Valid.normalize_toJson :
    normalize locale (Source.ofJson r.toJson) r.libraryPath entryPath
      = .ok (some ((Declaration.ofStructured r.document).record r.id r.libraryPath entryPath
          (.translatable (Declaration.ofStructured r.document).name
            (Declaration.ofStructured r.document).comment))) := by
  have hget {f : Field} (hf : f.isTitle = false) := h.get?_fields_ofStructured hplugin hf
  have hnonempty : (Source.structured r.document).isEmpty = false := by
    have hdocument := r.get?_document namespaceName
    rw [Dict.contains_eq_false_iff.1 hplugin, if_pos rfl] at hdocument
    exact Dict.isEmpty_eq_false hdocument
  rw [ofJson_toJson, hplugin, if_neg Bool.false_ne_true]
  refine h.normalize_of_fields hnonempty (fun f hf => ?_) (fun _ => ?_) locale entryPath
  · rcases hf with rfl | rfl | rfl <;> exact hget rfl
  · show ((_ : Option Value).bind _).getD "" = ""
    rw [show (Declaration.ofSource (.structured r.document)).fields.get? Field.library.key = none
      from hget rfl]
    rfl

include h hplugin in
/-- What the record of the document keeps of the fields. -/
theorem Valid.get?_fields_record_document (titles : Titles) {f : Field} (hf : f.isTitle = false) :
    ((Declaration.ofStructured r.document).record r.id r.libraryPath entryPath
        titles).fields.entries.get? f.key
      = if f = .author ∨ f = .email then
          if r.author.isEmpty && r.email.isEmpty then none else some (.text (r.fieldText f))
        else if f = .library then none
        else r.fields.entries.get? f.key := by
  rw [Declaration.get?_fields_record _ _ _ _ _ (Declaration.areFields_ofStructured _) hf,
    h.get?_fields_ofStructured hplugin hf]
  split
  · rename_i hid
    subst hid
    exact h.get?_id.symm
  · rfl

include h hplugin in
/-- The document gives a record that agrees with the one that was written in its fields. -/
theorem Valid.exists_normalize_toJson :
    ∃ s, normalize locale (Source.ofJson r.toJson) r.libraryPath entryPath = .ok (some s)
      ∧ r.SameFields s := by
  have hget {f : Field} (hf : f.isTitle = false) := h.get?_fields_record_document hplugin entryPath
    (.translatable (Declaration.ofStructured r.document).name
      (Declaration.ofStructured r.document).comment) hf
  refine ⟨_, h.normalize_toJson hplugin locale entryPath, SameFields.of_values ?_ ?_⟩
  · intro f hkind hlibrary
    rw [fieldText, Bag.lookup, Properties.lookup, hget (by rw [Field.isTitle, hkind]; rfl)]
    split
    · rename_i hauthor
      split
      · rename_i hempty
        simp only [Bool.and_eq_true, String.isEmpty_iff] at hempty
        rcases hauthor with rfl | rfl
        · exact hempty.1.symm
        · exact hempty.2.symm
      · rfl
    · rfl
  · intro f hkind
    have htitle : f.isTitle = false := by
      rcases hkind with hk | hk <;> rw [Field.isTitle, hk] <;> rfl
    rw [Bag.lookup, Properties.lookup, hget htitle]
    cases f with
    | serviceTypes | depends | hidden | enabledByDefault => rfl
    | _ => simp [Field.kind] at hkind

end

/-- The structured form of a record, whatever its origin and with whatever custom properties, reads as
a structured source exactly if no custom property has the name of the object `Plugin`. It then gives a
record that agrees with the one that was written in its fields. -/
theorem toJson_readable_iff {locale libraryPath entryPath : String} {source : Source} {r₀ : Record}
    (h : normalize locale source libraryPath entryPath = .ok (some r₀))
    (steps : List (String × Value)) (locale' : String) :
    let r := r₀.withProperties steps
    ((∃ root, Source.ofJson r.toJson = .structured root)
        ↔ r.customProperties.contains namespaceName = false) ∧
      (r.customProperties.contains namespaceName = false →
        ∃ s, normalize locale' (Source.ofJson r.toJson) r.libraryPath "" = .ok (some s)
          ∧ r.SameFields s) := by
  intro r
  have hvalid : r.Valid := (valid_of_normalize h).withProperties steps
  refine ⟨?_, fun hplugin => hvalid.exists_normalize_toJson hplugin locale' ""⟩
  rw [ofJson_toJson]
  cases r.customProperties.contains namespaceName <;> simp

/-- Metadata in the older form with one property beside the fields. -/
def sourceWithProperty (key : String) : Source :=
  .legacy (.ofList [("X-PluginInfo-Name", .string "spy"), ("ServiceTypes", .strings ["Plugin/NSA"]),
    (key, .string "x")])

/-- A property of some name can be added, one that is called like the object `Plugin` cannot. -/
theorem toJson_readable_iff_added :
    ∃ r, normalize "" (sourceWithProperty "Origin") "" "" = .ok (some r) ∧
      (∃ root, Source.ofJson (r.withProperties [("Size", .text "2")]).toJson = .structured root) ∧
      ¬∃ root, Source.ofJson (r.withProperties [("Plugin", .text "2")]).toJson
        = .structured root := by
  have h : normalize "" (sourceWithProperty "Origin") "" "" = .ok (some _) := rfl
  refine ⟨_, h, (toJson_readable_iff h [("Size", .text "2")] "").1.2 rfl, fun hread => ?_⟩
  cases (toJson_readable_iff h [("Plugin", .text "2")] "").1.1 hread

/-- A custom property takes the place of the object `Plugin`: what is written is no structured source,
and names no plugin. -/
theorem toJson_displaced :
    ∃ r, normalize "" (sourceWithProperty "Plugin") "" "" = .ok (some r) ∧ r.id = "spy" ∧
      (∀ root, Source.ofJson r.toJson ≠ .structured root) ∧
      normalize "" (Source.ofJson r.toJson) r.libraryPath "" = .error .noIdentity :=
  ⟨_, rfl, rfl, fun _ h => (by cases h), rfl⟩

end Record

end PluginCatalog
