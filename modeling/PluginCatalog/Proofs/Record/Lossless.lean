import PluginCatalog.Proofs.Record.StructuredForm

/-!
# Records that the structured form holds

The structured form of a record from a structured source gives the record again, with all of its custom
properties (`Record.normalize_toJson_eq`). The invariant behind it is that the titles keep their
translations, that every field is listed among the properties, and that JSON can hold every property
(`Record.Lossless`).
-/

namespace PluginCatalog

open Metadata (Declaration Field Slot Source Vocabulary withLocale namespaceName)

/-! ## Properties that JSON can hold -/

/-- All properties are finite values, and none is absent. -/
def Properties.Storable (p : Properties) : Prop :=
  ∀ key v, p.get? key = some v → v ≠ .absent ∧ v.IsFinite

/-- Storable properties are present. -/
theorem Properties.Storable.present {p : Properties} (h : p.Storable) : p.Present :=
  fun key hv => (h key .absent hv).1 rfl

/-- Of two kinds of storable properties all are storable. -/
theorem Properties.Storable.overlay {p q : Properties} (hp : p.Storable) (hq : q.Storable) :
    Properties.Storable (p.overlay q) := by
  intro key v hv
  rw [Dict.get?_overlay, Option.or_eq_some_iff] at hv
  rcases hv with hv | ⟨-, hv⟩
  · exact hq key v hv
  · exact hp key v hv

/-- A storable value can be added. -/
theorem Properties.Storable.insert {p : Properties} (hp : p.Storable) {key : String} {value : Value}
    (h : value ≠ .absent ∧ value.IsFinite) : Properties.Storable (p.insert key value) := by
  intro k v hv
  rw [Dict.get?_insert] at hv
  split at hv
  · cases hv
    exact h
  · exact hp k v hv

/-- Fields are storable: they are no numbers. -/
theorem Properties.AreFields.storable {P : Field → Prop} {p : Properties} (h : p.AreFields P) :
    p.Storable := by
  intro key v hv
  obtain ⟨f, -, -, hcoerce⟩ := h key v hv
  obtain ⟨hpresent, hnumber⟩ := Field.kind_of_coerce?_self hcoerce
  exact ⟨hpresent, fun x hx => absurd hx (hnumber x)⟩

namespace Metadata.Declaration

/-- Properties from JSON are storable. -/
theorem storable_convert (members : Dict Json) : (convert members).Storable := by
  intro key v hv
  rw [convert, Dict.get?_filterMap, Option.bind_eq_some_iff] at hv
  obtain ⟨j, -, hj⟩ := hv
  exact Value.isFinite_of_ofJson? hj

/-- The properties of a structured source without a meaning are storable. -/
theorem storable_custom_ofStructured (root : Dict Json) : (ofStructured root).custom.Storable := by
  refine Properties.Storable.overlay (fun key v hv => ?_) (storable_convert _)
  rw [get?_custom] at hv
  split at hv
  · exact storable_convert _ key v hv
  · cases hv

end Metadata.Declaration

namespace Record

/-! ## The invariant -/

/-- What holds of a record from a structured source, whatever custom properties are added. -/
structure Lossless (r : Record) : Prop where
  /-- The titles keep their translations. -/
  lazy : r.policy = .lazy
  /-- No title and no library is a field. -/
  areFields : r.fields.entries.AreFields fun f => f.isTitle = false ∧ f ≠ .library
  /-- Every field is listed among the properties, though perhaps with a value of its own. -/
  listed : ∀ key, r.properties.entries.get? key = none → r.fields.entries.get? key = none
  /-- JSON can hold the properties. -/
  storable : r.properties.entries.Storable
  /-- The record was not read from a file of its own. -/
  entryPath : r.entryPath = ""

/-- A declaration of no titles and no library among its fields gives a record that is held. -/
theorem lossless_record {d : Declaration} (id libraryPath : String) (name comment : TranslationTable)
    (hfields : d.fields.AreFields fun f => f.isTitle = false ∧ f ≠ .library)
    (hcustom : d.custom.Storable) :
    (d.record id libraryPath "" (.translatable name comment)).Lossless := by
  have hkept := d.areFields_record id libraryPath "" (.translatable name comment) hfields
    ⟨rfl, by decide⟩ nofun
  have hproperties := d.entries_properties_record id libraryPath "" (.translatable name comment)
    hfields hcustom.present
  refine ⟨rfl, hkept, fun key hkey => ?_, ?_, rfl⟩
  · rw [hproperties, Dict.get?_overlay, Option.or_eq_none_iff] at hkey
    exact hkey.2
  · rw [hproperties]
    exact hkept.storable.overlay hcustom

/-- A record from a structured source is held by the structured form. -/
theorem lossless_of_normalize {locale libraryPath : String} {root : Dict Json} {r : Record}
    (h : normalize locale (.structured root) libraryPath "" = .ok (some r)) : r.Lossless := by
  obtain ⟨-, -, id, -, rfl⟩ := normalize_eq_ok_some_iff.1 h
  exact lossless_record id _ _ _ (Declaration.areFields_ofStructured root)
    (Declaration.storable_custom_ofStructured root)

variable {r : Record}

/-- A finite value as a custom property keeps a record held. -/
theorem Lossless.withProperty (h : r.Lossless) (key : String) {value : Value}
    (hvalue : value ≠ .absent ∧ value.IsFinite) : (r.withProperty key value).Lossless := by
  have hproperties : (r.withProperty key value).properties.entries
      = r.properties.entries.insert key value :=
    (h.storable.insert hvalue).present.entries_ofProperties
  refine ⟨h.lazy, h.areFields, fun k hk => h.listed k ?_, ?_, rfl⟩
  · rw [hproperties, Dict.get?_insert] at hk
    split at hk
    · cases hk
    · exact hk
  · rw [hproperties]
    exact h.storable.insert hvalue

/-- Finite values as custom properties keep a record held. -/
theorem Lossless.withProperties (h : r.Lossless) {steps : List (String × Value)}
    (hsteps : ∀ e ∈ steps, e.2 ≠ .absent ∧ e.2.IsFinite) : (r.withProperties steps).Lossless := by
  induction steps generalizing r with
  | nil => exact h
  | cons e steps ih =>
    exact ih (h.withProperty e.1 (hsteps e List.mem_cons_self))
      fun e he => hsteps e (List.mem_cons_of_mem _ he)

/-! ## Reading the document again -/

/-- Custom properties over the fields are all properties. -/
theorem Lossless.overlay_customProperties (h : r.Lossless) :
    r.fields.entries.overlay r.customProperties = r.properties.entries := by
  refine Dict.ext_get? fun key => ?_
  rw [Dict.get?_overlay, customProperties, Dict.get?_filter]
  cases hv : r.properties.entries.get? key with
  | none => exact h.listed key hv
  | some v =>
    by_cases hhidden : r.fields.lookup key = v
    -- A property that is no custom one has the value of the field.
    · have hfield : r.fields.entries.get? key = some v := by
        rw [Bag.lookup, Properties.lookup] at hhidden
        cases hw : r.fields.entries.get? key with
        | none =>
          rw [hw] at hhidden
          exact absurd hhidden.symm (h.storable key v hv).1
        | some w =>
          rw [hw] at hhidden
          exact congrArg some hhidden
      simp [Option.filter, hhidden, hfield]
    · simp [Option.filter, hhidden]

/-- The custom properties are storable. -/
theorem Lossless.storable_customProperties (h : r.Lossless) : r.customProperties.Storable := by
  intro key v hv
  rw [customProperties, Dict.get?_filter, Option.filter_eq_some_iff] at hv
  exact h.storable key v hv.1

section

variable (hvalid : r.Valid) (h : r.Lossless)
  (hplugin : r.customProperties.contains namespaceName = false)

include hvalid h hplugin in
/-- The document declares the custom properties of the record. -/
theorem Lossless.custom_document :
    (Declaration.ofStructured r.document).custom = r.customProperties := by
  have hmissing := Dict.contains_eq_false_iff.1 hplugin
  refine Dict.ext_get? fun key => ?_
  -- Nothing inside the object `Plugin` is without a meaning.
  have hinside : (Declaration.ofProperties .structured
      (Declaration.convert (r.toNamespace.erase Declaration.authorsName))).custom.get? key = none := by
    rw [Declaration.get?_custom, r.get?_convert_toNamespace hvalid.normal]
    split
    · rename_i hslot
      rw [hslot]
      rfl
    · rfl
  dsimp only [Declaration.ofStructured]
  rw [namespaceMembers_document hplugin, Dict.get?_overlay, hinside, Option.or_none,
    Declaration.convert, Dict.get?_filterMap, Dict.get?_erase, get?_document]
  by_cases hkey : key = namespaceName
  · rw [if_pos hkey, hkey, hmissing]
    rfl
  · rw [if_neg hkey, if_neg hkey, Option.or_none]
    cases hv : r.customProperties.get? key with
    | none => rfl
    | some v =>
      obtain ⟨hpresent, hfinite⟩ := h.storable_customProperties key v hv
      rw [Option.map_some, Option.bind_some, Value.ofJson?_toJson hfinite, if_neg hpresent]

include hvalid in
/-- The object `Plugin` declares the texts of a title again. -/
theorem Valid.titleOf_toNamespace {f : Field} (htitle : f.isTitle = true) {base : String}
    (hbase : Vocabulary.structured.name? f = some base) (hne : base ≠ "") {t : TranslationTable}
    (ht : t.Normal) (hdefault : r.member? (.field f) = some (.string t.default))
    (htexts : ∀ tag, r.member? (.translation f tag) = (t.translations.get? tag).map .string) :
    Declaration.titleOf .structured
      (Declaration.convert (r.toNamespace.erase Declaration.authorsName)) f = t := by
  refine Declaration.titleOf_eq_of_texts Vocabulary.reads_structured htitle hbase hne ht ?_ ?_
  · rw [r.get?_convert_toNamespace hvalid.normal, Vocabulary.reads_structured f base hbase, hdefault]
    rfl
  · intro tag htag hbracket
    have hslot : Vocabulary.structured.slot (withLocale base tag) = .translation f tag :=
      Vocabulary.slot_withLocale Vocabulary.reads_structured htitle hbase hne htag hbracket
    rw [r.get?_convert_toNamespace hvalid.normal, hslot, htexts]
    cases t.translations.get? tag <;> rfl

include hvalid h hplugin in
/-- The document declares the titles of the record. -/
theorem Lossless.titles_document :
    Titles.translatable (Declaration.ofStructured r.document).name
      (Declaration.ofStructured r.document).comment = r.titles := by
  have hlazy := h.lazy
  have hnormal := hvalid.normal
  cases htitles : r.titles with
  | frozen name comment =>
    rw [policy, htitles] at hlazy
    cases hlazy
  | translatable name comment =>
    rw [htitles] at hnormal
    dsimp only [Declaration.ofStructured, Declaration.ofProperties]
    rw [namespaceMembers_document hplugin,
      hvalid.titleOf_toNamespace (f := .name) (t := name) rfl rfl (by decide) hnormal.name,
      hvalid.titleOf_toNamespace (f := .comment) (t := comment) rfl rfl (by decide) hnormal.comment]
    all_goals simp [member?, htitles, Titles.name, Titles.comment, DisplayText.member?,
      DisplayText.translations]

/-- The record that the structured form of a record gives. -/
def restructured (r : Record) : Record :=
  (Declaration.ofStructured r.document).record r.id r.libraryPath "" r.titles

include hvalid h hplugin in
/-- The structured form gives that record. -/
theorem Lossless.normalize_restructured (locale : String) :
    normalize locale (Source.ofJson r.toJson) r.libraryPath "" = .ok (some r.restructured) := by
  rw [hvalid.normalize_toJson hplugin, h.titles_document hvalid hplugin]
  rfl

include h in
/-- No title and no library is a field of it. -/
theorem Lossless.areFields_restructured :
    r.restructured.fields.entries.AreFields fun f => f.isTitle = false ∧ f ≠ .library := by
  refine Declaration.areFields_record _ _ _ _ _ (Declaration.areFields_ofStructured _)
    ⟨rfl, by decide⟩ fun heager => ?_
  rw [show r.titles.policy = .lazy from h.lazy] at heager
  cases heager

include hvalid h hplugin in
/-- Its properties are the custom ones of the record over its fields. -/
theorem Lossless.properties_restructured :
    r.restructured.properties.entries
      = r.restructured.fields.entries.overlay r.customProperties := by
  rw [restructured, Declaration.entries_properties_record _ _ _ _ _
    (Declaration.areFields_ofStructured _) (Declaration.storable_custom_ofStructured _).present,
    h.custom_document hvalid hplugin]

/-- The reserved author and address are both undeclared, or both declared and not both empty. -/
def DeclaresAuthors (r : Record) : Prop :=
  r.fields.contains Field.author.key = r.fields.contains Field.email.key ∧
    (r.fields.contains Field.author.key = true → r.author ≠ "" ∨ r.email ≠ "")

include hvalid in
/-- A field of the kind of texts that is declared is its text. -/
theorem Valid.get?_text {f : Field} (hkind : f.kind = .text) (hf : r.fields.contains f.key = true) :
    r.fields.entries.get? f.key = some (.text (r.fieldText f)) := by
  obtain ⟨v, hv⟩ := Dict.contains_eq_true_iff.1 hf
  have hcoerce := (hvalid.areFields.of_key hv).2
  rw [Field.coerce?, hkind, Option.map_eq_some_iff] at hcoerce
  obtain ⟨s, -, rfl⟩ := hcoerce
  rw [fieldText, Bag.lookup, Properties.lookup, hv]
  rfl

/-- A field that is not declared has no text. -/
theorem fieldText_eq_empty {f : Field} (hf : r.fields.contains f.key = false) :
    r.fieldText f = "" := by
  rw [fieldText, Bag.lookup, Properties.lookup, Dict.contains_eq_false_iff.1 hf]
  rfl

include hvalid in
/-- The author and the address are read again as they were declared. -/
theorem DeclaresAuthors.get?_eq (hauthors : r.DeclaresAuthors) {f : Field}
    (hf : f = .author ∨ f = .email) :
    (if r.author.isEmpty && r.email.isEmpty then none else some (.text (r.fieldText f)))
      = r.fields.entries.get? f.key := by
  obtain ⟨htogether, hnonempty⟩ := hauthors
  cases hc : r.fields.contains Field.author.key with
  | false =>
    rw [hc] at htogether
    have hauthor : r.author = "" := fieldText_eq_empty hc
    have hemail : r.email = "" := fieldText_eq_empty htogether.symm
    rw [hauthor, hemail]
    rcases hf with rfl | rfl
    · exact (Dict.contains_eq_false_iff.1 hc).symm
    · exact (Dict.contains_eq_false_iff.1 htogether.symm).symm
  | true =>
    have hsome : (r.author.isEmpty && r.email.isEmpty) = false := by
      rcases hnonempty hc with hne | hne <;> simp [hne]
    rw [hsome, if_neg Bool.false_ne_true]
    rw [hc] at htogether
    rcases hf with rfl | rfl
    · exact (hvalid.get?_text rfl hc).symm
    · exact (hvalid.get?_text rfl htogether.symm).symm

include hvalid h hplugin in
/-- The record of the document is the one that was written. -/
theorem Lossless.record_document (hauthors : r.DeclaresAuthors) :
    (Declaration.ofStructured r.document).record r.id r.libraryPath "" r.titles = r := by
  have hfields : r.restructured.fields.entries = r.fields.entries := by
    refine h.areFields_restructured.ext h.areFields fun f hf => ?_
    rw [restructured, hvalid.get?_fields_record_document hplugin "" r.titles hf.1]
    split
    · rename_i hauthor
      exact hauthors.get?_eq hvalid hauthor
    · rw [if_neg hf.2]
  have hproperties : r.restructured.properties.entries = r.properties.entries := by
    rw [h.properties_restructured hvalid hplugin, hfields, h.overlay_customProperties]
  exact eq_of_entries rfl hfields hproperties rfl h.entryPath.symm

end

/-! ## Equality -/

/-- A storable record is the same as itself: no property is `nan`. -/
theorem Lossless.same_self (h : r.Lossless) : r.same r = true := by
  have hvalue {v : Value} (hv : v.IsFinite) : v.same v = true := by
    cases v with
    | number x =>
      cases x with
      | nan => exact absurd (hv .nan rfl) (by decide)
      | signed negative magnitude => simp [Value.same, Binary64.sameValue, Binary64.compare?]
    | absent => rfl
    | bool b => simp [Value.same]
    | text s => simp [Value.same]
    | list items => simp [Value.same]
  have hbag : r.properties.same r.properties = true := by
    rw [Bag.same, Bool.and_eq_true, List.all_eq_true]
    refine ⟨decide_eq_true rfl, fun ⟨v, w⟩ hmem => ?_⟩
    obtain ⟨i, hi, he⟩ := List.mem_iff_getElem.1 hmem
    rw [List.getElem_zip, Prod.mk.injEq] at he
    obtain ⟨rfl, rfl⟩ := he
    obtain ⟨⟨key, u⟩, hentry, hu⟩ := List.mem_map.1 (List.getElem_mem (l := r.properties.entries.values)
      (n := i) (by simpa using hi))
    rw [← hu]
    exact hvalue (h.storable key u (Dict.get?_eq_some_iff.2 hentry)).2
  rw [same, hbag]
  simp

/-- A record from a structured source, with whatever finite values as custom properties, is read again
from its structured form as it was: its fields, its translations and its properties. It has to have no
custom property with the name of the object `Plugin`, and to declare either author and address or
neither. -/
theorem normalize_toJson_eq {locale libraryPath : String} {root : Dict Json} {r₀ : Record}
    (h : normalize locale (.structured root) libraryPath "" = .ok (some r₀))
    {steps : List (String × Value)} (hsteps : ∀ e ∈ steps, e.2 ≠ .absent ∧ e.2.IsFinite)
    (hplugin : (r₀.withProperties steps).customProperties.contains namespaceName = false)
    (hauthors : (r₀.withProperties steps).DeclaresAuthors) (locale' : String) :
    let r := r₀.withProperties steps
    normalize locale' (Source.ofJson r.toJson) r.libraryPath "" = .ok (some r) ∧
      r.policy = .lazy ∧ r.same r = true := by
  intro r
  have hvalid : r.Valid := (valid_of_normalize h).withProperties steps
  have hlossless : r.Lossless := (lossless_of_normalize h).withProperties hsteps
  refine ⟨?_, hlossless.lazy, hlossless.same_self⟩
  rw [hvalid.normalize_toJson hplugin, hlossless.titles_document hvalid hplugin,
    hlossless.record_document hvalid hplugin hauthors]

/-- Structured metadata with a field, an author without address, a translation and a property. -/
def translatedSource : Source :=
  .structured (.ofList [("Plugin", .object [("Id", .string "spy"), ("EnabledByDefault", .bool true),
      ("Name", .string "Spy"), ("Name[de]", .string "Spion"),
      ("Authors", .object [("Name", .string "Ada"), ("Email", .string "")])]),
    ("Size", .number (.integer 2 (by decide)))])

/-- A property that hides a field is read again, and so is the field. -/
theorem normalize_toJson_eq_hiding :
    ∃ r₀, normalize "" translatedSource "" "" = .ok (some r₀) ∧
      normalize "de" (Source.ofJson (r₀.withProperties [("X-Plugin-Id", .bool true)]).toJson) "" ""
        = .ok (some (r₀.withProperties [("X-Plugin-Id", .bool true)])) := by
  have h : normalize "" translatedSource "" "" = .ok (some _) := rfl
  have hsteps : ∀ e ∈ [("X-Plugin-Id", Value.bool true)], e.2 ≠ .absent ∧ e.2.IsFinite := by
    simp [Value.IsFinite]
  exact ⟨_, h, (normalize_toJson_eq h hsteps rfl ⟨rfl, fun _ => .inl (by decide +kernel)⟩ "de").1⟩

end Record

end PluginCatalog
