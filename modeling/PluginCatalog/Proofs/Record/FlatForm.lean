import PluginCatalog.Proofs.Record.Coherence
import PluginCatalog.Proofs.Record.Titles

/-!
# The flat form of records

In the flat form of a record each name that stands for something holds what it stands for, and each
other name the custom property under it (`Record.get?_toProperties`). So a record whose titles keep
their translations is read again from its flat form as it was, with the titles of the locale in which it
is read (`Record.normalize_toProperties`).
-/

namespace PluginCatalog

open Metadata (Declaration Field Slot Source Vocabulary withLocale)

namespace Record

variable (r : Record)

/-- The path of the library of a record as a property, if it is known. -/
def libraryProperty? : Option Value :=
  if r.libraryPath.isEmpty then none else some (.text r.libraryPath)

/-- What the flat form holds of a record for what a name stands for. -/
def property? : Slot → Option Value
  | .field .name => (r.titles.name.property?.map .text).or (r.fields.entries.get? Field.name.key)
  | .field .comment =>
    (r.titles.comment.property?.map .text).or (r.fields.entries.get? Field.comment.key)
  | .field .library => (r.fields.entries.get? Field.library.key).or r.libraryProperty?
  | .field f => r.fields.entries.get? f.key
  | .translation .name tag => (r.titles.name.translations.get? tag).map .text
  | .translation .comment tag => (r.titles.comment.translations.get? tag).map .text
  | .translation _ _ => none
  | .custom => none

/-- The fields of a record with its titles. -/
def titledProperties : Properties :=
  r.titles.comment.addToProperties Field.comment.key
    (r.titles.name.addToProperties Field.name.key r.fields.entries)

/-- In the flat form the path of the library stands in for a field that is not there, and custom
properties for everything that is not there. -/
theorem get?_toProperties_eq_or (key : String) :
    r.toProperties.get? key
      = ((r.titledProperties.get? key).or
          (if key = Field.library.key then r.libraryProperty? else none)).or
        (r.customProperties.get? key) := by
  have hplaced : (if r.libraryPath.isEmpty || r.titledProperties.contains Field.library.key
      then r.titledProperties
      else r.titledProperties.insert Field.library.key (.text r.libraryPath)).get? key
      = (r.titledProperties.get? key).or
          (if key = Field.library.key then r.libraryProperty? else none) := by
    unfold libraryProperty?
    by_cases hempty : r.libraryPath.isEmpty = true
    · simp [hempty]
    by_cases hdeclared : r.titledProperties.contains Field.library.key = true
    · by_cases hkey : key = Field.library.key
      · obtain ⟨v, hv⟩ := Dict.contains_eq_true_iff.1 hdeclared
        simp [hdeclared, hkey, hv]
      · simp [hdeclared, hkey]
    · rw [Bool.not_eq_true] at hempty hdeclared
      by_cases hkey : key = Field.library.key
      · simp [hempty, hdeclared, hkey, Dict.contains_eq_false_iff.1 hdeclared]
      · simp [hempty, hdeclared, hkey]
  rw [← hplaced]
  exact Dict.get?_overlay _ _ key

variable {r} (h : r.Valid)

include h in
/-- In the flat form each name that stands for something holds what it stands for, under the custom
properties only if there is nothing else. -/
theorem Valid.get?_toProperties (key : String) :
    r.toProperties.get? key
      = (r.property? (Vocabulary.canonical.slot key)).or (r.customProperties.get? key) := by
  have hreads := Vocabulary.reads_canonical
  have hkey (f : Field) : key = f.key ↔ Vocabulary.canonical.slot key = .field f := by
    rw [Vocabulary.slot_eq_field_iff hreads]
    exact ⟨fun h => h ▸ rfl, fun h => (Option.some.inj h).symm⟩
  have hnone (hslot : ∀ f, Vocabulary.canonical.slot key ≠ .field f) :
      r.fields.entries.get? key = none :=
    h.areFields.get?_eq_none fun f hf => hslot f ((hkey f).1 hf)
  rw [get?_toProperties_eq_or, titledProperties, DisplayText.addToProperties_eq,
    DisplayText.addToProperties_eq,
    h.normal.comment.get?_addTexts hreads (f := .comment) rfl rfl (by decide),
    h.normal.name.get?_addTexts hreads (f := .name) rfl rfl (by decide)]
  congr 1
  simp only [hkey]
  cases hslot : Vocabulary.canonical.slot key with
  | custom => simp [property?, hnone (by simp [hslot])]
  | translation f tag => cases f <;> simp [property?, hnone (by simp [hslot])]
  | field f =>
    rw [(hkey f).2 hslot]
    cases f <;> simp [property?]

include h in
/-- The flat form holds the identifier, so it is not empty. -/
theorem Valid.isEmpty_toProperties : (Source.flat r.toProperties).isEmpty = false := by
  have hid : r.toProperties.get? Field.id.key = some (.text r.id) := by
    rw [h.get?_toProperties, Vocabulary.slot_key]
    show (r.fields.entries.get? Field.id.key).or _ = _
    rw [h.get?_id, Option.some_or]
  exact Dict.isEmpty_eq_false hid

end Record

/-! ## Custom properties -/

/-- A name that is neither that of a field nor that of a translation stands for nothing. -/
theorem Metadata.Vocabulary.slot_eq_custom {key : String} (hfield : ∀ f, key ≠ Field.key f)
    (htranslation : ∀ f tag, f.isTitle = true → key ≠ withLocale (Field.key f) tag) :
    canonical.slot key = .custom := by
  cases hslot : canonical.slot key with
  | custom => rfl
  | field f =>
    have hname := (slot_eq_field_iff reads_canonical).1 hslot
    exact absurd (Option.some.inj hname).symm (hfield f)
  | translation f tag =>
    obtain ⟨htitle, base, hbase, hsplit⟩ := (slot_eq_translation_iff reads_canonical).1 hslot
    cases hbase
    exact absurd (Metadata.splitLocale_eq_some_iff.1 hsplit).1 (htranslation f tag htitle)

/-- The custom properties of a record are the declared properties without a meaning that are there, if
none of them hides a field. -/
theorem Metadata.Declaration.customProperties_record {P : Field → Prop} (d : Declaration)
    (id libraryPath entryPath : String) (titles : Titles) (h : d.fields.AreFields P)
    (hhides : ∀ f : Field, d.custom.get? f.key = none) :
    (d.record id libraryPath entryPath titles).customProperties
      = (Bag.ofProperties d.custom).entries := by
  have hkept := d.areFields_record id libraryPath entryPath titles (h.mono fun _ _ => trivial) trivial
    fun _ => ⟨trivial, trivial⟩
  refine Dict.ext_get? fun key => ?_
  rw [Record.customProperties, Dict.get?_filter,
    d.entries_properties_record_present _ _ _ _ h hhides, Dict.get?_overlay, Bag.lookup,
    Properties.lookup]
  cases hv : (Bag.ofProperties d.custom).entries.get? key with
  | none =>
    rw [Option.none_or]
    cases (d.record id libraryPath entryPath titles).fields.entries.get? key <;>
      simp [Option.filter]
  | some v =>
    have hdeclared : d.custom.get? key = some v := by
      rw [Bag.get?_entries_ofProperties, Option.filter_eq_some_iff] at hv
      exact hv.1
    have hnone : (d.record id libraryPath entryPath titles).fields.entries.get? key = none := by
      refine hkept.get?_eq_none fun f hf => ?_
      rw [hf, hhides f] at hdeclared
      cases hdeclared
    have hpresent : v ≠ .absent :=
      fun habsent => (Bag.ofProperties d.custom).present key (by rw [hv, habsent])
    simp [hnone, Option.filter, hpresent.symm]

namespace Record

variable {locale libraryPath entryPath : String} {source : Source} {r : Record}
  (hr : normalize locale source libraryPath entryPath = .ok (some r))
  (hhides : ∀ f : Field, (Declaration.ofSource source).custom.get? f.key = none)

include hr hhides

/-- The custom properties of a record are the declared ones that are there, if none of them hides a
field. -/
theorem customProperties_of_normalize :
    r.customProperties = (Bag.ofProperties (Declaration.ofSource source).custom).entries := by
  obtain ⟨id, rfl⟩ := exists_record_of_normalize hr
  exact Declaration.customProperties_record _ _ _ _ _ (Declaration.areFields_ofSource source) hhides

/-- The properties of a record are then the custom ones over its fields. -/
theorem properties_of_normalize :
    r.properties.entries = r.fields.entries.overlay r.customProperties := by
  rw [customProperties_of_normalize hr hhides]
  obtain ⟨id, rfl⟩ := exists_record_of_normalize hr
  exact Declaration.entries_properties_record_present _ _ _ _ _ (Declaration.areFields_ofSource source)
    hhides

/-- So a field is found among the properties. -/
theorem lookup_properties_key (f : Field) : r.properties.lookup f.key = r.fields.lookup f.key := by
  have hnone : r.customProperties.get? f.key = none := by
    rw [customProperties_of_normalize hr hhides, Bag.get?_entries_ofProperties, hhides,
      Option.filter_none]
  rw [Bag.lookup, Properties.lookup, properties_of_normalize hr hhides, Dict.get?_overlay, hnone,
    Option.none_or]
  rfl

end Record

/-- No custom property is absent. -/
theorem Record.present_customProperties (r : Record) : r.customProperties.Present := by
  intro key hv
  rw [Record.customProperties, Dict.get?_filter, Option.filter_eq_some_iff] at hv
  exact r.properties.present key hv.1

/-- Flat metadata declares no titles among its fields. -/
theorem Metadata.Declaration.areFields_canonical (p : Properties) :
    (ofProperties .canonical p).fields.AreFields fun f => f.isTitle = false :=
  areFields_ofSource (.flat p)

/-! ## Reading the flat form again -/

namespace Record

variable {r : Record} (h : r.Valid)

include h in
/-- The flat form declares the fields of the record, then the library, and then what custom properties
hold for fields that are not there. -/
theorem Valid.get?_fieldsOf_toProperties_eq_or {f : Field} (hf : f.isTitle = false) :
    (Declaration.fieldsOf .canonical r.toProperties).get? f.key
      = ((r.fields.entries.get? f.key).or (if f = .library then r.libraryProperty? else none)).or
        ((r.customProperties.get? f.key).bind f.coerce?) := by
  have hproperty : r.property? (.field f)
      = (r.fields.entries.get? f.key).or (if f = .library then r.libraryProperty? else none) := by
    cases f with
    | name | comment => cases hf
    | _ => simp [property?]
  rw [Declaration.get?_fieldsOf, hf, if_neg Bool.false_ne_true, Declaration.fieldValue?]
  show (r.toProperties.get? f.key).bind _ = _
  rw [h.get?_toProperties, Vocabulary.slot_key, hproperty]
  cases hv : r.fields.entries.get? f.key with
  | some v => exact (h.areFields.of_key hv).2
  | none =>
    by_cases hlibrary : f = .library
    · subst hlibrary
      unfold libraryProperty?
      cases r.libraryPath.isEmpty <;> rfl
    · simp [hlibrary]

/-- No custom property stands for a text that a title does not have, neither under its own name nor under
that of a translation. -/
def KeepsTitle (r : Record) (f : Field) (text : DisplayText) : Prop :=
  (text.asTable.default = "" →
      (r.customProperties.get? f.key).bind Metadata.displayText? = none) ∧
    ∀ key tag, Vocabulary.canonical.slot key = .translation f tag →
      text.translations.get? tag = none →
      (r.customProperties.get? key).bind Metadata.displayText? = none

include h in
/-- The flat form declares the texts of a title again that it keeps. -/
theorem Valid.titleOf_toProperties {f : Field} (htitle : f.isTitle = true) {text : DisplayText}
    (htext : text.Normal)
    (hfield : r.property? (.field f)
      = (text.property?.map .text).or (r.fields.entries.get? f.key))
    (htexts : ∀ tag, r.property? (.translation f tag) = (text.translations.get? tag).map .text)
    (hempty : text.asTable.default = "" → r.fields.entries.get? f.key = none)
    (hkeeps : r.KeepsTitle f text) :
    Declaration.titleOf .canonical r.toProperties f = text.asTable := by
  have hne : f.key ≠ "" := by cases f <;> decide
  refine Declaration.titleOf_eq_of_texts Vocabulary.reads_canonical htitle rfl hne htext.asTable ?_ ?_
  · rw [h.get?_toProperties, Vocabulary.slot_key, hfield, text.property?_eq]
    by_cases hdefault : text.asTable.default = ""
    · simp [hdefault, hempty hdefault, hkeeps.1 hdefault]
    · simp [hdefault, Metadata.displayText?]
  · intro tag htag hbracket
    have hslot : Vocabulary.canonical.slot (withLocale f.key tag) = .translation f tag :=
      Vocabulary.slot_withLocale Vocabulary.reads_canonical htitle rfl hne htag hbracket
    rw [h.get?_toProperties, hslot, htexts, ← text.translations_eq]
    cases ht : text.translations.get? tag with
    | some translated => rfl
    | none => exact hkeeps.2 _ tag hslot ht

/-- A title without an untranslated text is no field. -/
theorem Coherent.get?_title (hcoherent : r.Coherent) :
    (r.titles.name.asTable.default = "" → r.fields.entries.get? Field.name.key = none) ∧
      (r.titles.comment.asTable.default = "" →
        r.fields.entries.get? Field.comment.key = none) := by
  have htranslatable := hcoherent.translatable
  have hfrozen := hcoherent.frozen
  rw [Record.policy] at htranslatable hfrozen
  simp only [Record.name, Record.comment] at hfrozen
  cases htitles : r.titles with
  | translatable name comment =>
    rw [htitles] at htranslatable
    exact ⟨fun _ => Dict.contains_eq_false_iff.1 (htranslatable rfl .name rfl),
      fun _ => Dict.contains_eq_false_iff.1 (htranslatable rfl .comment rfl)⟩
  | frozen name comment =>
    rw [htitles] at hfrozen
    obtain ⟨hname, hcomment⟩ := hfrozen rfl ""
    constructor
    · rintro (rfl : name = "")
      rw [Bag.get?_entries, hname]
      rfl
    · rintro (rfl : comment = "")
      rw [Bag.get?_entries, hcomment]
      rfl

include h in
/-- The flat form declares the name of a record that it keeps. -/
theorem Valid.name_toProperties (hcoherent : r.Coherent) (hkeeps : r.KeepsTitle .name r.titles.name) :
    (Declaration.ofProperties .canonical r.toProperties).name = r.titles.name.asTable := by
  exact h.titleOf_toProperties rfl h.normal.name rfl (fun _ => rfl) hcoherent.get?_title.1 hkeeps

include h in
/-- The flat form declares the description of a record that it keeps. -/
theorem Valid.comment_toProperties (hcoherent : r.Coherent)
    (hkeeps : r.KeepsTitle .comment r.titles.comment) :
    (Declaration.ofProperties .canonical r.toProperties).comment = r.titles.comment.asTable := by
  exact h.titleOf_toProperties rfl h.normal.comment rfl (fun _ => rfl) hcoherent.get?_title.2 hkeeps

variable (hcustom : ∀ key v, r.customProperties.get? key = some v →
  Vocabulary.canonical.slot key = .custom)

include hcustom in
/-- Under a name that stands for something there is no custom property. -/
theorem get?_customProperties_of_slot {key : String}
    (hslot : Vocabulary.canonical.slot key ≠ .custom) : r.customProperties.get? key = none :=
  Option.eq_none_iff_forall_ne_some.2 fun v hv => hslot (hcustom key v hv)

include h hcustom in
/-- The flat form declares the fields of the record, and the library in place of a field. -/
theorem Valid.get?_fieldsOf_toProperties {f : Field} (hf : f.isTitle = false) :
    (Declaration.fieldsOf .canonical r.toProperties).get? f.key
      = (r.fields.entries.get? f.key).or (if f = .library then r.libraryProperty? else none) := by
  have hnone : r.customProperties.get? f.key = none :=
    get?_customProperties_of_slot hcustom (by simp [Vocabulary.slot_key])
  rw [h.get?_fieldsOf_toProperties_eq_or hf, hnone, Option.bind_none, Option.or_none]

include h hcustom in
/-- The flat form declares the custom properties of the record. -/
theorem Valid.custom_toProperties :
    (Declaration.ofProperties .canonical r.toProperties).custom = r.customProperties := by
  refine Dict.ext_get? fun key => ?_
  rw [Declaration.get?_custom, h.get?_toProperties]
  split
  · rename_i hslot
    rw [hslot]
    rfl
  · rename_i hslot
    exact (get?_customProperties_of_slot hcustom hslot).symm

include hcustom in
/-- Custom properties that stand for nothing leave every title alone. -/
theorem keepsTitle_of_slot (f : Field) (text : DisplayText) : r.KeepsTitle f text := by
  refine ⟨fun _ => ?_, fun key tag hslot _ => ?_⟩
  · rw [get?_customProperties_of_slot hcustom (by simp [Vocabulary.slot_key]), Option.bind_none]
  · rw [get?_customProperties_of_slot hcustom (by simp [hslot]), Option.bind_none]

include h hcustom in
/-- The flat form declares the titles of a record that keeps their translations. -/
theorem Valid.titles_toProperties {name comment : TranslationTable}
    (htitles : r.titles = .translatable name comment)
    (hfields : r.fields.entries.AreFields fun f => f.isTitle = false) :
    (Declaration.ofProperties .canonical r.toProperties).name = name ∧
      (Declaration.ofProperties .canonical r.toProperties).comment = comment := by
  have hcoherent : r.Coherent := by
    refine h.coherent (fun _ f hf => ?_) fun heager => ?_
    · refine Dict.contains_eq_false_iff.2 (Option.eq_none_iff_forall_ne_some.2 fun v hv => ?_)
      rw [(hfields.of_key hv).1] at hf
      cases hf
    · rw [policy, htitles] at heager
      cases heager
  rw [h.name_toProperties hcoherent (keepsTitle_of_slot hcustom _ _),
    h.comment_toProperties hcoherent (keepsTitle_of_slot hcustom _ _), htitles]
  exact ⟨rfl, rfl⟩

include h hcustom in
/-- The flat form gives a record with the identifier and the library of the one that was written. -/
theorem Valid.normalize_flat (hlibrary : r.libraryPath = "" → r.fieldText .library = "")
    (active : String) :
    normalize active (.flat r.toProperties) r.libraryPath ""
      = .ok (some ((Declaration.ofProperties .canonical r.toProperties).record r.id r.libraryPath ""
          (.frozen ((Declaration.ofProperties .canonical r.toProperties).name.resolve active)
            ((Declaration.ofProperties .canonical r.toProperties).comment.resolve active)))) := by
  have hget {f : Field} (hf : f.isTitle = false) := h.get?_fieldsOf_toProperties hcustom hf
  refine h.normalize_of_fields h.isEmpty_toProperties (fun f hf => ?_) (fun hpath => ?_) active ""
  · have hother : f.isTitle = false ∧ f ≠ .library := by rcases hf with rfl | rfl | rfl <;> decide
    show (Declaration.fieldsOf .canonical r.toProperties).get? f.key = _
    rw [hget hother.1, if_neg hother.2, Option.or_none]
  · have htext := hlibrary hpath
    rw [fieldText, Bag.lookup, Properties.lookup] at htext
    show (((Declaration.fieldsOf .canonical r.toProperties).get? Field.library.key).bind _).getD ""
      = ""
    have hunknown : r.libraryProperty? = none := by
      rw [libraryProperty?, hpath]
      rfl
    rw [hget rfl, if_pos rfl, hunknown, Option.or_none]
    cases hv : r.fields.entries.get? Field.library.key with
    | none => rfl
    | some v =>
      rw [hv] at htext
      exact htext

include h hcustom in
/-- The record of the flat form keeps the fields of the one that was written, and the library in place
of a field. -/
theorem Valid.get?_fields_record_toProperties (titles : Titles) {f : Field} (hf : f.isTitle = false) :
    ((Declaration.ofProperties .canonical r.toProperties).record r.id r.libraryPath ""
        titles).fields.entries.get? f.key
      = (r.fields.entries.get? f.key).or (if f = .library then r.libraryProperty? else none) := by
  have hdeclared : (Declaration.ofProperties .canonical r.toProperties).fields.get? f.key
      = (r.fields.entries.get? f.key).or (if f = .library then r.libraryProperty? else none) :=
    h.get?_fieldsOf_toProperties hcustom hf
  rw [Declaration.get?_fields_record _ _ _ _ _ (Declaration.areFields_canonical _) hf]
  split
  · rename_i hid
    rw [hid, h.get?_id, Option.some_or]
  · exact hdeclared

include h hcustom in
/-- The record of the flat form has the custom properties of the one that was written. -/
theorem Valid.customProperties_record_toProperties (titles : Titles) :
    ((Declaration.ofProperties .canonical r.toProperties).record r.id r.libraryPath ""
      titles).customProperties = r.customProperties := by
  rw [Declaration.customProperties_record _ _ _ _ _ (Declaration.areFields_canonical _)
      (Declaration.get?_custom_key _),
    h.custom_toProperties hcustom, r.present_customProperties.entries_ofProperties]

include h hcustom in
/-- The record of the flat form agrees with the one that was written in its fields and its custom
properties. -/
theorem Valid.record_toProperties (titles : Titles) :
    r.SameFields ((Declaration.ofProperties .canonical r.toProperties).record r.id r.libraryPath ""
        titles) ∧
      ((Declaration.ofProperties .canonical r.toProperties).record r.id r.libraryPath ""
        titles).customProperties = r.customProperties := by
  refine ⟨sameFields_iff.2 fun f hf hlibrary => fieldValue_congr ?_,
    h.customProperties_record_toProperties hcustom titles⟩
  rw [Bag.lookup, Properties.lookup, h.get?_fields_record_toProperties hcustom titles hf,
    if_neg hlibrary, Option.or_none]
  rfl

/-- A record that is made with a known library, or with none, declares no other. -/
theorem fieldText_library_of_normalize {locale libraryPath entryPath : String} {source : Source}
    (hr : normalize locale source libraryPath entryPath = .ok (some r)) (hpath : r.libraryPath = "") :
    r.fieldText .library = "" := by
  obtain ⟨-, -, id, -, rfl⟩ := normalize_eq_ok_some_iff.1 hr
  have hdeclared : effectivePath (Declaration.ofSource source) libraryPath = "" := hpath
  have htext : ((Declaration.ofSource source).record id
      (effectivePath (Declaration.ofSource source) libraryPath) entryPath
      ((Declaration.ofSource source).titles locale source.policy)).fieldText .library
      = (Declaration.ofSource source).library := by
    rw [fieldText, Declaration.lookup_fields_record _ _ _ _ _ rfl (by decide), Properties.lookup,
      Declaration.library]
    cases (Declaration.ofSource source).fields.get? Field.library.key <;> rfl
  rw [htext]
  unfold effectivePath at hdeclared
  split at hdeclared
  · exact hdeclared
  · rename_i hgiven
    rw [hdeclared] at hgiven
    exact absurd rfl hgiven

/-- A record of a source that is no flat one keeps the translations of its titles, and they are no
fields. -/
theorem lazy_of_normalize {locale libraryPath entryPath : String} {source : Source}
    (hsource : ∀ p, source ≠ .flat p)
    (hr : normalize locale source libraryPath entryPath = .ok (some r)) :
    (∃ name comment, r.titles = .translatable name comment) ∧
      r.fields.entries.AreFields fun f => f.isTitle = false := by
  obtain ⟨-, -, id, -, rfl⟩ := normalize_eq_ok_some_iff.1 hr
  have hlazy : source.policy = .lazy := by
    cases source with
    | structured root => rfl
    | legacy root => rfl
    | flat p => exact absurd rfl (hsource p)
  rw [hlazy]
  exact ⟨⟨_, _, rfl⟩, Declaration.areFields_record _ _ _ _ _ (Declaration.areFields_ofSource source)
    rfl nofun⟩

/-- A record whose titles keep their translations is read again from its flat form, in whatever locale,
as it was: its fields, its library and its custom properties, with the titles fixed as they are in that
locale. No custom property may have the name of a field or of a translation. -/
theorem normalize_toProperties {locale libraryPath entryPath : String} {source : Source}
    (hsource : ∀ p, source ≠ .flat p)
    (hr : normalize locale source libraryPath entryPath = .ok (some r))
    (hfree : ∀ key, r.customProperties.contains key = true →
      (∀ f, key ≠ Field.key f) ∧ ∀ f tag, f.isTitle = true → key ≠ withLocale (Field.key f) tag)
    (active : String) :
    ∃ s, normalize active (.flat r.toProperties) r.libraryPath "" = .ok (some s) ∧
      s.policy = .eager ∧ r.SameFields s ∧ s.libraryPath = r.libraryPath ∧
      s.customProperties = r.customProperties ∧
      ∀ later, s.name later = r.name active ∧ s.comment later = r.comment active := by
  have hvalid := valid_of_normalize hr
  have hcustom (key : String) (v : Value) (hv : r.customProperties.get? key = some v) :
      Vocabulary.canonical.slot key = .custom := by
    have hkey := hfree key (Dict.contains_eq_true_iff.2 ⟨v, hv⟩)
    exact Vocabulary.slot_eq_custom hkey.1 hkey.2
  obtain ⟨⟨name, comment, htitles⟩, hfields⟩ := lazy_of_normalize hsource hr
  obtain ⟨hname, hcomment⟩ := hvalid.titles_toProperties hcustom htitles hfields
  obtain ⟨hsame, hproperties⟩ := hvalid.record_toProperties hcustom
    (.frozen (name.resolve active) (comment.resolve active))
  have hnormalize := hvalid.normalize_flat hcustom (fieldText_library_of_normalize hr) active
  rw [hname, hcomment] at hnormalize
  refine ⟨_, hnormalize, rfl, hsame, rfl, hproperties, fun later => ?_⟩
  rw [Record.name, Record.comment, Record.name, Record.comment, htitles]
  exact ⟨rfl, rfl⟩

/-- Structured metadata with a translation and a property. -/
def sourceWithTranslation : Source :=
  .structured (.ofList [("Plugin", .object [("Id", .string "spy"), ("EnabledByDefault", .bool true),
      ("Name", .string "Spy"), ("Name[de]", .string "Spion")]), ("Size", .string "2")])

/-- A plugin with a translated name is read again in German, and stays so. -/
theorem normalize_toProperties_german :
    ∃ r s, normalize "" sourceWithTranslation "/p/spy.so" "" = .ok (some r) ∧
      normalize "de" (.flat r.toProperties) r.libraryPath "" = .ok (some s) ∧
      s.name "C" = "Spion" ∧ s.customProperties = .ofList [("Size", .text "2")] := by
  have h : normalize "" sourceWithTranslation "/p/spy.so" "" = .ok (some _) := rfl
  have hfree : ∀ key, Dict.contains (.ofList [("Size", Value.text "2")]) key = true →
      (∀ f, key ≠ Field.key f) ∧ ∀ f tag, f.isTitle = true → key ≠ withLocale (Field.key f) tag := by
    intro key hkey
    obtain ⟨v, hv⟩ := Dict.contains_eq_true_iff.1 hkey
    rw [Dict.get?_ofList] at hv
    have hmem := Dict.mem_of_lookup hv
    rw [List.mem_reverse, List.mem_singleton, Prod.mk.injEq] at hmem
    obtain ⟨rfl, -⟩ := hmem
    refine ⟨fun f => by cases f <;> decide, fun f tag _ he => ?_⟩
    have hlast := congrArg (fun s => s.toList.reverse.head?) he
    simp [Metadata.toList_withLocale] at hlast
  obtain ⟨s, hs, -, -, -, hcustom, hnames⟩ :=
    normalize_toProperties (by simp [sourceWithTranslation]) h hfree "de"
  exact ⟨_, s, h, hs, (hnames "C").1, hcustom⟩

end Record

end PluginCatalog
