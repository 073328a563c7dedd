import PluginCatalog.Proofs.Record.Validity

/-!
# How the parts of a record agree

The identifier and the services of a record are those of its fields, the fields are of the kinds that
they require, and the titles are among the fields exactly if they are fixed (`Record.Coherent`). So a
title that no property hides is found as its text either way (`Record.Coherent.lookup_title`).

The parts agree when a source gives a record (`Record.coherent_of_normalize`), whatever its form, and a
custom property leaves all of them alone (`Record.Coherent.withProperty`). So they agree in every record
there is (`Record.coherent_withProperties`), and its identifier, its services and its policy stay those
that were found when its source was read.
-/

namespace PluginCatalog

open Metadata (Declaration Field Source)

namespace Metadata

/-- The values of a kind. -/
def Field.Kind.Holds : Field.Kind → Value → Prop
  | .title, v | .text, v => ∃ s, v = .text s
  | .flag, v => ∃ b, v = .bool b
  | .list, v => ∃ items, v = .list items

/-- A value of a field is of the kind of the field. -/
theorem Field.holds_of_coerce?_self {f : Field} {v : Value} (h : f.coerce? v = some v) :
    f.kind.Holds v := by
  unfold coerce? at h
  cases hk : f.kind <;> rw [hk] at h <;> obtain ⟨x, -, rfl⟩ := Option.map_eq_some_iff.1 h <;>
    exact ⟨x, rfl⟩

namespace Declaration

variable {d : Declaration} (h : d.fields.AreFields fun f => f.isTitle = false)
  (id libraryPath entryPath : String)

include h

/-- Titles that keep their translations are no fields of the record. -/
theorem contains_title_record (name comment : TranslationTable) {f : Field}
    (hf : f.isTitle = true) :
    (d.record id libraryPath entryPath (.translatable name comment)).fields.contains f.key
      = false := by
  have hfields := d.areFields_record id libraryPath entryPath (.translatable name comment) h rfl nofun
  refine Dict.contains_eq_false_iff.2 (Option.eq_none_iff_forall_ne_some.2 fun v hv => ?_)
  rw [(hfields.of_key hv).1] at hf
  cases hf

/-- Titles that no longer depend on the locale are fields of the record if they are not empty. -/
theorem lookup_title_record (name comment : String) :
    (d.record id libraryPath entryPath (.frozen name comment)).fields.lookup Field.name.key
        = Record.presentText name ∧
      (d.record id libraryPath entryPath (.frozen name comment)).fields.lookup Field.comment.key
        = Record.presentText comment := by
  have hdeclared : Properties.AreFields (fun f => f.isTitle = false)
      (d.fields.insert Field.id.key (.text id)) := h.insert rfl rfl
  have hnone (f : Field) (hf : f.isTitle = true) :
      (d.fields.insert Field.id.key (.text id)).get? f.key = none :=
    Option.eq_none_iff_forall_ne_some.2 fun v hv => by
      rw [(hdeclared.of_key hv).1] at hf
      cases hf
  have hown (fields : Properties) (f : Field) (text : String) (hf : fields.get? f.key = none) :
      ((addTitle f text fields).get? f.key).getD .absent = Record.presentText text := by
    unfold addTitle Record.presentText
    split
    · rw [hf]
      rfl
    · rw [Dict.get?_insert, if_pos rfl]
      rfl
  simp only [record, addTitles, Bag.lookup_ofProperties, Properties.lookup]
  constructor
  · rw [get?_addTitle _ comment (by decide)]
    exact hown _ .name name (hnone .name rfl)
  · exact hown _ .comment comment ((get?_addTitle _ name (by decide)).trans (hnone .comment rfl))

end Declaration

end Metadata

namespace Record

/-- How the parts of a record agree. -/
structure Coherent (r : Record) : Prop where
  /-- The identifier is not empty. -/
  id_ne_empty : r.id ≠ ""
  /-- The identifier is the text of its field. -/
  id : r.fields.lookup Field.id.key = .text r.id
  /-- The services are the list of their field; there are none if it is not declared. -/
  serviceTypes : r.fields.lookup Field.serviceTypes.key = .list r.serviceTypes ∨
    r.fields.contains Field.serviceTypes.key = false ∧ r.serviceTypes = []
  /-- The plugin offers a service, or whether it is enabled by default is declared. -/
  useful : r.serviceTypes ≠ [] ∨ ∃ b, r.fields.lookup Field.enabledByDefault.key = .bool b
  /-- The fields are values of the kinds that they require, under their keys. -/
  fields : ∀ key v, r.fields.entries.get? key = some v → ∃ f : Field, key = f.key ∧ f.kind.Holds v
  /-- Neither a field nor a property is absent. -/
  present : ∀ key, r.fields.entries.get? key ≠ some .absent ∧
    r.properties.entries.get? key ≠ some .absent
  /-- The titles are translated at each reading exactly if both keep their translations. -/
  policy : r.policy = .lazy ↔ r.titles.name.table?.isSome ∧ r.titles.comment.table?.isSome
  /-- Titles that keep their translations are no fields. -/
  translatable : r.policy = .lazy → ∀ f : Field, f.isTitle = true → r.fields.contains f.key = false
  /-- Titles that are fixed are fields, with their texts, exactly if they are not empty. -/
  frozen : r.policy = .eager → ∀ locale,
    r.fields.lookup Field.name.key = presentText (r.name locale) ∧
      r.fields.lookup Field.comment.key = presentText (r.comment locale)
  /-- The tags of the translations are normalized. -/
  normalized : ∀ table, r.titles.name.table? = some table ∨ r.titles.comment.table? = some table →
    ∀ tag text, table.translations.get? tag = some text → Tag.normalize? tag = some tag

/-- The parts of a valid record agree if those of its titles do. -/
theorem Valid.coherent {r : Record} (h : r.Valid)
    (htranslatable : r.policy = .lazy → ∀ f : Field, f.isTitle = true →
      r.fields.contains f.key = false)
    (hfrozen : r.policy = .eager → ∀ locale,
      r.fields.lookup Field.name.key = presentText (r.name locale) ∧
        r.fields.lookup Field.comment.key = presentText (r.comment locale)) : r.Coherent where
  id_ne_empty := h.id_ne_empty
  id := by rw [Bag.lookup, Properties.lookup, h.get?_id, Option.getD_some]
  serviceTypes := by
    cases hv : r.fields.entries.get? Field.serviceTypes.key with
    | none =>
      -- Without the field its accessor falls back to the empty list.
      refine .inr ⟨Dict.contains_eq_false_iff.2 hv, ?_⟩
      rw [Record.serviceTypes, fieldList, Bag.lookup, Properties.lookup, hv]
      rfl
    | some v =>
      obtain ⟨items, rfl⟩ := Field.holds_of_coerce?_self (h.areFields.of_key hv).2
      left
      rw [Record.serviceTypes, fieldList, Bag.lookup, Properties.lookup, hv]
      rfl
  useful := by
    refine h.useful.imp_right fun hcontains => ?_
    obtain ⟨v, hv⟩ := Dict.contains_eq_true_iff.1 hcontains
    obtain ⟨b, rfl⟩ := Field.holds_of_coerce?_self (h.areFields.of_key hv).2
    exact ⟨b, by rw [Bag.lookup, Properties.lookup, hv, Option.getD_some]⟩
  fields key v hv := by
    obtain ⟨f, hkey, -, hcoerce⟩ := h.areFields key v hv
    exact ⟨f, hkey, Field.holds_of_coerce?_self hcoerce⟩
  present key := ⟨r.fields.present key, r.properties.present key⟩
  policy := by
    rw [Record.policy]
    cases r.titles <;> simp [Titles.policy, Titles.name, Titles.comment, DisplayText.table?]
  translatable := htranslatable
  frozen := hfrozen
  normalized table htable tag text ht := by
    have hnormal := h.normal
    cases htitles : r.titles with
    | frozen name comment =>
      rw [htitles] at htable
      rcases htable with htable | htable <;> cases htable
    | translatable name comment =>
      rw [htitles] at htable hnormal
      rcases htable with htable | htable <;> cases htable
      · exact TranslationTable.Normal.normalized hnormal.name tag text ht
      · exact TranslationTable.Normal.normalized hnormal.comment tag text ht

/-- The titles of a record are translated when its source requires it. -/
theorem policy_of_normalize {locale libraryPath entryPath : String} {source : Source} {r : Record}
    (h : normalize locale source libraryPath entryPath = .ok (some r)) : r.policy = source.policy := by
  obtain ⟨id, rfl⟩ := exists_record_of_normalize h
  cases hpolicy : source.policy <;> rfl

/-- The parts of a record agree when a source gives it. -/
theorem coherent_of_normalize {locale libraryPath entryPath : String} {source : Source} {r : Record}
    (h : normalize locale source libraryPath entryPath = .ok (some r)) : r.Coherent := by
  have hvalid := valid_of_normalize h
  obtain ⟨-, -, id, -, rfl⟩ := normalize_eq_ok_some_iff.1 h
  have hfields := Declaration.areFields_ofSource source
  generalize Declaration.ofSource source = d at *
  cases hpolicy : source.policy with
  | lazy =>
    rw [hpolicy] at hvalid
    exact hvalid.coherent (fun _ _ hf => Declaration.contains_title_record hfields _ _ _ _ _ hf) nofun
  | eager =>
    rw [hpolicy] at hvalid
    exact hvalid.coherent nofun fun _ _ => Declaration.lookup_title_record hfields _ _ _ _ _

/-- The parts of a record agree whatever its custom properties are. -/
theorem Coherent.withProperty {r : Record} (h : r.Coherent) (key : String) (value : Value) :
    (r.withProperty key value).Coherent where
  id_ne_empty := h.id_ne_empty
  id := h.id
  serviceTypes := h.serviceTypes
  useful := h.useful
  fields := h.fields
  present k := ⟨r.fields.present k, (r.withProperty key value).properties.present k⟩
  policy := h.policy
  translatable := h.translatable
  frozen := h.frozen
  normalized := h.normalized

/-- The parts of a record still agree after several custom properties. -/
theorem Coherent.withProperties {r : Record} (h : r.Coherent) (steps : List (String × Value)) :
    (r.withProperties steps).Coherent := by
  induction steps generalizing r with
  | nil => exact h
  | cons e steps ih => exact ih (h.withProperty e.1 e.2)

/-- What the fields hold of the titles is determined by them. -/
theorem Coherent.get?_title_congr {r s : Record} (hr : r.Coherent) (hs : s.Coherent)
    (htitles : s.titles = r.titles) {f : Field} (hf : f.isTitle = true) :
    s.fields.entries.get? f.key = r.fields.entries.get? f.key := by
  have hpolicy : s.policy = r.policy := by rw [Record.policy, Record.policy, htitles]
  cases hr' : r.policy with
  | lazy =>
    rw [Dict.contains_eq_false_iff.1 (hr.translatable hr' f hf),
      Dict.contains_eq_false_iff.1 (hs.translatable (hpolicy.trans hr') f hf)]
  | eager =>
    obtain ⟨hname, hcomment⟩ := hr.frozen hr' ""
    obtain ⟨hname', hcomment'⟩ := hs.frozen (hpolicy.trans hr') ""
    rw [Record.name, htitles] at hname'
    rw [Record.comment, htitles] at hcomment'
    cases f with
    | name => rw [Bag.get?_entries, Bag.get?_entries, hname', ← Record.name, ← hname]
    | comment => rw [Bag.get?_entries, Bag.get?_entries, hcomment', ← Record.comment, ← hcomment]
    | _ => cases hf

/-- What is found in the place of a property that is not there: the text of the title that it names. -/
def standIn (r : Record) (locale key : String) : Value :=
  if key = Field.name.key then presentText (r.name locale)
  else if key = Field.comment.key then presentText (r.comment locale)
  else .absent

/-- The name stands in for itself. -/
@[simp] theorem standIn_name (r : Record) (locale : String) :
    r.standIn locale Field.name.key = presentText (r.name locale) := if_pos rfl

/-- The description stands in for itself. -/
@[simp] theorem standIn_comment (r : Record) (locale : String) :
    r.standIn locale Field.comment.key = presentText (r.comment locale) :=
  (if_neg (by decide)).trans (if_pos rfl)

/-- A property is found if it is there, and else what stands in for it. -/
theorem lookup_eq_standIn (r : Record) (locale key : String) :
    r.lookup locale key
      = if (r.properties.lookup key).isAbsent then r.standIn locale key
        else r.properties.lookup key := by
  unfold lookup standIn
  cases r.properties.lookup key <;> rfl

/-- Under other names than those of the titles nothing but properties is found. -/
theorem lookup_of_ne_title {r : Record} {key : String} (locale : String)
    (hkey : ∀ f : Field, f.isTitle = true → key ≠ f.key) :
    r.lookup locale key = r.properties.lookup key := by
  rw [lookup_eq_standIn, standIn, if_neg (hkey .name rfl), if_neg (hkey .comment rfl)]
  cases r.properties.lookup key <;> rfl

/-- A field that is no title is looked up among the properties alone. -/
theorem lookup_key {r : Record} {f : Field} (hf : f.isTitle = false) (locale : String) :
    r.lookup locale f.key = r.properties.lookup f.key := by
  refine lookup_of_ne_title locale fun g hg hkey => ?_
  rw [Field.key_injective hkey, hg] at hf
  cases hf

/-- A title that no property hides is found as its text, whether it is fixed or not. -/
theorem Coherent.lookup_title {r : Record} (h : r.Coherent) {f : Field} (hf : f.isTitle = true)
    (hhides : r.properties.lookup f.key = r.fields.lookup f.key) (locale : String) :
    r.lookup locale f.key = r.standIn locale f.key := by
  rw [lookup_eq_standIn, hhides]
  split
  · rfl
  · rename_i hpresent
    cases hpolicy : r.policy with
    | lazy =>
      have habsent : r.fields.lookup f.key = .absent := by
        rw [Bag.lookup, Properties.lookup,
          Dict.contains_eq_false_iff.1 (h.translatable hpolicy f hf)]
        rfl
      exact absurd (by rw [habsent]; rfl) hpresent
    | eager =>
      obtain ⟨hname, hcomment⟩ := h.frozen hpolicy locale
      cases f with
      | name => rw [hname, standIn_name]
      | comment => rw [hcomment, standIn_comment]
      | _ => cases hf

/-- The parts of every record agree, whatever its source was and whatever custom properties it was given.
Its identifier is the one that was declared or taken from the file name of its library, its services are
those that were declared, and its titles are translated as its source requires. -/
theorem coherent_withProperties {locale libraryPath entryPath : String} {source : Source} {r₀ : Record}
    (h : normalize locale source libraryPath entryPath = .ok (some r₀))
    (steps : List (String × Value)) :
    let r := r₀.withProperties steps
    r.Coherent ∧
      (Declaration.ofSource source).declaredId?.or
        (Path.fileStem? (effectivePath (Declaration.ofSource source) libraryPath)) = some r.id ∧
      r.serviceTypes = (Declaration.ofSource source).serviceTypes ∧ r.policy = source.policy := by
  intro r
  have hfields : r.fields = r₀.fields := r₀.fields_withProperties steps
  have hid : r.id = r₀.id := by rw [Record.id, Record.id, fieldText, fieldText, hfields]
  have hservices : r.serviceTypes = r₀.serviceTypes := by
    rw [Record.serviceTypes, Record.serviceTypes, fieldList, fieldList, hfields]
  have hpolicy : r.policy = r₀.policy := by
    rw [Record.policy, Record.policy, r₀.titles_withProperties steps]
  refine ⟨(coherent_of_normalize h).withProperties steps, ?_, ?_, ?_⟩
  · rw [hid]
    obtain ⟨-, -, id, hidentity, rfl⟩ := normalize_eq_ok_some_iff.1 h
    rw [hidentity, Record.id, fieldText, Bag.lookup, Properties.lookup,
      Declaration.get?_fields_record _ _ _ _ _ (Declaration.areFields_ofSource source) (f := .id) rfl]
    rfl
  · rw [hservices]
    obtain ⟨id, rfl⟩ := exists_record_of_normalize h
    exact Declaration.serviceTypes_record _ _ _ _ _
  · rw [hpolicy]
    exact policy_of_normalize h

/-- Flat metadata with a name. -/
def namedSource : Source :=
  .flat (.ofList [("X-Plugin-EnabledByDefault", .text "true"), ("Name", .text "Spy")])

/-- A plugin is called like its library, also with another identifier among its properties. -/
theorem coherent_withProperties_named :
    ∃ r, normalize "" namedSource "/p/spy.so" "" = .ok (some r) ∧
      (r.withProperty Field.id.key (.text "other")).Coherent ∧
      (r.withProperty Field.id.key (.text "other")).id = "spy" := by
  have h : normalize "" namedSource "/p/spy.so" "" = .ok (some _) := rfl
  obtain ⟨hcoherent, hid, -, -⟩ := coherent_withProperties h [(Field.id.key, .text "other")]
  exact ⟨_, h, hcoherent, (Option.some.inj hid).symm⟩

end Record

end PluginCatalog
