import PluginCatalog.Index.Finding
import PluginCatalog.Record.Normalization

/-!
# The fields of records

A record is what its source declares under an identifier (`Record.exists_record_of_normalize`). The
fields of a declaration are found by their keys, each brought to its kind
(`Declaration.get?_fieldsOf`), and the record keeps them but for the identifier and the titles. So
the services of a record are those that its metadata names before it is brought to a record
(`Record.serviceTypes_of_normalize`).
-/

namespace PluginCatalog

namespace Metadata

/-- The field of a key in flat sources is found by it. -/
theorem Vocabulary.field?_key (f : Field) : canonical.field? f.key = some f := by
  cases f <;> decide

/-- Fields with the same key are the same. -/
theorem Field.key_injective {f g : Field} (h : f.key = g.key) : f = g := by
  have hfound := Vocabulary.field?_key f
  rw [h, Vocabulary.field?_key g] at hfound
  exact (Option.some.inj hfound).symm

/-- Every field is among all of them. -/
theorem Field.mem_all (f : Field) : f ∈ all := by
  cases f <;> decide

namespace Declaration

/-- Among entries for some fields, the one for a field is found by its key. -/
theorem lookup_entries (value? : Field → Option Value) (f : Field) (fields : List Field) :
    Dict.lookup f.key (fields.filterMap fun g => (value? g).map (g.key, ·))
      = if f ∈ fields then value? f else none := by
  induction fields with
  | nil => rfl
  | cons g fields ih =>
    rw [List.filterMap_cons]
    -- Only the entry of the field itself has its key.
    by_cases hg : f = g
    · subst hg
      cases hv : value? f with
      | none => simp [ih, hv]
      | some v => simp [Dict.lookup]
    · have hkey : f.key ≠ g.key := fun h => hg (Field.key_injective h)
      cases value? g with
      | none => simp [ih, hg]
      | some v => simp [Dict.lookup, hkey, ih, hg]

/-- A field other than a title has its value brought to the kind of the field. -/
theorem get?_fieldsOf (v : Vocabulary) (p : Properties) (f : Field) :
    (fieldsOf v p).get? f.key
      = if f.isTitle then none else (fieldValue? v p f).bind f.coerce? := by
  let value? (g : Field) : Option Value :=
    if g.isTitle then none else (fieldValue? v p g).bind g.coerce?
  have hentries : (fun g : Field => if g.isTitle then none
      else ((fieldValue? v p g).bind g.coerce?).map (g.key, ·))
        = fun g => (value? g).map (g.key, ·) := by
    funext g
    cases hg : g.isTitle <;> simp [value?, hg]
  rw [fieldsOf, Dict.get?_ofList, hentries, ← List.filterMap_reverse, lookup_entries, if_pos]
  exact List.mem_reverse.2 f.mem_all

/-- A title changes no other field. -/
theorem get?_addTitle (fields : Properties) (text : String) {title f : Field} (h : f ≠ title) :
    (addTitle title text fields).get? f.key = fields.get? f.key := by
  have hkey : f.key ≠ title.key := fun hk => h (Field.key_injective hk)
  unfold addTitle
  split
  · rfl
  · rw [Dict.get?_insert, if_neg hkey]

/-- Titles change no other field. -/
theorem get?_addTitles (fields : Properties) (titles : Titles) {f : Field}
    (hf : f.isTitle = false) : (addTitles fields titles).get? f.key = fields.get? f.key := by
  have hname : f ≠ .name := by
    rintro rfl
    cases hf
  have hcomment : f ≠ .comment := by
    rintro rfl
    cases hf
  cases titles with
  | translatable name comment => rfl
  | frozen name comment =>
    rw [addTitles, get?_addTitle _ _ hcomment, get?_addTitle _ _ hname]

/-- A record keeps the declared fields but for the identifier and the titles. -/
theorem lookup_fields_record (d : Declaration) (id libraryPath entryPath : String) (titles : Titles)
    {f : Field} (hf : f.isTitle = false) (hid : f ≠ .id) :
    (d.record id libraryPath entryPath titles).fields.lookup f.key = d.fields.lookup f.key := by
  have hkey : f.key ≠ Field.id.key := fun h => hid (Field.key_injective h)
  rw [record, Bag.lookup_ofProperties, Properties.lookup, Properties.lookup, get?_addTitles _ _ hf,
    Dict.get?_insert, if_neg hkey]

/-- A record offers the services that are declared. -/
theorem serviceTypes_record (d : Declaration) (id libraryPath entryPath : String) (titles : Titles) :
    (d.record id libraryPath entryPath titles).serviceTypes = d.serviceTypes := by
  rw [Record.serviceTypes, Record.fieldList, lookup_fields_record d _ _ _ _ rfl (by decide),
    serviceTypes, Properties.lookup]
  cases d.fields.get? Field.serviceTypes.key <;> rfl

end Declaration

end Metadata

open Metadata (Declaration Field Source)

/-- A source that gives a record gives that of its declaration under some identifier. -/
theorem Record.exists_record_of_normalize {locale libraryPath entryPath : String} {source : Source}
    {r : Record} (h : normalize locale source libraryPath entryPath = .ok (some r)) :
    ∃ id, r = (Declaration.ofSource source).record id
      (effectivePath (Declaration.ofSource source) libraryPath) entryPath
      ((Declaration.ofSource source).titles locale source.policy) := by
  unfold normalize at h
  dsimp only at h
  split at h
  · cases h
  · split at h
    · cases h
    · split at h
      · cases h
        exact ⟨_, rfl⟩
      · cases h

/-- The services that properties declare are those that they name. -/
theorem Finding.serviceTypes_eq (p : Properties) :
    (Declaration.ofSource (.flat p)).serviceTypes = serviceTypes p := by
  have hfields : (Declaration.ofSource (.flat p)).fields.get? Field.serviceTypes.key
      = (p.get? Field.serviceTypes.key).bind Field.serviceTypes.coerce? :=
    Declaration.get?_fieldsOf .canonical p .serviceTypes
  rw [Declaration.serviceTypes, hfields, serviceTypes]
  cases p.get? Field.serviceTypes.key with
  | none => rfl
  | some v => cases v <;> rfl

/-- The record of flat metadata offers the services that the metadata names. -/
theorem Record.serviceTypes_of_normalize {locale libraryPath entryPath : String} {p : Properties}
    {r : Record} (h : normalize locale (.flat p) libraryPath entryPath = .ok (some r)) :
    r.serviceTypes = Finding.serviceTypes p := by
  obtain ⟨id, rfl⟩ := exists_record_of_normalize h
  rw [Declaration.serviceTypes_record, Finding.serviceTypes_eq]

end PluginCatalog
