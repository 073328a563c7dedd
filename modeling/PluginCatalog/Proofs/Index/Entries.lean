import PluginCatalog.Index.Finding
import PluginCatalog.Proofs.Property.Conversion
import PluginCatalog.Proofs.Record.Validity

/-!
# What an index keeps of a plugin

An index keeps the metadata of a plugin as JSON, where absent values are lost, and supplies an
identifier that is missing. Neither changes the record of the plugin (`Finding.record?_indexed`): a
record keeps no absent value, and the identifier that is supplied is the one that it takes from the
file name of the library. The key of the plugin stays what it was (`Finding.keyOf_indexed`).
-/

namespace PluginCatalog

open Metadata (Declaration Field Source Vocabulary displayText?)

/-! ## Declarations without absent values -/

/-- No number among some properties is `nan` or infinite. -/
def Properties.IsFinite (p : Properties) : Prop := ∀ key v, p.get? key = some v → v.IsFinite

namespace Metadata

/-- An absent value cannot be brought to the kind of a field. -/
theorem Field.coerce?_absent (f : Field) : f.coerce? .absent = none := by
  unfold coerce?
  cases f.kind <;> rfl

namespace Declaration

variable (v : Vocabulary) (p : Properties) (f : Field)

/-- An absent value declares nothing, so it may as well be missing. -/
theorem bind_fieldValue?_present {α : Type} {g : Value → Option α} (hg : g .absent = none) :
    (fieldValue? v (Bag.ofProperties p).entries f).bind g = (fieldValue? v p f).bind g := by
  unfold fieldValue?
  cases v.name? f with
  | none => rfl
  | some name =>
    rw [Option.bind_some, Option.bind_some, Bag.get?_entries_ofProperties]
    cases p.get? name with
    | none => rfl
    | some value =>
      cases value with
      | absent => exact hg.symm
      | _ => rfl

/-- An absent value adds nothing to the translations of a title. -/
theorem translation?_absent (name : String) : translation? v f (name, .absent) = none := by
  unfold translation?
  cases v.slot name <;> rfl

/-- The titles of some properties are declared without the absent ones. -/
theorem titleOf_present : titleOf v (Bag.ofProperties p).entries f = titleOf v p f := by
  have htranslations : (Bag.ofProperties p).entries.toList.filterMap (translation? v f)
      = p.toList.filterMap (translation? v f) := by
    show (p.toList.filter fun e => !e.2.isAbsent).filterMap _ = _
    rw [List.filterMap_filter]
    refine List.filterMap_congr fun e _ => ?_
    obtain ⟨name, value⟩ := e
    cases value with
    | absent => exact (translation?_absent v f name).symm
    | _ => rfl
  rw [titleOf_eq, titleOf_eq, htranslations, bind_fieldValue?_present v p f rfl]

/-- Without the absent ones, some properties declare the same but for absent custom properties. -/
theorem ofProperties_present :
    ofProperties v (Bag.ofProperties p).entries
      = { ofProperties v p with custom := (Bag.ofProperties (ofProperties v p).custom).entries } := by
  have hfields : fieldsOf v (Bag.ofProperties p).entries = fieldsOf v p := by
    unfold fieldsOf
    refine congrArg Dict.ofList (List.filterMap_congr fun f _ => ?_)
    rw [bind_fieldValue?_present v p f f.coerce?_absent]
  have hcustom : (ofProperties v (Bag.ofProperties p).entries).custom
      = (Bag.ofProperties (ofProperties v p).custom).entries := by
    refine Dict.ext_get? fun key => ?_
    rw [get?_custom, Bag.get?_entries_ofProperties, Bag.get?_entries_ofProperties, get?_custom]
    split <;> rfl
  rw [← hcustom]
  unfold ofProperties
  rw [titleOf_present, titleOf_present, hfields]

end Declaration

end Metadata

/-! ## Declarations with one more field -/

/-- An entry that gives nothing does not show in what the entries give. -/
theorem Dict.filterMap_insertEntry {α β : Type} {g : String × α → Option β} {key : String}
    (hg : ∀ value, g (key, value) = none) (value : α) (l : List (String × α)) :
    (insertEntry key value l).filterMap g = l.filterMap g := by
  induction l with
  | nil => simp [insertEntry, hg]
  | cons e l ih =>
    obtain ⟨k, v⟩ := e
    rw [insertEntry]
    split
    · rw [List.filterMap_cons_none (hg value)]
    · split
      · rw [List.filterMap_cons, List.filterMap_cons, ih]
      · rename_i h₁ h₂
        cases eq_of_not_lt h₁ h₂
        rw [List.filterMap_cons_none (hg value), List.filterMap_cons_none (hg v)]

namespace Metadata.Declaration

variable (p : Properties) {f : Field} {value : Value}

/-- A field that is no title adds nothing to the titles. -/
theorem titleOf_insert (hf : f.isTitle = false) (value : Value) {title : Field}
    (htitle : title.isTitle = true) :
    titleOf .canonical (p.insert f.key value) title = titleOf .canonical p title := by
  have hkey : title.key ≠ f.key := by
    intro h
    rw [Field.key_injective h, hf] at htitle
    cases htitle
  have htranslations : (p.insert f.key value).toList.filterMap (translation? .canonical title)
      = p.toList.filterMap (translation? .canonical title) := by
    refine Dict.filterMap_insertEntry (fun w => ?_) value p.toList
    rw [translation?, Vocabulary.slot_key]
  have hdefault : fieldValue? .canonical (p.insert f.key value) title = fieldValue? .canonical p title := by
    show (p.insert f.key value).get? title.key = p.get? title.key
    rw [Dict.get?_insert, if_neg hkey]
  rw [titleOf_eq, titleOf_eq, htranslations, hdefault]

/-- A value of a field declares that field and changes nothing else. -/
theorem ofProperties_insert (hf : f.isTitle = false) (hvalue : f.coerce? value = some value) :
    ofProperties .canonical (p.insert f.key value)
      = { ofProperties .canonical p with
          fields := (ofProperties .canonical p).fields.insert f.key value } := by
  -- Both sides have only fields under their keys, so it is enough to compare them field by field.
  have hdeclared (q : Properties) : (fieldsOf .canonical q).AreFields fun g => g.isTitle = false :=
    (areFields_fieldsOf _ _).mono fun _ h => h.1
  have hfields : fieldsOf .canonical (p.insert f.key value)
      = (fieldsOf .canonical p).insert f.key value := by
    refine (hdeclared _).ext ((hdeclared p).insert hf hvalue) fun g hg => ?_
    rw [Dict.get?_insert, get?_fieldsOf, get?_fieldsOf, hg, if_neg Bool.false_ne_true,
      if_neg Bool.false_ne_true]
    show ((p.insert f.key value).get? g.key).bind _ = if _ then _ else (p.get? g.key).bind _
    rw [Dict.get?_insert]
    by_cases hkey : g.key = f.key
    · rw [if_pos hkey, if_pos hkey, Field.key_injective hkey]
      exact hvalue
    · rw [if_neg hkey, if_neg hkey]
  have hcustom : (ofProperties .canonical (p.insert f.key value)).custom
      = (ofProperties .canonical p).custom := by
    refine Dict.ext_get? fun key => ?_
    rw [get?_custom, get?_custom]
    split
    · rename_i hkey
      rw [Dict.get?_insert, if_neg]
      rintro rfl
      rw [Vocabulary.slot_key] at hkey
      cases hkey
    · rfl
  unfold ofProperties at hcustom ⊢
  rw [titleOf_insert p hf value rfl, titleOf_insert p hf value rfl, hfields]
  exact congrArg _ hcustom

/-- Without a property under its key no identifier is declared. -/
theorem declaredId?_eq_none {p : Properties} (h : p.get? Field.id.key = none) :
    (ofProperties .canonical p).declaredId? = none := by
  have hfield : (fieldsOf .canonical p).get? Field.id.key = none := by
    have hvalue : fieldValue? .canonical p .id = none := h
    rw [get?_fieldsOf, hvalue]
    rfl
  show (((fieldsOf .canonical p).get? Field.id.key).bind Value.text?).filter _ = none
  rw [hfield]
  rfl

/-! ## Records of such declarations -/

variable (d : Declaration) (id libraryPath entryPath : String) (titles : Titles)

/-- A record has the identifier that it is given, whatever is declared. -/
theorem record_insert_id (value : Value) :
    record { d with fields := d.fields.insert Field.id.key value } id libraryPath entryPath titles
      = d.record id libraryPath entryPath titles := by
  have hinsert : (d.fields.insert Field.id.key value).insert Field.id.key (.text id)
      = d.fields.insert Field.id.key (.text id) := by
    refine Dict.ext_get? fun key => ?_
    rw [Dict.get?_insert, Dict.get?_insert, Dict.get?_insert]
    split <;> rfl
  unfold record
  rw [hinsert]

/-- An identifier does not make a plugin of use. -/
theorem isUseful_insert_id (value : Value) :
    isUseful { d with fields := d.fields.insert Field.id.key value } = d.isUseful := by
  have hne (f : Field) (hf : f ≠ .id) :
      (d.fields.insert Field.id.key value).get? f.key = d.fields.get? f.key := by
    rw [Dict.get?_insert, if_neg fun h => hf (Field.key_injective h)]
  unfold isUseful serviceTypes Dict.contains
  rw [hne .serviceTypes (by decide), hne .enabledByDefault (by decide)]

/-- An identifier is no library. -/
theorem library_insert_id (value : Value) :
    library { d with fields := d.fields.insert Field.id.key value } = d.library := by
  unfold library
  rw [Dict.get?_insert, if_neg (by decide)]

/-- A plugin that declares no identifier takes the file name of its library if that is declared in its
place. -/
theorem identity_insert_id (h : d.declaredId? = none) (path : String) :
    (declaredId? { d with
        fields := d.fields.insert Field.id.key (.text ((Path.fileStem? path).getD "")) }).or
      (Path.fileStem? (Record.effectivePath d path))
      = d.declaredId?.or (Path.fileStem? (Record.effectivePath d path)) := by
  rw [h, Option.none_or, declaredId?, Dict.get?_insert, if_pos rfl, Option.bind_some]
  cases hstem : Path.fileStem? path with
  | none => rfl
  | some stem =>
    have hne := Path.ne_empty_of_fileStem? hstem
    have hpath : path.isEmpty = false := by
      rw [Bool.eq_false_iff]
      intro hempty
      rw [String.isEmpty_iff.1 hempty] at hstem
      cases hstem
    have hkept : (some stem).filter (fun id => !id.isEmpty) = some stem := by simp [hne]
    rw [Record.effectivePath, hpath, if_neg Bool.false_ne_true, hstem, Option.getD_some, Value.text?,
      hkept, Option.some_or]

end Metadata.Declaration

/-! ## Plugins in an index -/

/-- Metadata gives what other metadata does if it declares the same, but for an identifier that the
library has anyway. -/
theorem Record.normalize_flat_congr {p q : Properties} {d e : Declaration} {libraryPath : String}
    (hp : p.isEmpty = false) (hq : q.isEmpty = false)
    (hd : Declaration.ofProperties .canonical p = d) (he : Declaration.ofProperties .canonical q = e)
    (hname : e.name = d.name) (hcomment : e.comment = d.comment)
    (huseful : e.isUseful = d.isUseful) (hlibrary : e.library = d.library)
    (hid : e.declaredId?.or (Path.fileStem? (effectivePath d libraryPath))
      = d.declaredId?.or (Path.fileStem? (effectivePath d libraryPath)))
    (hrecord : ∀ id path titles, e.record id path "" titles = d.record id path "" titles)
    (locale : String) :
    normalize locale (.flat q) libraryPath "" = normalize locale (.flat p) libraryPath "" := by
  have hpath : effectivePath e libraryPath = effectivePath d libraryPath := by
    rw [effectivePath, effectivePath, hlibrary]
  have htitles (policy : TranslationPolicy) : e.titles locale policy = d.titles locale policy := by
    cases policy <;> rw [Declaration.titles, Declaration.titles, hname, hcomment]
  unfold normalize
  simp only [Source.isEmpty, hp, hq, Declaration.ofSource, hd, he, hpath, hid, huseful, hrecord,
    htitles, Source.policy]

namespace Finding

open PluginIndex

/-- A plugin as it is found in its index. -/
def indexed (f : Finding) : Finding :=
  ⟨entryProperties (keyOf f) (entryOf f), f.libraryPath, .index⟩

/-- The record of a plugin in a locale, if it has one. -/
def record? (locale : String) (f : Finding) : Option Record :=
  match Record.normalize locale (.flat f.metadata) f.libraryPath "" with
  | .ok r => r
  | .error _ => none

/-- The records of some plugins are those that they have, in order. -/
theorem normalizeAll_eq_filterMap (locale : String) (found : List Finding) :
    Record.normalizeAll locale (found.map fun f => (.flat f.metadata, f.libraryPath))
      = found.filterMap (record? locale) := by
  rw [Record.normalizeAll, List.filterMap_map]
  rfl

variable {f : Finding} (h : f.metadata.IsFinite)

include h

/-- An index keeps the metadata that is not absent. -/
theorem decoded_entryOf :
    (entryOf f).metadata.filterMap (fun _ j => Value.ofJson? j)
      = (Bag.ofProperties f.metadata).entries := by
  refine Dict.ext_get? fun key => ?_
  rw [Dict.get?_filterMap, Bag.get?_entries_ofProperties, entryOf, Dict.get?_map]
  cases hv : f.metadata.get? key with
  | none => rfl
  | some v =>
    rw [Option.map_some, Option.bind_some, Value.ofJson?_toJson (h key v hv)]
    cases v <;> rfl

/-- In its index a plugin has the metadata that is not absent. If there is no identifier among it, its
key is the file name of its library, which becomes the identifier. -/
theorem metadata_indexed :
    (∃ v, f.metadata.get? Field.id.key = some v ∧
      (Bag.ofProperties f.metadata).entries.get? Field.id.key = some v ∧
      f.indexed.metadata = (Bag.ofProperties f.metadata).entries) ∨
    ((Bag.ofProperties f.metadata).entries.get? Field.id.key = none ∧
      keyOf f = (Path.fileStem? f.libraryPath).getD "" ∧
      f.indexed.metadata
        = (Bag.ofProperties f.metadata).entries.insert Field.id.key (.text (keyOf f))) := by
  have hget := Bag.get?_entries_ofProperties f.metadata Field.id.key
  rw [indexed, entryProperties, decoded_entryOf h]
  dsimp only
  split
  · rename_i hdeclared
    obtain ⟨v, hv⟩ := Dict.contains_eq_true_iff.1 hdeclared
    exact .inl ⟨v, (Option.filter_eq_some_iff.1 (hget.symm.trans hv)).1, hv, rfl⟩
  · rename_i hmissing
    have hnone := Dict.contains_eq_false_iff.1 (Bool.not_eq_true _ ▸ hmissing)
    refine .inr ⟨hnone, ?_, rfl⟩
    rw [hget] at hnone
    unfold keyOf
    cases hv : f.metadata.get? Field.id.key with
    | none => rfl
    | some v =>
      rw [hv] at hnone
      cases v with
      | absent => rfl
      | _ => cases hnone

/-- The key of a plugin stays the same in its index. -/
theorem keyOf_indexed : keyOf f.indexed = keyOf f := by
  obtain ⟨v, hv, hentry, hmetadata⟩ | ⟨-, hkey, hmetadata⟩ := metadata_indexed h
  · rw [keyOf, keyOf, hmetadata, hentry, hv]
    rfl
  · rw [keyOf, hmetadata, Dict.get?_insert, if_pos rfl]
    dsimp only
    split
    · exact hkey.symm
    · rfl

/-- In its index a plugin that has any metadata gives the record that it gives by itself. -/
theorem normalize_indexed (hne : f.metadata.isEmpty = false) (locale : String) :
    Record.normalize locale (.flat f.indexed.metadata) f.libraryPath ""
      = Record.normalize locale (.flat f.metadata) f.libraryPath "" := by
  let d := Declaration.ofProperties .canonical f.metadata
  let kept : Declaration := { d with custom := (Bag.ofProperties d.custom).entries }
  have hfields : d.fields.AreFields fun g => g.isTitle = false :=
    Declaration.areFields_ofSource (.flat f.metadata)
  have hkept : Declaration.ofProperties .canonical (Bag.ofProperties f.metadata).entries = kept :=
    Declaration.ofProperties_present .canonical f.metadata
  have hrecord (id path : String) (titles : Titles) :
      kept.record id path "" titles = d.record id path "" titles :=
    d.record_present id path "" titles hfields (Declaration.get?_custom_key f.metadata)
  obtain ⟨v, -, hentry, hmetadata⟩ | ⟨hnone, hkey, hmetadata⟩ := metadata_indexed h
  -- With an identifier the index changes nothing but absent custom properties.
  · rw [hmetadata]
    exact Record.normalize_flat_congr hne (Dict.isEmpty_eq_false hentry) rfl hkept rfl rfl rfl rfl rfl
      hrecord locale
  -- Otherwise one more field is declared, which is what the record takes from the library.
  · have hsome : f.indexed.metadata.get? Field.id.key = some (.text (keyOf f)) := by
      rw [hmetadata, Dict.get?_insert, if_pos rfl]
    have hdeclares : Declaration.ofProperties .canonical f.indexed.metadata
        = { kept with fields := kept.fields.insert Field.id.key (.text (keyOf f)) } := by
      rw [hmetadata, Declaration.ofProperties_insert _ rfl rfl, hkept]
    refine Record.normalize_flat_congr hne (Dict.isEmpty_eq_false hsome) rfl hdeclares rfl rfl
      (kept.isUseful_insert_id _) (kept.library_insert_id _) ?_ (fun id path titles => ?_) locale
    · have hmissing : kept.declaredId? = none := hkept ▸ Declaration.declaredId?_eq_none hnone
      rw [hkey]
      exact kept.identity_insert_id hmissing f.libraryPath
    · rw [kept.record_insert_id, hrecord]

omit h in
/-- A plugin has the record that its metadata gives. -/
theorem record?_eq_some_iff {locale : String} {r : Record} :
    f.record? locale = some r
      ↔ Record.normalize locale (.flat f.metadata) f.libraryPath "" = .ok (some r) := by
  unfold record?
  cases Record.normalize locale (.flat f.metadata) f.libraryPath "" <;> simp

/-- In its index a plugin without metadata has no record, as an identifier alone is of no use. -/
theorem normalize_indexed_empty (hempty : f.metadata.isEmpty = true) (locale : String) (r : Record) :
    Record.normalize locale (.flat f.indexed.metadata) f.libraryPath "" ≠ .ok (some r) := by
  have hmetadata : f.metadata = .empty := Dict.eq_empty hempty
  intro hrecord
  obtain ⟨-, huseful, -⟩ := Record.normalize_eq_ok_some_iff.1 hrecord
  obtain ⟨v, hv, -, -⟩ | ⟨-, -, hindexed⟩ := metadata_indexed h
  · rw [hmetadata] at hv
    cases hv
  · rw [hindexed, Declaration.ofSource, Declaration.ofProperties_insert _ rfl rfl,
      Declaration.isUseful_insert_id, hmetadata] at huseful
    exact absurd huseful (by decide)

/-- In its index a plugin has the record that it has by itself. -/
theorem record?_indexed (locale : String) : f.indexed.record? locale = f.record? locale := by
  refine Option.ext fun r => ?_
  rw [record?_eq_some_iff, record?_eq_some_iff]
  show Record.normalize locale (.flat f.indexed.metadata) f.libraryPath "" = _ ↔ _
  cases hempty : f.metadata.isEmpty with
  | false => rw [normalize_indexed h hempty]
  | true =>
    have hnone : Record.normalize locale (.flat f.metadata) f.libraryPath "" = .ok none := by
      rw [Record.normalize, Source.isEmpty, if_pos hempty]
    rw [hnone]
    exact iff_of_false (normalize_indexed_empty h hempty locale r) (by simp)

end Finding

end PluginCatalog
