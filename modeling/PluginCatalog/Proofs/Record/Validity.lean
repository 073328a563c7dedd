import PluginCatalog.Proofs.Metadata.Declarations

/-!
# What holds of every record

A record has an identifier, is of use, keeps its fields in the kinds that they require, and translates
its titles by normalized tags (`Record.Valid`). This holds when a source is normalized
(`Record.valid_of_normalize`), and custom properties change nothing of it
(`Record.Valid.withProperties`): they touch neither the fields nor the titles.
-/

namespace PluginCatalog

open Metadata (Declaration Field Source)

/-! ## File names -/

/-- A file name without its extension is not empty. -/
theorem Path.ne_empty_of_fileStem? {path stem : String} (h : fileStem? path = some stem) :
    stem ≠ "" := by
  obtain ⟨name, hname, rfl⟩ := Option.map_eq_some_iff.1 h
  have hne : name ≠ "" := by
    unfold fileName? at hname
    split at hname
    · cases hname
    · rename_i component hlast
      split at hname
      · cases hname
      · cases hname
        have hmem := List.mem_of_getLast? hlast
        have hcomponent := (List.mem_filter.1 hmem).2
        simp only [Bool.and_eq_true, decide_eq_true_eq] at hcomponent
        simpa using hcomponent.1
  unfold stem
  dsimp only
  split
  · exact hne
  · rename_i hpoint
    simpa using hpoint

/-! ## Fields in bags -/

/-- Properties that are not absent are kept. -/
theorem Bag.get?_entries_ofProperties (p : Properties) (key : String) :
    (ofProperties p).entries.get? key = (p.get? key).filter fun v => !v.isAbsent :=
  Dict.get?_filter p _ key

/-- No property is absent. -/
def Properties.Present (p : Properties) : Prop := ∀ key, p.get? key ≠ some .absent

/-- Properties of which none is absent are kept as they are. -/
theorem Properties.Present.entries_ofProperties {p : Properties} (h : p.Present) :
    (Bag.ofProperties p).entries = p := by
  refine Dict.ext_get? fun key => ?_
  show Dict.get? (p.filter _) key = _
  rw [Dict.get?_filter]
  cases hv : p.get? key with
  | none => rfl
  | some v =>
    cases v with
    | absent => exact absurd hv (h key)
    | _ => rfl

/-- Properties over others are present if both are. -/
theorem Properties.Present.overlay {p q : Properties} (hp : p.Present) (hq : q.Present) :
    Properties.Present (p.overlay q) := by
  intro key hv
  rw [Dict.get?_overlay, Option.or_eq_some_iff] at hv
  rcases hv with hv | ⟨-, hv⟩
  · exact hq key hv
  · exact hp key hv

/-- No field is absent. -/
theorem Properties.AreFields.present {P : Field → Prop} {p : Properties} (h : p.AreFields P) :
    p.Present := by
  intro key hv
  obtain ⟨f, -, -, hcoerce⟩ := h key .absent hv
  exact (Field.kind_of_coerce?_self hcoerce).1 rfl

/-- Fields agree under a name if they do so whenever it is the key of one. -/
theorem Properties.AreFields.get?_congr {P : Field → Prop} {p q : Properties} (hp : p.AreFields P)
    (hq : q.AreFields P) {key : String}
    (h : ∀ f : Field, P f → key = f.key → p.get? key = q.get? key) : p.get? key = q.get? key := by
  refine Option.ext fun v => ⟨fun hv => ?_, fun hv => ?_⟩
  · obtain ⟨f, hkey, hf, -⟩ := hp key v hv
    rw [← h f hf hkey]
    exact hv
  · obtain ⟨f, hkey, hf, -⟩ := hq key v hv
    rw [h f hf hkey]
    exact hv

/-- Fields are determined by what is found under their keys. -/
theorem Properties.AreFields.ext {P : Field → Prop} {p q : Properties} (hp : p.AreFields P)
    (hq : q.AreFields P) (h : ∀ f, P f → p.get? f.key = q.get? f.key) : p = q :=
  Dict.ext_get? fun _ => hp.get?_congr hq fun f hf hkey => by rw [hkey, h f hf]

namespace Metadata.Declaration

variable {P : Field → Prop}

/-- A title is a field. -/
theorem areFields_addTitle {fields : Properties} (h : fields.AreFields P) {title : Field}
    (ht : title.isTitle = true) (hP : P title) (text : String) :
    (addTitle title text fields).AreFields P := by
  unfold addTitle
  split
  · exact h
  · refine h.insert hP ?_
    cases title with
    | name | comment => rfl
    | _ => cases ht

/-- Titles that are added to fields are fields. -/
theorem areFields_addTitles {fields : Properties} (h : fields.AreFields P) {titles : Titles}
    (hP : titles.policy = .eager → P .name ∧ P .comment) : (addTitles fields titles).AreFields P := by
  cases titles with
  | translatable name comment => exact h
  | frozen name comment =>
    obtain ⟨hname, hcomment⟩ := hP rfl
    exact areFields_addTitle (areFields_addTitle h rfl hname name) rfl hcomment comment

variable (d : Declaration) (id libraryPath entryPath : String) (titles : Titles)

/-- The fields that a record keeps are those of its declaration with the identifier and the titles
that no longer depend on the locale. -/
theorem areFields_kept (h : d.fields.AreFields P) (hid : P .id)
    (htitles : titles.policy = .eager → P .name ∧ P .comment) :
    (addTitles (d.fields.insert Field.id.key (.text id)) titles).AreFields P :=
  areFields_addTitles (h.insert hid rfl) htitles

/-- The fields of a record are fields. -/
theorem areFields_record (h : d.fields.AreFields P) (hid : P .id)
    (htitles : titles.policy = .eager → P .name ∧ P .comment) :
    (d.record id libraryPath entryPath titles).fields.entries.AreFields P := by
  have hkept := areFields_kept d id titles h hid htitles
  show (Bag.ofProperties _).entries.AreFields P
  rw [hkept.present.entries_ofProperties]
  exact hkept

/-- A record keeps the declared fields, under the identifier. -/
theorem get?_fields_record (h : d.fields.AreFields P) {f : Field} (hf : f.isTitle = false) :
    (d.record id libraryPath entryPath titles).fields.entries.get? f.key
      = if f = .id then some (.text id) else d.fields.get? f.key := by
  have hkept := areFields_kept d id titles (h.mono fun _ _ => trivial) trivial
    fun _ => ⟨trivial, trivial⟩
  have hkey : f.key = Field.id.key ↔ f = .id :=
    ⟨fun hk => Field.key_injective hk, fun hk => by rw [hk]⟩
  show (Bag.ofProperties _).entries.get? f.key = _
  rw [hkept.present.entries_ofProperties, get?_addTitles _ _ hf, Dict.get?_insert]
  simp only [hkey]

/-- A record has the identifier under which it was made. -/
theorem id_record (h : d.fields.AreFields P) :
    (d.record id libraryPath entryPath titles).id = id := by
  rw [Record.id, Record.fieldText, Bag.lookup, Properties.lookup,
    d.get?_fields_record id libraryPath entryPath titles h (f := .id) rfl]
  rfl

/-- The properties of a record are those of its declaration without a meaning over its fields. -/
theorem entries_properties_record (h : d.fields.AreFields P) (hcustom : d.custom.Present) :
    (d.record id libraryPath entryPath titles).properties.entries
      = (d.record id libraryPath entryPath titles).fields.entries.overlay d.custom := by
  have hkept := areFields_kept d id titles (h.mono fun _ _ => trivial) trivial
    fun _ => ⟨trivial, trivial⟩
  show (Bag.ofProperties _).entries = (Bag.ofProperties _).entries.overlay d.custom
  rw [hkept.present.entries_ofProperties, (hkept.present.overlay hcustom).entries_ofProperties]

/-- A record keeps no absent custom property, so they may as well be missing. -/
theorem record_present (h : d.fields.AreFields P)
    (hcustom : ∀ g : Field, d.custom.get? g.key = none) :
    record { d with custom := (Bag.ofProperties d.custom).entries } id libraryPath entryPath titles
      = d.record id libraryPath entryPath titles := by
  have hkept := areFields_kept d id titles (h.mono fun _ _ => trivial) trivial
    fun _ => ⟨trivial, trivial⟩
  have hproperties : Bag.ofProperties ((addTitles (d.fields.insert Field.id.key (.text id))
        titles).overlay (Bag.ofProperties d.custom).entries)
      = Bag.ofProperties ((addTitles (d.fields.insert Field.id.key (.text id)) titles).overlay
          d.custom) := by
    refine Bag.ext_entries (Dict.ext_get? fun key => ?_)
    rw [Bag.get?_entries_ofProperties, Bag.get?_entries_ofProperties, Dict.get?_overlay,
      Dict.get?_overlay, Bag.get?_entries_ofProperties]
    cases hvalue : d.custom.get? key with
    | none => rfl
    | some value =>
      -- A custom property hides no field, so there is nothing below an absent one.
      have hnone : (addTitles (d.fields.insert Field.id.key (.text id)) titles).get? key = none := by
        refine hkept.get?_eq_none fun g hg => ?_
        rw [hg, hcustom g] at hvalue
        cases hvalue
      rw [hnone, Option.or_none, Option.or_none, Option.filter_filter]
      simp
  unfold record
  dsimp only
  rw [hproperties]

/-- The properties of a record are the custom ones that are there over its fields, if none of them hides
a field. -/
theorem entries_properties_record_present (h : d.fields.AreFields P)
    (hcustom : ∀ g : Field, d.custom.get? g.key = none) :
    (d.record id libraryPath entryPath titles).properties.entries
      = (d.record id libraryPath entryPath titles).fields.entries.overlay
        (Bag.ofProperties d.custom).entries := by
  rw [← d.record_present id libraryPath entryPath titles h hcustom]
  exact entries_properties_record _ id libraryPath entryPath titles h (Bag.ofProperties d.custom).present

end Metadata.Declaration

/-! ## Records -/

/-- A title whose table, if it is kept, has normalized tags. -/
def DisplayText.Normal : DisplayText → Prop
  | .frozen _ => True
  | .translatable table => table.Normal

/-- Titles that are translated by normalized tags, if they are translated at all. -/
structure Titles.Normal (titles : Titles) : Prop where
  /-- The name is. -/
  name : titles.name.Normal
  /-- The description is. -/
  comment : titles.comment.Normal

namespace Record

/-- What holds of every record. -/
structure Valid (r : Record) : Prop where
  /-- The fields are values of the kinds that they require. -/
  areFields : r.fields.entries.AreFields fun _ => True
  /-- The identifier is one of the fields. -/
  get?_id : r.fields.entries.get? Field.id.key = some (.text r.id)
  /-- The identifier is not empty. -/
  id_ne_empty : r.id ≠ ""
  /-- The plugin offers a service or declares whether it is enabled by default. -/
  useful : r.serviceTypes ≠ [] ∨ r.fields.contains Field.enabledByDefault.key = true
  /-- The titles are translated by normalized tags. -/
  normal : r.titles.Normal

/-- When a source gives a record, and which. -/
theorem normalize_eq_ok_some_iff {locale libraryPath entryPath : String} {source : Source}
    {r : Record} :
    normalize locale source libraryPath entryPath = .ok (some r)
      ↔ source.isEmpty = false ∧ (Declaration.ofSource source).isUseful = true ∧
        ∃ id, (Declaration.ofSource source).declaredId?.or
            (Path.fileStem? (effectivePath (Declaration.ofSource source) libraryPath)) = some id ∧
          r = (Declaration.ofSource source).record id
            (effectivePath (Declaration.ofSource source) libraryPath) entryPath
            ((Declaration.ofSource source).titles locale source.policy) := by
  unfold normalize
  dsimp only
  cases source.isEmpty with
  | true => simp
  | false =>
    cases (Declaration.ofSource source).declaredId?.or
      (Path.fileStem? (effectivePath (Declaration.ofSource source) libraryPath)) with
    | none => simp
    | some id =>
      cases (Declaration.ofSource source).isUseful with
      | false => simp
      | true => simp [eq_comm]

/-- An identifier that is declared or taken from a file name is not empty. -/
theorem ne_empty_of_identity {d : Declaration} {path id : String}
    (h : d.declaredId?.or (Path.fileStem? path) = some id) : id ≠ "" := by
  cases hdeclared : d.declaredId? with
  | none =>
    rw [hdeclared, Option.none_or] at h
    exact Path.ne_empty_of_fileStem? h
  | some declared =>
    rw [hdeclared, Option.some_or] at h
    cases h
    unfold Declaration.declaredId? at hdeclared
    simpa using (Option.filter_eq_some_iff.1 hdeclared).2

/-- A record of a source is valid. -/
theorem valid_of_normalize {locale libraryPath entryPath : String} {source : Source} {r : Record}
    (h : normalize locale source libraryPath entryPath = .ok (some r)) : r.Valid := by
  obtain ⟨-, huseful, id, hid, rfl⟩ := normalize_eq_ok_some_iff.1 h
  have hfields := Declaration.areFields_ofSource source
  have hnormal := Declaration.normal_ofSource source
  -- From here on it does not matter where the declaration comes from.
  generalize Declaration.ofSource source = d at *
  generalize effectivePath d libraryPath = path at *
  generalize htitles : d.titles locale source.policy = titles
  have hget {f : Field} (hf : f.isTitle = false) :=
    d.get?_fields_record id path entryPath titles hfields hf
  have hrecordId := d.id_record id path entryPath titles hfields
  refine ⟨?_, ?_, ?_, ?_, ?_⟩
  · exact d.areFields_record id path entryPath titles (hfields.mono fun _ _ => trivial) trivial
      fun _ => ⟨trivial, trivial⟩
  · rw [hrecordId]
    exact hget rfl
  · rw [hrecordId]
    exact ne_empty_of_identity hid
  · rw [Declaration.serviceTypes_record]
    rw [Declaration.isUseful, Bool.or_eq_true] at huseful
    refine huseful.imp (fun hservices => by simpa using hservices) fun henabled => ?_
    rw [Dict.contains, Option.isSome_iff_exists] at henabled
    obtain ⟨v, hv⟩ := henabled
    rw [Bag.contains, Dict.contains, hget rfl]
    simp [hv]
  · rw [← htitles]
    cases source.policy with
    | eager => exact ⟨trivial, trivial⟩
    | lazy => exact ⟨hnormal.1, hnormal.2⟩

/-- A source that declares what a record does of the identifier, the services and the default gives a
record with the same identifier. -/
theorem Valid.normalize_of_declared {r : Record} (h : r.Valid) {source : Source}
    (hnonempty : source.isEmpty = false)
    (hget : ∀ (f : Field) v, f = .id ∨ f = .serviceTypes ∨ f = .enabledByDefault →
      r.fields.entries.get? f.key = some v →
      (Declaration.ofSource source).fields.get? f.key = some v)
    (locale libraryPath entryPath : String) :
    normalize locale source libraryPath entryPath
      = .ok (some ((Declaration.ofSource source).record r.id
          (effectivePath (Declaration.ofSource source) libraryPath) entryPath
          ((Declaration.ofSource source).titles locale source.policy))) := by
  have hid : (Declaration.ofSource source).declaredId? = some r.id := by
    rw [Declaration.declaredId?, hget .id _ (.inl rfl) h.get?_id]
    simp [Value.text?, Option.filter, h.id_ne_empty]
  have huseful : (Declaration.ofSource source).isUseful = true := by
    rw [Declaration.isUseful, Bool.or_eq_true, Declaration.serviceTypes]
    refine h.useful.imp (fun hservices => ?_) fun henabled => ?_
    · rw [serviceTypes, fieldList, Bag.lookup, Properties.lookup] at hservices
      cases hv : r.fields.entries.get? Field.serviceTypes.key with
      | none =>
        rw [hv] at hservices
        exact absurd rfl hservices
      | some v =>
        rw [hv] at hservices
        rw [hget .serviceTypes v (.inr (.inl rfl)) hv]
        simpa using hservices
    · obtain ⟨v, hv⟩ := Dict.contains_eq_true_iff.1 henabled
      exact Dict.contains_eq_true_iff.2 ⟨v, hget .enabledByDefault v (.inr (.inr rfl)) hv⟩
  rw [normalize_eq_ok_some_iff, hid]
  exact ⟨hnonempty, huseful, r.id, rfl, rfl⟩

/-- If it declares no library when that of the record is not known, the record has the same library
too. -/
theorem Valid.normalize_of_fields {r : Record} (h : r.Valid) {source : Source}
    (hnonempty : source.isEmpty = false)
    (hget : ∀ f : Field, f = .id ∨ f = .serviceTypes ∨ f = .enabledByDefault →
      (Declaration.ofSource source).fields.get? f.key = r.fields.entries.get? f.key)
    (hlibrary : r.libraryPath = "" → (Declaration.ofSource source).library = "")
    (locale entryPath : String) :
    normalize locale source r.libraryPath entryPath
      = .ok (some ((Declaration.ofSource source).record r.id r.libraryPath entryPath
          ((Declaration.ofSource source).titles locale source.policy))) := by
  have hpath : effectivePath (Declaration.ofSource source) r.libraryPath = r.libraryPath := by
    unfold effectivePath
    split
    · rename_i hempty
      rw [String.isEmpty_iff] at hempty
      rw [hlibrary hempty, hempty]
    · rfl
  have hnormalize := h.normalize_of_declared hnonempty (fun f v hf hv => (hget f hf).trans hv) locale
    r.libraryPath entryPath
  rwa [hpath] at hnormalize

/-- Records with the same parts are the same. -/
theorem eq_of_entries {r s : Record} (htitles : r.titles = s.titles)
    (hfields : r.fields.entries = s.fields.entries)
    (hproperties : r.properties.entries = s.properties.entries)
    (hlibrary : r.libraryPath = s.libraryPath) (hentry : r.entryPath = s.entryPath) : r = s := by
  cases r
  cases s
  cases htitles
  cases Bag.ext_entries hfields
  cases Bag.ext_entries hproperties
  cases hlibrary
  cases hentry
  rfl

/-! ## Custom properties -/

/-- A record with several more custom properties, one after another. -/
def withProperties (r : Record) (steps : List (String × Value)) : Record :=
  steps.foldl (fun r e => r.withProperty e.1 e.2) r

variable (r : Record) (steps : List (String × Value))

/-- A custom property does not change the fields. -/
@[simp] theorem fields_withProperty (key : String) (value : Value) :
    (r.withProperty key value).fields = r.fields := rfl

/-- A custom property does not change the titles. -/
@[simp] theorem titles_withProperty (key : String) (value : Value) :
    (r.withProperty key value).titles = r.titles := rfl

/-- Custom properties do not change the fields. -/
@[simp] theorem fields_withProperties : (r.withProperties steps).fields = r.fields := by
  induction steps generalizing r with
  | nil => rfl
  | cons e steps ih => exact (ih _).trans (r.fields_withProperty e.1 e.2)

/-- Custom properties do not change the titles. -/
@[simp] theorem titles_withProperties : (r.withProperties steps).titles = r.titles := by
  induction steps generalizing r with
  | nil => rfl
  | cons e steps ih => exact (ih _).trans (r.titles_withProperty e.1 e.2)

variable {r}

/-- Records with the same fields and titles are valid together. -/
theorem Valid.of_fields {s : Record} (h : r.Valid) (hfields : s.fields = r.fields)
    (htitles : s.titles = r.titles) : s.Valid := by
  have hid : s.id = r.id := by rw [Record.id, fieldText, hfields, Record.id, fieldText]
  have hservices : s.serviceTypes = r.serviceTypes := by
    rw [serviceTypes, fieldList, hfields, serviceTypes, fieldList]
  constructor
  · rw [hfields]
    exact h.areFields
  · rw [hfields, hid]
    exact h.get?_id
  · rw [hid]
    exact h.id_ne_empty
  · rw [hfields, hservices]
    exact h.useful
  · rw [htitles]
    exact h.normal

/-- A record stays valid with more custom properties. -/
theorem Valid.withProperties (h : r.Valid) (steps : List (String × Value)) :
    (r.withProperties steps).Valid :=
  h.of_fields (r.fields_withProperties steps) (r.titles_withProperties steps)

/-! ## Agreement -/

/-- The second record has the fields of the first one, as its accessors read them; titles, paths and
properties are left open. -/
structure SameFields (r s : Record) : Prop where
  id : s.id = r.id
  serviceTypes : s.serviceTypes = r.serviceTypes
  icon : s.icon = r.icon
  author : s.author = r.author
  email : s.email = r.email
  category : s.category = r.category
  dependencies : s.dependencies = r.dependencies
  license : s.license = r.license
  version : s.version = r.version
  website : s.website = r.website
  isHidden : s.isHidden = r.isHidden
  isEnabledByDefault : s.isEnabledByDefault = r.isEnabledByDefault

/-- What the accessor of a field reads. -/
def fieldValue (r : Record) (f : Field) : Value :=
  match f.kind with
  | .title | .text => .text (r.fieldText f)
  | .flag => .bool (r.fieldFlag f)
  | .list => .list (r.fieldList f)

/-- Records agree in their fields if the accessors read the same of both. -/
theorem sameFields_iff {r s : Record} :
    r.SameFields s
      ↔ ∀ f : Field, f.isTitle = false → f ≠ .library → s.fieldValue f = r.fieldValue f := by
  constructor
  · intro h f htitle hlibrary
    cases f with
    | name | comment => cases htitle
    | library => exact absurd rfl hlibrary
    | id => exact congrArg Value.text h.id
    | icon => exact congrArg Value.text h.icon
    | author => exact congrArg Value.text h.author
    | email => exact congrArg Value.text h.email
    | category => exact congrArg Value.text h.category
    | license => exact congrArg Value.text h.license
    | version => exact congrArg Value.text h.version
    | website => exact congrArg Value.text h.website
    | depends => exact congrArg Value.list h.dependencies
    | serviceTypes => exact congrArg Value.list h.serviceTypes
    | hidden => exact congrArg Value.bool h.isHidden
    | enabledByDefault => exact congrArg Value.bool h.isEnabledByDefault
  · intro h
    exact {
      id := Value.text.inj (h .id rfl (by decide))
      serviceTypes := Value.list.inj (h .serviceTypes rfl (by decide))
      icon := Value.text.inj (h .icon rfl (by decide))
      author := Value.text.inj (h .author rfl (by decide))
      email := Value.text.inj (h .email rfl (by decide))
      category := Value.text.inj (h .category rfl (by decide))
      dependencies := Value.list.inj (h .depends rfl (by decide))
      license := Value.text.inj (h .license rfl (by decide))
      version := Value.text.inj (h .version rfl (by decide))
      website := Value.text.inj (h .website rfl (by decide))
      isHidden := Value.bool.inj (h .hidden rfl (by decide))
      isEnabledByDefault := Value.bool.inj (h .enabledByDefault rfl (by decide)) }

/-- An accessor reads the same of two records if its field has the same value in both. -/
theorem fieldValue_congr {r s : Record} {f : Field}
    (h : s.fields.lookup f.key = r.fields.lookup f.key) : s.fieldValue f = r.fieldValue f := by
  unfold fieldValue fieldText fieldFlag fieldList
  rw [h]

/-- Records agree in their fields if the texts in them and the values of the others are the same. -/
theorem SameFields.of_values {r s : Record}
    (htext : ∀ f : Field, f.kind = .text → f ≠ .library → s.fieldText f = r.fieldText f)
    (hvalue : ∀ f : Field, f.kind = .list ∨ f.kind = .flag →
      s.fields.lookup f.key = r.fields.lookup f.key) : r.SameFields s := by
  refine sameFields_iff.2 fun f htitle hlibrary => ?_
  cases hk : f.kind with
  | title =>
    rw [Field.isTitle, hk] at htitle
    cases htitle
  | text =>
    unfold fieldValue
    rw [hk, htext f hk hlibrary]
  | flag => exact fieldValue_congr (hvalue f (.inr hk))
  | list => exact fieldValue_congr (hvalue f (.inl hk))

end Record

end PluginCatalog
