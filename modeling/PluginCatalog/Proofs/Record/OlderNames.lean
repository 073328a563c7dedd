import PluginCatalog.Proofs.Record.FlatForm

/-!
# Documents with older names

An older document declares what flat metadata does in which its properties have their canonical names
(`Declaration.ofProperties_canonicalProperties`): no name changes its meaning, no two names become one,
and the translations of a title stay in order. So both give the same outcome, and their records differ
only in when the titles are translated (`Record.normalize_legacy_related`).
-/

namespace PluginCatalog

open Metadata (Declaration Field Slot Source Vocabulary withLocale displayText? splitLocale_eq_some_iff)

/-- Entries that give nothing can be left out before the others are taken. -/
theorem List.filterMap_filter_isSome {α β : Type} (g : α → Option β) (l : List α) :
    (l.filter fun a => (g a).isSome).filterMap g = l.filterMap g := by
  rw [List.filterMap_filter]
  refine List.filterMap_congr fun a _ => ?_
  cases hg : g a <;> rfl

namespace Metadata

/-! ## Canonical names -/

/-- The canonical name of a property of an older document: that of the field or the translation that it
stands for. A name that stands for nothing is kept. -/
def canonicalName (name : String) : String :=
  match Vocabulary.legacy.slot name with
  | .field f => f.key
  | .translation f tag => withLocale f.key tag
  | .custom => name

/-- Properties of an older document under their canonical names. -/
def canonicalProperties (p : Properties) : Properties :=
  .ofList (p.toList.map fun e => (canonicalName e.1, e.2))

/-- The canonical keys that older documents do not know. -/
def Field.HasNewKey (f : Field) : Prop := "X-Plugin-".toList <+: f.key.toList

/-- The other keys stand for their fields in older documents too. -/
theorem Field.slot_of_not_hasNewKey {f : Field} (h : ¬f.HasNewKey) :
    Vocabulary.legacy.slot f.key = .field f := by
  have hprefix : ¬"X-Plugin-".toList <+: f.key.toList := h
  cases f <;> first | decide | exact absurd (by decide) hprefix

/-- Titles have the same names in older documents. -/
theorem Field.legacy_name? {f : Field} (h : f.isTitle = true) :
    Vocabulary.legacy.name? f = some f.key := by
  cases f with
  | name | comment => rfl
  | _ => cases h

/-- The name of a translation is its canonical one. -/
theorem canonicalName_of_translation {name tag : String} {f : Field}
    (h : Vocabulary.legacy.slot name = .translation f tag) : canonicalName name = name := by
  obtain ⟨htitle, base, hbase, hsplit⟩ :=
    (Vocabulary.slot_eq_translation_iff Vocabulary.reads_legacy).1 h
  obtain rfl : f.key = base := Option.some.inj ((Field.legacy_name? htitle).symm.trans hbase)
  rw [canonicalName, h]
  exact (splitLocale_eq_some_iff.1 hsplit).1.symm

/-- A name that stands for nothing is its canonical one. -/
theorem canonicalName_of_custom {name : String} (h : Vocabulary.legacy.slot name = .custom) :
    canonicalName name = name := by
  rw [canonicalName, h]

section

variable {name : String} (hname : ∀ f : Field, f.HasNewKey → name ≠ f.key)

include hname

/-- The canonical name of a property stands for what its name does. -/
theorem slot_canonicalName :
    Vocabulary.canonical.slot (canonicalName name) = Vocabulary.legacy.slot name := by
  have hreads := Vocabulary.reads_canonical
  cases hslot : Vocabulary.legacy.slot name with
  | field f => rw [canonicalName, hslot, Vocabulary.slot_key]
  | translation f tag =>
    obtain ⟨htitle, base, hbase, hsplit⟩ :=
      (Vocabulary.slot_eq_translation_iff Vocabulary.reads_legacy).1 hslot
    rw [Field.legacy_name? htitle] at hbase
    rw [canonicalName_of_translation hslot]
    exact (Vocabulary.slot_eq_translation_iff hreads).2 ⟨htitle, base, hbase, hsplit⟩
  | custom =>
    rw [canonicalName_of_custom hslot]
    -- A canonical name that means something does so in older documents, unless it is a new one.
    cases hcanonical : Vocabulary.canonical.slot name with
    | custom => rfl
    | field f =>
      obtain rfl : f.key = name := Option.some.inj ((Vocabulary.slot_eq_field_iff hreads).1 hcanonical)
      have hold : ¬f.HasNewKey := fun hnew => hname f hnew rfl
      rw [Field.slot_of_not_hasNewKey hold] at hslot
      cases hslot
    | translation f tag =>
      obtain ⟨htitle, base, hbase, hsplit⟩ := (Vocabulary.slot_eq_translation_iff hreads).1 hcanonical
      have hlegacy : Vocabulary.legacy.slot name = .translation f tag :=
        (Vocabulary.slot_eq_translation_iff Vocabulary.reads_legacy).2
          ⟨htitle, base, (Field.legacy_name? htitle).trans hbase, hsplit⟩
      rw [hslot] at hlegacy
      cases hlegacy

/-- Names with the same canonical name are the same. -/
theorem canonicalName_injective {name' : String} (hname' : ∀ f : Field, f.HasNewKey → name' ≠ f.key)
    (h : canonicalName name = canonicalName name') : name = name' := by
  have hslots : Vocabulary.legacy.slot name = Vocabulary.legacy.slot name' := by
    rw [← slot_canonicalName hname, h, slot_canonicalName hname']
  cases hslot : Vocabulary.legacy.slot name with
  | field f =>
    have hfield := (Vocabulary.slot_eq_field_iff Vocabulary.reads_legacy).1 hslot
    have hfield' := (Vocabulary.slot_eq_field_iff Vocabulary.reads_legacy).1 (hslots.symm.trans hslot)
    exact Option.some.inj (hfield.symm.trans hfield')
  | translation f tag =>
    rw [← canonicalName_of_translation hslot, h,
      canonicalName_of_translation (hslots.symm.trans hslot)]
  | custom =>
    rw [← canonicalName_of_custom hslot, h, canonicalName_of_custom (hslots.symm.trans hslot)]

end

/-! ## Declarations -/

variable {p : Properties} (hp : ∀ f : Field, f.HasNewKey → p.get? f.key = none)

include hp

/-- A property without a new key has another name. -/
theorem ne_key_of_hasNewKey {name : String} {v : Value} (hv : p.get? name = some v) (f : Field)
    (hf : f.HasNewKey) : name ≠ f.key := by
  rintro rfl
  rw [hp f hf] at hv
  cases hv

/-- A property is found under its canonical name, and nothing else is. -/
theorem get?_canonicalProperties {key : String} {v : Value} :
    (canonicalProperties p).get? key = some v
      ↔ ∃ name, p.get? name = some v ∧ canonicalName name = key := by
  have hmem {k : String} {w : Value} :
      (k, w) ∈ p.toList.map (fun e => (canonicalName e.1, e.2))
        ↔ ∃ name, p.get? name = some w ∧ canonicalName name = k := by
    simp [Dict.get?_eq_some_iff]
  rw [canonicalProperties, Dict.get?_ofList_of_unique, hmem]
  intro k w w' h h'
  obtain ⟨name, hw, hname⟩ := hmem.1 h
  obtain ⟨name', hw', hname'⟩ := hmem.1 h'
  have hsame : name = name' := canonicalName_injective (ne_key_of_hasNewKey hp hw)
    (ne_key_of_hasNewKey hp hw') (hname.trans hname'.symm)
  subst hsame
  exact Option.some.inj (hw.symm.trans hw')

namespace Declaration

/-- Each field has the same value under its canonical key. -/
theorem fieldValue?_canonicalProperties (f : Field) :
    fieldValue? .canonical (canonicalProperties p) f = fieldValue? .legacy p f := by
  refine Option.ext fun v => ?_
  show (canonicalProperties p).get? f.key = some v ↔ _
  rw [get?_canonicalProperties hp, fieldValue?, Option.bind_eq_some_iff]
  constructor
  · rintro ⟨name, hv, hname⟩
    have hslot := slot_canonicalName (ne_key_of_hasNewKey hp hv)
    rw [hname, Vocabulary.slot_key] at hslot
    exact ⟨name, (Vocabulary.slot_eq_field_iff Vocabulary.reads_legacy).1 hslot.symm, hv⟩
  · rintro ⟨name, hname, hv⟩
    refine ⟨name, hv, ?_⟩
    rw [canonicalName, Vocabulary.reads_legacy f name hname]

/-- The properties without a meaning are the same. -/
theorem custom_canonicalProperties :
    (ofProperties .canonical (canonicalProperties p)).custom = (ofProperties .legacy p).custom := by
  refine Dict.ext_get? fun key => Option.ext fun v => ?_
  simp only [get?_custom, Option.ite_none_right_eq_some, get?_canonicalProperties hp]
  constructor
  · rintro ⟨hkey, name, hv, rfl⟩
    rw [slot_canonicalName (ne_key_of_hasNewKey hp hv)] at hkey
    rw [canonicalName_of_custom hkey]
    exact ⟨hkey, hv⟩
  · rintro ⟨hkey, hv⟩
    have hslot := slot_canonicalName (ne_key_of_hasNewKey hp hv)
    rw [canonicalName_of_custom hkey, hkey] at hslot
    exact ⟨hslot, key, hv, canonicalName_of_custom hkey⟩

/-- A property adds the same to the translations of a title under its canonical name. -/
theorem translation?_canonicalName {name : String} {v : Value} (hv : p.get? name = some v) (f : Field) :
    translation? .canonical f (canonicalName name, v) = translation? .legacy f (name, v) := by
  unfold translation?
  dsimp only
  rw [slot_canonicalName (ne_key_of_hasNewKey hp hv)]

omit hp in
/-- A property that adds a translation has its canonical name. -/
theorem canonicalName_of_translation? {name : String} {v : Value} {f : Field}
    (h : (translation? .legacy f (name, v)).isSome = true) : canonicalName name = name := by
  obtain ⟨⟨tag, text⟩, he⟩ := Option.isSome_iff_exists.1 h
  obtain ⟨-, given, hslot, -⟩ := translation?_eq_some_iff.1 he
  exact canonicalName_of_translation hslot

/-- The properties that add translations are the same. -/
theorem filter_canonicalProperties (f : Field) :
    (canonicalProperties p).filter (fun name v => (translation? .canonical f (name, v)).isSome)
      = p.filter (fun name v => (translation? .legacy f (name, v)).isSome) := by
  refine Dict.ext_get? fun key => Option.ext fun v => ?_
  rw [Dict.get?_filter, Dict.get?_filter, Option.filter_eq_some_iff, Option.filter_eq_some_iff,
    get?_canonicalProperties hp]
  constructor
  · rintro ⟨⟨name, hv, rfl⟩, hadds⟩
    rw [translation?_canonicalName hp hv] at hadds
    rw [canonicalName_of_translation? hadds]
    exact ⟨hv, hadds⟩
  · rintro ⟨hv, hadds⟩
    have hkey := canonicalName_of_translation? hadds
    have hsame := translation?_canonicalName hp hv f
    rw [hkey] at hsame
    exact ⟨⟨key, hv, hkey⟩, by rw [hsame]; exact hadds⟩

/-- The texts of a title are the same. -/
theorem titleOf_canonicalProperties (f : Field) :
    titleOf .canonical (canonicalProperties p) f = titleOf .legacy p f := by
  -- Properties change their places with their names, but not those that add translations: their names
  -- are canonical already. So among the translations with one tag the last one stays the last.
  have htranslations : (canonicalProperties p).toList.filterMap (translation? .canonical f)
      = p.toList.filterMap (translation? .legacy f) := by
    have hentries := congrArg Dict.toList (filter_canonicalProperties hp f)
    dsimp only [Dict.filter] at hentries
    rw [← List.filterMap_filter_isSome, hentries,
      ← List.filterMap_filter_isSome (translation? .legacy f)]
    refine List.filterMap_congr fun e he => ?_
    obtain ⟨hmem, hadds⟩ := List.mem_filter.1 he
    have hsame := translation?_canonicalName hp (Dict.get?_eq_some_iff.2 hmem) f
    rwa [canonicalName_of_translation? hadds] at hsame
  rw [titleOf_eq, titleOf_eq, htranslations, fieldValue?_canonicalProperties hp]

/-- Under their canonical names properties of an older document declare the same. -/
theorem ofProperties_canonicalProperties :
    ofProperties .canonical (canonicalProperties p) = ofProperties .legacy p := by
  have hfields : fieldsOf .canonical (canonicalProperties p) = fieldsOf .legacy p := by
    unfold fieldsOf
    simp only [fieldValue?_canonicalProperties hp]
  have hcustom := custom_canonicalProperties hp
  unfold ofProperties at hcustom ⊢
  rw [titleOf_canonicalProperties hp, titleOf_canonicalProperties hp, hfields]
  exact congrArg _ hcustom

end Declaration

end Metadata

/-! ## Records -/

namespace Record

/-- Two results are the same error, or both no record, or records with a relation between them. -/
inductive Related (R : Record → Record → Prop) :
    Except MetadataError (Option Record) → Except MetadataError (Option Record) → Prop where
  | error (e : MetadataError) : Related R (.error e) (.error e)
  | none : Related R (.ok none) (.ok none)
  | record {r s : Record} : R r s → Related R (.ok (some r)) (.ok (some s))

/-- In a locale nothing but the policy of its titles tells the second record from the first one. -/
structure AgreeIn (locale : String) (r s : Record) : Prop where
  fields : r.SameFields s
  libraryPath : s.libraryPath = r.libraryPath
  entryPath : s.entryPath = r.entryPath
  customProperties : s.customProperties = r.customProperties
  name : s.name locale = r.name locale
  comment : s.comment locale = r.comment locale
  lookup : ∀ key, s.lookup locale key = r.lookup locale key

/-- The titles of a record are those of its declaration, in the locale in which it was read. -/
theorem titles_record (d : Declaration) (id libraryPath entryPath locale : String)
    (policy : TranslationPolicy) :
    (d.record id libraryPath entryPath (d.titles locale policy)).name locale = d.name.resolve locale ∧
      (d.record id libraryPath entryPath (d.titles locale policy)).comment locale
        = d.comment.resolve locale := by
  cases policy <;> exact ⟨rfl, rfl⟩

section

variable {locale libraryPath entryPath : String} {source source' : Source} {r s : Record}
  (hr : normalize locale source libraryPath entryPath = .ok (some r))
  (hs : normalize locale source' libraryPath entryPath = .ok (some s))
  (hd : Declaration.ofSource source' = Declaration.ofSource source)

include hr hs hd

/-- Records of the same declaration are so under the same identifier. -/
theorem exists_records_of_ofSource_eq : ∃ id path,
    r = (Declaration.ofSource source).record id path entryPath
      ((Declaration.ofSource source).titles locale source.policy) ∧
    s = (Declaration.ofSource source).record id path entryPath
      ((Declaration.ofSource source).titles locale source'.policy) := by
  obtain ⟨-, -, id, hid, hr'⟩ := normalize_eq_ok_some_iff.1 hr
  obtain ⟨-, -, id', hid', hs'⟩ := normalize_eq_ok_some_iff.1 hs
  rw [hd, hid, Option.some.injEq] at hid'
  rw [hd, ← hid'] at hs'
  exact ⟨id, _, hr', hs'⟩

/-- Their fields are the same, but for the titles. -/
theorem get?_fields_of_ofSource_eq {key : String}
    (hkey : ∀ f : Field, f.isTitle = true → key ≠ f.key) :
    s.fields.entries.get? key = r.fields.entries.get? key := by
  by_cases hfield : ∃ f : Field, key = f.key
  · obtain ⟨f, rfl⟩ := hfield
    have hf : f.isTitle = false := Bool.eq_false_iff.2 fun hf => hkey f hf rfl
    obtain ⟨id, path, rfl, rfl⟩ := exists_records_of_ofSource_eq hr hs hd
    have hdeclared := Declaration.areFields_ofSource source
    rw [Declaration.get?_fields_record _ _ _ _ _ hdeclared hf,
      Declaration.get?_fields_record _ _ _ _ _ hdeclared hf]
  · have hnone (f : Field) : key ≠ f.key := fun h => hfield ⟨f, h⟩
    rw [(valid_of_normalize hr).areFields.get?_eq_none hnone,
      (valid_of_normalize hs).areFields.get?_eq_none hnone]

/-- Their titles are the same in the locale in which they were read. -/
theorem titles_of_ofSource_eq : s.name locale = r.name locale ∧ s.comment locale = r.comment locale := by
  obtain ⟨id, path, rfl, rfl⟩ := exists_records_of_ofSource_eq hr hs hd
  obtain ⟨hname, hcomment⟩ := titles_record (Declaration.ofSource source) id path entryPath locale
    source.policy
  obtain ⟨hname', hcomment'⟩ := titles_record (Declaration.ofSource source) id path entryPath locale
    source'.policy
  exact ⟨hname'.trans hname.symm, hcomment'.trans hcomment.symm⟩

variable (hhides : ∀ f : Field, (Declaration.ofSource source).custom.get? f.key = none)

include hhides

/-- If no custom property hides a field, they agree in the locale in which they were read. -/
theorem agreeIn_of_ofSource_eq : r.AgreeIn locale s := by
  have hhides' (f : Field) : (Declaration.ofSource source').custom.get? f.key = none := by
    rw [hd, hhides]
  have hcustom : s.customProperties = r.customProperties := by
    rw [customProperties_of_normalize hr hhides, customProperties_of_normalize hs hhides', hd]
  have hfields {key : String} (hkey : ∀ f : Field, f.isTitle = true → key ≠ f.key) :=
    get?_fields_of_ofSource_eq hr hs hd hkey
  obtain ⟨hname, hcomment⟩ := titles_of_ofSource_eq hr hs hd
  refine ⟨sameFields_iff.2 fun f hf _ => fieldValue_congr ?_, ?_, ?_, hcustom, hname, hcomment,
    fun key => ?_⟩
  · -- Titles are fields only in the record of an eager source, so this is about the others.
    have hkey (g : Field) (hg : g.isTitle = true) : f.key ≠ g.key := fun h => by
      rw [Field.key_injective h, hg] at hf
      cases hf
    rw [Bag.lookup, Properties.lookup, hfields hkey]
    rfl
  · obtain ⟨id, path, rfl, rfl⟩ := exists_records_of_ofSource_eq hr hs hd
    rfl
  · obtain ⟨id, path, rfl, rfl⟩ := exists_records_of_ofSource_eq hr hs hd
    rfl
  · -- A title may be a field of one record only, but both find it as its text.
    by_cases hkey : ∃ f : Field, f.isTitle = true ∧ key = f.key
    · obtain ⟨f, hf, rfl⟩ := hkey
      rw [(coherent_of_normalize hr).lookup_title hf (lookup_properties_key hr hhides f),
        (coherent_of_normalize hs).lookup_title hf (lookup_properties_key hs hhides' f), standIn, standIn,
        hname, hcomment]
    · have hother (f : Field) (hf : f.isTitle = true) : key ≠ f.key := fun h => hkey ⟨f, hf, h⟩
      rw [lookup_of_ne_title locale hother, lookup_of_ne_title locale hother, Bag.lookup, Bag.lookup,
        Properties.lookup, Properties.lookup, properties_of_normalize hr hhides,
        properties_of_normalize hs hhides', Dict.get?_overlay, Dict.get?_overlay, hcustom, hfields hother]

end

/-- Sources of the same declaration give the same outcome, if they say anything. -/
theorem related_of_ofSource_eq {source source' : Source}
    (hd : Declaration.ofSource source' = Declaration.ofSource source)
    (hhides : ∀ f : Field, (Declaration.ofSource source).custom.get? f.key = none)
    (hnonempty : source.isEmpty = false) (hnonempty' : source'.isEmpty = false)
    (locale libraryPath entryPath : String) :
    Related (fun r s => r.AgreeIn locale s ∧ r.policy = source.policy ∧ s.policy = source'.policy)
      (normalize locale source libraryPath entryPath)
      (normalize locale source' libraryPath entryPath) := by
  -- The outcome rests on what is declared: first whether there is an identifier, then whether it is
  -- worth a record. A source that says nothing is the one thing that a declaration does not show.
  cases hidentity : (Declaration.ofSource source).declaredId?.or
      (Path.fileStem? (effectivePath (Declaration.ofSource source) libraryPath)) with
  | none =>
    have herror {source₀ : Source} (hd₀ : Declaration.ofSource source₀ = Declaration.ofSource source)
        (h₀ : source₀.isEmpty = false) :
        normalize locale source₀ libraryPath entryPath = .error .noIdentity := by
      simp [normalize, h₀, hd₀, hidentity]
    rw [herror rfl hnonempty, herror hd hnonempty']
    exact .error _
  | some id =>
    cases huseful : (Declaration.ofSource source).isUseful with
    | false =>
      have hnone {source₀ : Source} (hd₀ : Declaration.ofSource source₀ = Declaration.ofSource source)
          (h₀ : source₀.isEmpty = false) :
          normalize locale source₀ libraryPath entryPath = .ok none := by
        simp [normalize, h₀, hd₀, hidentity, huseful]
      rw [hnone rfl hnonempty, hnone hd hnonempty']
      exact .none
    | true =>
      have hrecord {source₀ : Source} (hd₀ : Declaration.ofSource source₀ = Declaration.ofSource source)
          (h₀ : source₀.isEmpty = false) :
          ∃ r, normalize locale source₀ libraryPath entryPath = .ok (some r) := by
        refine ⟨_, normalize_eq_ok_some_iff.2 ⟨h₀, ?_, id, ?_, rfl⟩⟩
        · rw [hd₀, huseful]
        · rw [hd₀, hidentity]
      obtain ⟨r, hr⟩ := hrecord rfl hnonempty
      obtain ⟨s, hs⟩ := hrecord hd hnonempty'
      rw [hr, hs]
      exact .record ⟨agreeIn_of_ofSource_eq hr hs hd hhides, policy_of_normalize hr,
        policy_of_normalize hs⟩

/-- An older document that says something, without a new name, has the outcome of the flat metadata with
the same properties under their canonical names: the same error, no record, or records that agree in the
locale in which they were read. The titles are translated at each reading only in the first one. -/
theorem normalize_legacy_related (root : Dict Json)
    (hmember : ∃ key j, root.get? key = some j ∧ j ≠ .null)
    (hkeys : ∀ f : Field, f.HasNewKey → root.contains f.key = false)
    (locale libraryPath entryPath : String) :
    Related (fun r s => r.AgreeIn locale s ∧ r.policy = .lazy ∧ s.policy = .eager)
      (normalize locale (.legacy root) libraryPath entryPath)
      (normalize locale (.flat (Metadata.canonicalProperties (Declaration.convert root))) libraryPath
        entryPath) := by
  have hnew (f : Field) (hf : f.HasNewKey) : (Declaration.convert root).get? f.key = none := by
    rw [Declaration.convert, Dict.get?_filterMap, Dict.contains_eq_false_iff.1 (hkeys f hf),
      Option.bind_none]
  have hd : Declaration.ofSource (.flat (Metadata.canonicalProperties (Declaration.convert root)))
      = Declaration.ofSource (.legacy root) :=
    Declaration.ofProperties_canonicalProperties hnew
  obtain ⟨key, j, hj, hnull⟩ := hmember
  obtain ⟨v, hv⟩ : ∃ v, Value.ofJson? j = some v := by
    cases j with
    | null => exact absurd rfl hnull
    | _ => exact ⟨_, rfl⟩
  have hconverted : (Declaration.convert root).get? key = some v := by
    rw [Declaration.convert, Dict.get?_filterMap, hj, Option.bind_some, hv]
  have hflat : (Metadata.canonicalProperties (Declaration.convert root)).get?
      (Metadata.canonicalName key) = some v :=
    (Metadata.get?_canonicalProperties hnew).2 ⟨key, hconverted, rfl⟩
  refine related_of_ofSource_eq hd (fun f => ?_) (Dict.isEmpty_eq_false hj)
    (Dict.isEmpty_eq_false hflat) locale libraryPath entryPath
  rw [← hd]
  exact Declaration.get?_custom_key _ f

/-- A document with older names, a translated name and a name that only looks like a translation. -/
def olderRoot : Dict Json :=
  .ofList [("X-PluginInfo-Name", .string "spy"), ("ServiceTypes", .string "Plugin/Log; Plugin/Trace"),
    ("Name", .string "Spy"), ("Name[de]", .string "Spion"), ("X-Library[de]", .bool true),
    ("Gone", .null)]

/-- The properties of the document under their canonical names. -/
def newerProperties : Properties :=
  .ofList [("X-Plugin-Id", .text "spy"), ("X-Plugin-ServiceTypes", .text "Plugin/Log; Plugin/Trace"),
    ("Name", .text "Spy"), ("Name[de]", .text "Spion"), ("X-Library[de]", .bool true)]

/-- The document gives the same plugin in German as its properties under their canonical names. -/
theorem normalize_legacy_related_german :
    ∃ r s, normalize "de" (.legacy olderRoot) "" "" = .ok (some r) ∧
      normalize "de" (.flat newerProperties) "" "" = .ok (some s) ∧ r.AgreeIn "de" s ∧
      r.policy = .lazy ∧ s.policy = .eager ∧ s.serviceTypes = ["Plugin/Log", "Plugin/Trace"] := by
  have hkeys (f : Field) (hf : f.HasNewKey) : olderRoot.contains f.key = false := by
    have hprefix : "X-Plugin-".toList <+: f.key.toList := hf
    cases f <;> first | decide | exact absurd hprefix (by decide)
  have hcanonical : Metadata.canonicalProperties (Declaration.convert olderRoot) = newerProperties := by
    decide
  have hr : normalize "de" (.legacy olderRoot) "" "" = .ok (some _) := rfl
  have hs : normalize "de" (.flat newerProperties) "" "" = .ok (some _) := rfl
  have h := normalize_legacy_related olderRoot ⟨"Name", .string "Spy", rfl, nofun⟩ hkeys "de" "" ""
  rw [hcanonical, hr, hs] at h
  cases h with
  | record hagree =>
    obtain ⟨hagree, hlazy, heager⟩ := hagree
    exact ⟨_, _, hr, hs, hagree, hlazy, heager, rfl⟩

end Record

end PluginCatalog
