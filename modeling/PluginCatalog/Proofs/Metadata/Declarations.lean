import PluginCatalog.Proofs.Locale.Tables
import PluginCatalog.Proofs.Metadata.Names

/-!
# What sources declare

Whatever a source holds, the fields of its declaration are values of the kinds that the fields require
(`Declaration.areFields_ofSource`), and the tables of its titles have normalized tags
(`Declaration.normal_titleOf`). A title is declared as it was if its texts stand under its names
(`Declaration.titleOf_eq_of_texts`): with normalized tags each translation has one name only, so the
order of the properties does not matter.
-/

namespace PluginCatalog

namespace Metadata

/-! ## Values of fields -/

/-- A value that was brought to the kind of a field is of that kind. -/
theorem Field.coerce?_of_coerce? {f : Field} {v w : Value} (h : f.coerce? v = some w) :
    f.coerce? w = some w := by
  unfold coerce? at h ⊢
  cases hk : f.kind <;> rw [hk] at h <;> obtain ⟨x, -, rfl⟩ := Option.map_eq_some_iff.1 h <;> rfl

/-- A value of the kind of a field is no number, and it is there. -/
theorem Field.kind_of_coerce?_self {f : Field} {v : Value} (h : f.coerce? v = some v) :
    v ≠ .absent ∧ ∀ x, v ≠ .number x := by
  unfold coerce? at h
  cases hk : f.kind <;> rw [hk] at h <;> obtain ⟨x, -, rfl⟩ := Option.map_eq_some_iff.1 h <;> simp

end Metadata

open Metadata (Field Vocabulary withLocale splitLocale displayText?)

/-- All properties are values of fields that satisfy a condition, each of the kind of its field. -/
def Properties.AreFields (P : Field → Prop) (p : Properties) : Prop :=
  ∀ key v, p.get? key = some v → ∃ f, key = Field.key f ∧ P f ∧ f.coerce? v = some v

namespace Properties.AreFields

variable {P Q : Field → Prop} {p : Properties}

/-- The condition can be weakened. -/
theorem mono (h : p.AreFields P) (hPQ : ∀ f, P f → Q f) : p.AreFields Q := by
  intro key v hv
  obtain ⟨f, hkey, hf, hcoerce⟩ := h key v hv
  exact ⟨f, hkey, hPQ f hf, hcoerce⟩

/-- What is found under the key of a field is a value of the field. -/
theorem of_key (h : p.AreFields P) {f : Field} {v : Value} (hv : p.get? f.key = some v) :
    P f ∧ f.coerce? v = some v := by
  obtain ⟨g, hkey, hg, hcoerce⟩ := h f.key v hv
  cases Field.key_injective hkey
  exact ⟨hg, hcoerce⟩

/-- Under the key of no field there is nothing. -/
theorem get?_eq_none (h : p.AreFields P) {key : String} (hkey : ∀ f : Field, key ≠ f.key) :
    p.get? key = none := by
  refine Option.eq_none_iff_forall_ne_some.2 fun v hv => ?_
  obtain ⟨f, hf, -⟩ := h key v hv
  exact hkey f hf

/-- A value of a field can be added. -/
theorem insert (h : p.AreFields P) {f : Field} (hf : P f) {v : Value} (hv : f.coerce? v = some v) :
    Properties.AreFields P (p.insert f.key v) := by
  intro key w hw
  rw [Dict.get?_insert] at hw
  split at hw
  · rename_i hkey
    cases hw
    exact ⟨f, hkey, hf, hv⟩
  · exact h key w hw

end Properties.AreFields

namespace Metadata.Declaration

variable (v : Vocabulary) (p : Properties) (f : Field)

/-- The fields among some properties are fields that the vocabulary names, and no titles. -/
theorem areFields_fieldsOf :
    (fieldsOf v p).AreFields fun f => f.isTitle = false ∧ (v.name? f).isSome = true := by
  intro key value h
  rw [fieldsOf, Dict.get?_ofList] at h
  have hmem := List.mem_reverse.1 (Dict.mem_of_lookup h)
  obtain ⟨f, -, hf⟩ := List.mem_filterMap.1 hmem
  split at hf
  · cases hf
  · rename_i htitle
    obtain ⟨w, hw, he⟩ := Option.map_eq_some_iff.1 hf
    cases he
    obtain ⟨given, hgiven, hcoerce⟩ := Option.bind_eq_some_iff.1 hw
    obtain ⟨name, hname, -⟩ := Option.bind_eq_some_iff.1 hgiven
    refine ⟨f, rfl, ⟨Bool.not_eq_true _ ▸ htitle, ?_⟩, Field.coerce?_of_coerce? hcoerce⟩
    rw [hname]
    rfl

/-! ## Titles -/

/-- The normalized tag and the text that a property adds to the translations of a title. -/
def translation? (entry : String × Value) : Option (String × String) :=
  match v.slot entry.1, displayText? entry.2 with
  | .translation g tag, some text =>
    if g = f then (Tag.normalize? tag).map (·, text) else none
  | _, _ => none

variable {v p f}

/-- What a property adds to the translations of a title. -/
theorem translation?_eq_some_iff {name : String} {value : Value} {t text : String} :
    translation? v f (name, value) = some (t, text)
      ↔ displayText? value = some text
        ∧ ∃ tag, v.slot name = .translation f tag ∧ Tag.normalize? tag = some t := by
  unfold translation?
  dsimp only
  constructor
  · intro h
    split at h
    · rename_i g tag text' hslot htext
      split at h
      · rename_i hg
        subst hg
        obtain ⟨t', ht', he⟩ := Option.map_eq_some_iff.1 h
        cases he
        exact ⟨htext, tag, hslot, ht'⟩
      · cases h
    · cases h
  · rintro ⟨htext, tag, hslot, ht⟩
    rw [htext, hslot]
    simp [ht]

variable (v p f)

/-- Adding a property to the translations of a title is an insertion, or nothing. -/
theorem addTranslation_eq (t : TranslationTable) (entry : String × Value) :
    addTranslation v f t entry
      = match translation? v f entry with
        | some e => { t with translations := t.translations.insert e.1 e.2 }
        | none => t := by
  unfold translation? addTranslation
  cases v.slot entry.1 with
  | field g => rfl
  | custom => rfl
  | translation g tag =>
    cases displayText? entry.2 with
    | none => rfl
    | some text =>
      dsimp only
      by_cases hg : g = f
      · rw [if_pos hg, if_pos hg, TranslationTable.withTranslation]
        cases Tag.normalize? tag <;> rfl
      · rw [if_neg hg, if_neg hg]

/-- Adding properties to the translations of a title inserts what each of them adds. -/
theorem foldl_addTranslation (entries : List (String × Value)) (t : TranslationTable) :
    entries.foldl (addTranslation v f) t
      = ⟨t.default, (entries.filterMap (translation? v f)).foldl
          (fun d e => d.insert e.1 e.2) t.translations⟩ := by
  induction entries generalizing t with
  | nil => rfl
  | cons entry entries ih =>
    rw [List.foldl_cons, ih, List.filterMap_cons, addTranslation_eq]
    cases translation? v f entry <;> rfl

/-- The texts of a title: the untranslated one, and the translations in the order of the properties. -/
theorem titleOf_eq :
    titleOf v p f = ⟨((fieldValue? v p f).bind displayText?).getD "",
      .ofList (p.toList.filterMap (translation? v f))⟩ :=
  foldl_addTranslation v f p.toList _

variable {v p f}

/-- The translations of a title have normalized tags. -/
theorem normal_titleOf (hv : v.Reads) : (titleOf v p f).Normal := by
  have hentry {t text : String} (h : (titleOf v p f).translations.get? t = some text) :
      ∃ tag, '[' ∉ tag.toList ∧ Tag.normalize? tag = some t := by
    rw [titleOf_eq, Dict.get?_ofList] at h
    obtain ⟨⟨name, value⟩, -, hadd⟩ :=
      List.mem_filterMap.1 (List.mem_reverse.1 (Dict.mem_of_lookup h))
    obtain ⟨-, tag, hslot, ht⟩ := translation?_eq_some_iff.1 hadd
    obtain ⟨-, base, -, hsplit⟩ := (Vocabulary.slot_eq_translation_iff hv).1 hslot
    exact ⟨tag, (splitLocale_eq_some_iff.1 hsplit).2.2.2, ht⟩
  constructor
  · intro t text h
    obtain ⟨tag, -, ht⟩ := hentry h
    exact Tag.normalize?_of_normalize? ht
  · intro t text h
    obtain ⟨tag, htag, ht⟩ := hentry h
    exact Tag.bracket_notMem_normalize? ht htag

/-- A title is declared as it was if its texts stand under its names. -/
theorem titleOf_eq_of_texts (hv : v.Reads) (htitle : f.isTitle = true) {base : String}
    (hbase : v.name? f = some base) (hne : base ≠ "") {t : TranslationTable} (ht : t.Normal)
    (hdefault : ((p.get? base).bind displayText?).getD "" = t.default)
    (htexts : ∀ tag, tag ≠ "" → '[' ∉ tag.toList →
      (p.get? (withLocale base tag)).bind displayText? = t.translations.get? tag) :
    titleOf v p f = t := by
  -- What a property adds to the translations is an entry of the table, whatever the property.
  have hadd {name : String} {value : Value} {tag text : String} (hm : p.get? name = some value)
      (h : translation? v f (name, value) = some (tag, text)) :
      t.translations.get? tag = some text := by
    obtain ⟨htext, tag', hslot, hnormal⟩ := translation?_eq_some_iff.1 h
    obtain ⟨-, base', hbase', hsplit⟩ := (Vocabulary.slot_eq_translation_iff hv).1 hslot
    rw [hbase, Option.some.injEq] at hbase'
    subst hbase'
    obtain ⟨rfl, -, htag', hbracket⟩ := splitLocale_eq_some_iff.1 hsplit
    have ht' := htexts tag' htag' hbracket
    rw [hm, Option.bind_some, htext] at ht'
    have hself := ht.normalized tag' text ht'.symm
    rw [hnormal, Option.some.injEq] at hself
    rw [hself, ← ht']
  have hmem {tag text : String} :
      (tag, text) ∈ p.toList.filterMap (translation? v f)
        ↔ t.translations.get? tag = some text := by
    rw [List.mem_filterMap]
    constructor
    · rintro ⟨⟨name, value⟩, hm, h⟩
      exact hadd (Dict.get?_eq_some_iff.2 hm) h
    · intro h
      have htag := ht.ne_empty h
      have hbracket := ht.noBracket tag text h
      obtain ⟨value, hget, htext⟩ := Option.bind_eq_some_iff.1 ((htexts tag htag hbracket).trans h)
      refine ⟨(withLocale base tag, value), Dict.get?_eq_some_iff.1 hget, ?_⟩
      have hslot := Vocabulary.slot_withLocale hv htitle hbase hne htag hbracket
      exact translation?_eq_some_iff.2 ⟨htext, tag, hslot, ht.normalized tag text h⟩
  have htranslations : Dict.ofList (p.toList.filterMap (translation? v f)) = t.translations := by
    refine Dict.ext_get? fun tag => Option.ext fun text => ?_
    rw [Dict.get?_ofList_of_unique, hmem]
    intro tag text text' h h'
    rw [hmem] at h h'
    exact Option.some.inj (h.symm.trans h')
  rw [titleOf_eq, htranslations, fieldValue?, hbase, Option.bind_some, hdefault]

/-! ## Whole declarations -/

variable (p) in
/-- The properties without a meaning are those that stand for nothing. -/
theorem get?_custom (v : Vocabulary) (key : String) :
    (ofProperties v p).custom.get? key = if v.slot key = .custom then p.get? key else none := by
  rw [ofProperties, Dict.get?_filter]
  cases p.get? key <;> by_cases h : v.slot key = .custom <;> simp [h]

/-- No property of a flat source under the key of a field is custom. -/
theorem get?_custom_key (p : Properties) (f : Field) :
    (ofProperties .canonical p).custom.get? f.key = none := by
  rw [get?_custom, Vocabulary.slot_key, if_neg (by simp)]

/-- A structured source declares no titles and no library among its fields. -/
theorem areFields_ofStructured (root : Dict Json) :
    (ofStructured root).fields.AreFields fun f => f.isTitle = false ∧ f ≠ .library := by
  have hinside : (fieldsOf .structured (convert ((namespaceMembers root).erase authorsName))).AreFields
      fun f => f.isTitle = false ∧ f ≠ .library := by
    refine (areFields_fieldsOf _ _).mono fun f hf => ⟨hf.1, ?_⟩
    rintro rfl
    cases hf.2
  have hadd {fields : Properties} {author : Dict Json} {member : String} {f : Field}
      (hfields : fields.AreFields fun f => f.isTitle = false ∧ f ≠ .library)
      (hf : f = .author ∨ f = .email) :
      (addAuthorField author member f fields).AreFields
        fun f => f.isTitle = false ∧ f ≠ .library := by
    unfold addAuthorField
    split
    · rcases hf with rfl | rfl
      · exact hfields.insert ⟨rfl, by decide⟩ rfl
      · exact hfields.insert ⟨rfl, by decide⟩ rfl
    · exact hfields
  show (addAuthor _ _).AreFields _
  unfold addAuthor
  split
  · exact hadd (hadd hinside (.inl rfl)) (.inr rfl)
  · exact hinside

/-- The fields of a declaration are values of the kinds that they require, and no titles. -/
theorem areFields_ofSource (source : Source) :
    (ofSource source).fields.AreFields fun f => f.isTitle = false := by
  cases source with
  | structured root => exact (areFields_ofStructured root).mono fun f hf => hf.1
  | legacy root => exact (areFields_fieldsOf _ _).mono fun f hf => hf.1
  | flat p => exact (areFields_fieldsOf _ _).mono fun f hf => hf.1

/-- The tables of the titles of a declaration have normalized tags. -/
theorem normal_ofSource (source : Source) :
    (ofSource source).name.Normal ∧ (ofSource source).comment.Normal := by
  cases source with
  | structured root =>
    exact ⟨normal_titleOf Vocabulary.reads_structured, normal_titleOf Vocabulary.reads_structured⟩
  | legacy root =>
    exact ⟨normal_titleOf Vocabulary.reads_legacy, normal_titleOf Vocabulary.reads_legacy⟩
  | flat p =>
    exact ⟨normal_titleOf Vocabulary.reads_canonical, normal_titleOf Vocabulary.reads_canonical⟩

end Metadata.Declaration

end PluginCatalog
