import PluginCatalog.Proofs.Record.Validity
import PluginCatalog.Record.Views

/-!
# Titles in written records

Both forms of a written record hold the texts of a title in the same way (`Dict.addTexts`): the
untranslated one under the name of the title, each translation under the name with its tag, and
nothing else is touched. The forms differ in when they hold an untranslated text that is empty. As the
tags are normalized, what a name holds of a title is what it stands for
(`DisplayText.Normal.get?_addTexts`).
-/

namespace PluginCatalog

open Metadata (Field Slot Vocabulary withLocale splitLocale_eq_some_iff)

/-- A name differs from its form with a locale. -/
theorem Metadata.withLocale_ne (base tag : String) : withLocale base tag ≠ base := by
  intro h
  have hlength := congrArg (fun s => s.toList.length) h
  simp only [Metadata.toList_withLocale, List.length_append, List.length_cons] at hlength
  omega

namespace Dict

variable {α : Type}

/-- Stores the texts of a title under a name: the untranslated one, if there is one, and the
translations with their tags. -/
def addTexts (d : Dict α) (base : String) (value : String → α) (untranslated : Option String)
    (translations : Dict String) : Dict α :=
  translations.toList.foldl (fun d e => d.insert (withLocale base e.1) (value e.2))
    (match untranslated with
      | some s => d.insert base (value s)
      | none => d)

variable (d : Dict α) (base : String) (value : String → α) (untranslated : Option String)
  (translations : Dict String)

/-- A translation is found under the name with its tag. -/
theorem lookup_map_withLocale (entries : List (String × String)) (tag : String) :
    lookup (withLocale base tag) (entries.map fun e => (withLocale base e.1, value e.2))
      = (lookup tag entries).map value := by
  induction entries with
  | nil => rfl
  | cons e entries ih =>
    by_cases h : tag = e.1
    · simp [lookup, h]
    · have hne : withLocale base tag ≠ withLocale base e.1 :=
        fun he => h (Metadata.withLocale_injective he)
      simp [lookup, h, hne, ih]

/-- No translation is found under a name that is not put together with its tag. -/
theorem lookup_map_withLocale_of_ne {entries : List (String × String)} {name : String}
    (h : ∀ e ∈ entries, name ≠ withLocale base e.1) :
    lookup name (entries.map fun e => (withLocale base e.1, value e.2)) = none := by
  rw [Option.eq_none_iff_forall_ne_some]
  intro v hv
  obtain ⟨e, hmem, he⟩ := List.mem_map.1 (mem_of_lookup hv)
  exact h e hmem (congrArg Prod.fst he).symm

/-- What is stored under a name: a translation, or what the untranslated text leaves there. -/
theorem get?_addTexts_eq_or (name : String) :
    (d.addTexts base value untranslated translations).get? name
      = (lookup name (translations.toList.map fun e => (withLocale base e.1, value e.2)).reverse).or
        (if name = base then (untranslated.map value).or (d.get? name) else d.get? name) := by
  have hmap : d.addTexts base value untranslated translations
      = (translations.toList.map fun e => (withLocale base e.1, value e.2)).foldl
          (fun d e => d.insert e.1 e.2) (match untranslated with
            | some s => d.insert base (value s)
            | none => d) := by
    unfold addTexts
    rw [List.foldl_map]
  rw [hmap, get?_foldl_insert]
  congr 1
  cases untranslated with
  | none => simp
  | some s =>
    rw [get?_insert]
    rfl

/-- The untranslated text is found under the name, or what was there if there is none. -/
theorem get?_addTexts :
    (d.addTexts base value untranslated translations).get? base
      = (untranslated.map value).or (d.get? base) := by
  rw [get?_addTexts_eq_or, ← List.map_reverse, lookup_map_withLocale_of_ne base value,
    Option.none_or, if_pos rfl]
  exact fun e _ => (Metadata.withLocale_ne base e.1).symm

/-- The translation to a tag is found under the name with it, or what was there if there is none. -/
theorem get?_addTexts_withLocale (tag : String) :
    (d.addTexts base value untranslated translations).get? (withLocale base tag)
      = ((translations.get? tag).map value).or (d.get? (withLocale base tag)) := by
  rw [get?_addTexts_eq_or, ← List.map_reverse, lookup_map_withLocale,
    lookup_reverse translations.sorted, if_neg (Metadata.withLocale_ne base tag)]
  rfl

/-- The texts of a title leave everything under other names as it is. -/
theorem get?_addTexts_of_ne {name : String} (hname : name ≠ base)
    (h : ∀ tag text, translations.get? tag = some text → name ≠ withLocale base tag) :
    (d.addTexts base value untranslated translations).get? name = d.get? name := by
  rw [get?_addTexts_eq_or, ← List.map_reverse, lookup_map_withLocale_of_ne base value,
    Option.none_or, if_neg hname]
  intro e he
  exact h e.1 e.2 (get?_eq_some_iff.2 (List.mem_reverse.1 he))

end Dict

namespace DisplayText

/-- The translations of a title, none if they are not kept. -/
def translations : DisplayText → Dict String
  | frozen _ => .empty
  | translatable table => table.translations

/-- The untranslated text of a title in the object `Plugin`: a fixed text only if it is not empty. -/
def member? : DisplayText → Option String
  | frozen s => if s.isEmpty then none else some s
  | translatable table => some table.default

/-- The untranslated text of a title in flat metadata: only if it is not empty. -/
def property? : DisplayText → Option String
  | frozen s => if s.isEmpty then none else some s
  | translatable table => if table.default.isEmpty then none else some table.default

/-- The texts of a title: a fixed text has no translations. -/
def asTable : DisplayText → TranslationTable
  | frozen s => .ofText s
  | translatable table => table

/-- A title is resolved by its texts. -/
theorem resolve_asTable (text : DisplayText) (locale : String) :
    text.asTable.resolve locale = text.resolve locale := by
  cases text with
  | translatable table => rfl
  | frozen s =>
    rw [asTable, TranslationTable.resolve]
    cases Tag.normalize? locale <;> rfl

/-- The untranslated text of a title in flat metadata is the one among its texts. -/
theorem property?_eq (text : DisplayText) :
    text.property? = if text.asTable.default.isEmpty then none else some text.asTable.default := by
  cases text <;> rfl

/-- The translations of a title are those among its texts. -/
theorem translations_eq (text : DisplayText) : text.translations = text.asTable.translations := by
  cases text <;> rfl

/-- The texts of a title have normalized tags. -/
theorem Normal.asTable {text : DisplayText} (h : text.Normal) : text.asTable.Normal := by
  cases text with
  | translatable table => exact h
  | frozen s => exact ⟨nofun, nofun⟩

variable (base : String) (text : DisplayText)

/-- A title is written into the object `Plugin` by its texts. -/
theorem addToJson_eq (members : Dict Json) :
    text.addToJson base members = members.addTexts base .string text.member? text.translations := by
  cases text with
  | frozen s =>
    by_cases h : s = "" <;>
      simp [addToJson, Dict.addTexts, member?, translations, h, Dict.empty]
  | translatable table => rfl

/-- A title is written into flat metadata by its texts. -/
theorem addToProperties_eq (p : Properties) :
    text.addToProperties base p = p.addTexts base .text text.property? text.translations := by
  cases text with
  | frozen s =>
    by_cases h : s = "" <;>
      simp [addToProperties, Dict.addTexts, property?, translations, h, Dict.empty]
  | translatable table =>
    by_cases h : table.default = "" <;>
      simp [addToProperties, Dict.addTexts, property?, translations, h]

/-! ## Normalized tags -/

namespace Normal

variable {text : DisplayText} {v : Vocabulary} {f : Field} {base : String}

/-- The name of a title with the tag of a translation stands for the translation. -/
theorem slot_withLocale (h : text.Normal) (hv : v.Reads) (htitle : f.isTitle = true)
    (hbase : v.name? f = some base) (hne : base ≠ "") {tag s : String}
    (ht : text.translations.get? tag = some s) :
    v.slot (withLocale base tag) = .translation f tag := by
  cases text with
  | frozen text => cases ht
  | translatable table =>
    exact Vocabulary.slot_withLocale hv htitle hbase hne (TranslationTable.Normal.ne_empty h ht)
      (TranslationTable.Normal.noBracket h tag s ht)

/-- A written title is found under its name and, by tag, under the names of its translations; all other
names are left as they are. -/
theorem get?_addTexts {α : Type} (h : text.Normal) (hv : v.Reads) (htitle : f.isTitle = true)
    (hbase : v.name? f = some base) (hne : base ≠ "") (d : Dict α) (value : String → α)
    (untranslated : Option String) (name : String) :
    (d.addTexts base value untranslated text.translations).get? name
      = match v.slot name with
        | .field g => if g = f then (untranslated.map value).or (d.get? name) else d.get? name
        | .translation g tag =>
          if g = f then ((text.translations.get? tag).map value).or (d.get? name) else d.get? name
        | .custom => d.get? name := by
  have hslot : v.slot base = .field f := hv f base hbase
  -- A name that stands for something else is neither the name of the title nor that of a translation.
  have hother (hfield : v.slot name ≠ .field f) (htag : ∀ tag, v.slot name ≠ .translation f tag) :
      (d.addTexts base value untranslated text.translations).get? name = d.get? name := by
    refine d.get?_addTexts_of_ne base value untranslated _ ?_ fun tag s ht => ?_
    · rintro rfl
      exact hfield hslot
    · rintro rfl
      exact htag tag (h.slot_withLocale hv htitle hbase hne ht)
  cases hname : v.slot name with
  | field g =>
    dsimp only
    split
    · rename_i hg
      subst hg
      have hnames := ((Vocabulary.slot_eq_field_iff hv).1 hname).symm.trans hbase
      cases hnames
      exact d.get?_addTexts base value untranslated _
    · rename_i hg
      exact hother (by simp [hname, hg]) (by simp [hname])
  | translation g tag =>
    dsimp only
    split
    · rename_i hg
      subst hg
      obtain ⟨-, base', hbase', hsplit⟩ := (Vocabulary.slot_eq_translation_iff hv).1 hname
      cases hbase'.symm.trans hbase
      obtain ⟨rfl, -⟩ := splitLocale_eq_some_iff.1 hsplit
      exact d.get?_addTexts_withLocale base value untranslated _ tag
    · rename_i hg
      exact hother (by simp [hname]) (by simp [hname, hg])
  | custom => exact hother (by simp [hname]) (by simp [hname])

end Normal

end DisplayText

end PluginCatalog
