import PluginCatalog.Proofs.Locale.Tables

/-!
# The text of a locale

A table is made of a text by adding translations one after another (`TranslationTable.withTranslations`).
One step replaces the translation to the normal form of its tag and no other
(`TranslationTable.get?_withTranslation`), so a run of steps leaves of each normal form the text of the last
step with it (`TranslationTable.get?_withTranslations`), however the tags of the steps are spelled. A locale
finds the same text in every spelling: what follows its base does not count
(`Tag.normalize?_append_suffix`), and neither does which of the two separators stands where
(`Tag.normalize?_of_respells`).
-/

namespace PluginCatalog

namespace Tag

/-- Whether a character separates the parts of a tag. -/
def isSeparator (c : Char) : Bool := c = '-' || c = '_'

/-- Two spellings of a tag in which one separator may stand in the place of the other. -/
def Respells (s t : String) : Prop :=
  List.Forall₂ (fun c d => c = d ∨ isSeparator c = true ∧ isSeparator d = true) s.toList t.toList

/-- Both separators have one spelling. -/
theorem separator_of_isSeparator {c : Char} (h : isSeparator c = true) : separator c = '_' := by
  unfold isSeparator at h
  rw [Bool.or_eq_true, decide_eq_true_eq, decide_eq_true_eq] at h
  rcases h with rfl | rfl <;> decide

/-- Spellings of a tag are the same once their separators are. -/
theorem Respells.map_separator {s t : String} (h : Respells s t) :
    s.toList.map separator = t.toList.map separator := by
  unfold Respells at h
  generalize s.toList = cs at h ⊢
  generalize t.toList = ds at h ⊢
  induction h with
  | nil => rfl
  | cons hhead _ ih =>
    rw [List.map_cons, List.map_cons, ih]
    rcases hhead with rfl | ⟨hc, hd⟩
    · rfl
    · rw [separator_of_isSeparator hc, separator_of_isSeparator hd]

/-- Separators are no part of what is taken off a tag. -/
theorem base_map (s : List Char) : base (s.map separator) = (base s).map separator := by
  have hends : (fun c => !endsTag c) ∘ separator = fun c => !endsTag c :=
    funext fun c => by rw [Function.comp, endsTag_separator]
  have hblank : Text.isBlank ∘ separator = Text.isBlank := funext isBlank_separator
  simp only [base, Text.trim, Text.trimEnd, Text.trimStart, List.takeWhile_map, hends,
    List.dropWhile_map, hblank, ← List.map_reverse]

/-- Tags with the same characters but for the spelling of the separators have one normal form. -/
theorem normalize?_congr {s t : String} (h : s.toList.map separator = t.toList.map separator) :
    normalize? s = normalize? t := by
  have hbase : (base s.toList).map separator = (base t.toList).map separator := by
    rw [← base_map, h, base_map]
  have huntranslated : isUntranslated (base s.toList) = isUntranslated (base t.toList) := by
    rw [← isUntranslated_map_separator, hbase, isUntranslated_map_separator]
  unfold normalize?
  dsimp only
  rw [huntranslated, hbase]

/-- It does not matter to a normal form which separator stands where. -/
theorem normalize?_of_respells {s t : String} (h : Respells s t) : normalize? s = normalize? t :=
  normalize?_congr h.map_separator

/-- An encoding or a modifier does not matter to a normal form. -/
theorem normalize?_append_suffix (tag : String) {suffix : String}
    (h : ∃ c ∈ suffix.toList.head?, endsTag c = true) :
    normalize? (tag ++ suffix) = normalize? tag := by
  obtain ⟨c, hc, hends⟩ := h
  obtain ⟨rest, hsuffix⟩ : ∃ rest, suffix.toList = c :: rest :=
    List.head?_eq_some_iff.1 (Option.mem_def.1 hc)
  have hbase : base (tag ++ suffix).toList = base tag.toList := by
    have hnone : (c :: rest).takeWhile (fun d => !endsTag d) = [] := by simp [hends]
    rw [base, base, String.toList_append, hsuffix, List.takeWhile_append, hnone]
    split
    · rename_i hall
      rw [List.append_nil, (List.takeWhile_prefix _).eq_of_length hall]
    · rfl
  unfold normalize?
  rw [hbase]

/-- Normalizing twice is normalizing once. -/
theorem bind_normalize? (tag : String) : (normalize? tag).bind normalize? = normalize? tag := by
  cases h : normalize? tag with
  | none => rfl
  | some t => exact normalize?_of_normalize? h

end Tag

namespace TranslationTable

/-- A table with several more translations, added one after another. -/
def withTranslations (t : TranslationTable) (steps : List (String × String)) : TranslationTable :=
  steps.foldl (fun t e => t.withTranslation e.1 e.2) t

/-- The text of the last of some translations whose tag has a normal form. -/
def lastText? (steps : List (String × String)) (tag : String) : Option String :=
  steps.reverse.findSome? fun e => if Tag.normalize? e.1 = some tag then some e.2 else none

/-! ## One translation -/

variable (t : TranslationTable)

/-- A translation does not change the untranslated text. -/
theorem default_withTranslation (tag text : String) :
    (t.withTranslation tag text).default = t.default := by
  unfold withTranslation
  cases Tag.normalize? tag <;> rfl

/-- A translation is found under the normal form of its tag, and changes no other. -/
theorem get?_withTranslation (tag text key : String) :
    (t.withTranslation tag text).translations.get? key
      = (if Tag.normalize? tag = some key then some text else none).or
          (t.translations.get? key) := by
  unfold withTranslation
  cases Tag.normalize? tag with
  | none => rfl
  | some normal =>
    rw [Dict.get?_insert]
    by_cases hkey : key = normal
    · rw [if_pos hkey, if_pos (by rw [hkey]), Option.some_or]
    · rw [if_neg hkey, if_neg fun h => hkey (Option.some.inj h).symm, Option.none_or]

/-! ## Several translations -/

/-- Translations do not change the untranslated text. -/
theorem default_withTranslations (steps : List (String × String)) :
    (t.withTranslations steps).default = t.default := by
  induction steps generalizing t with
  | nil => rfl
  | cons e steps ih => exact (ih (t.withTranslation e.1 e.2)).trans (t.default_withTranslation e.1 e.2)

/-- Under each normal form the last translation is found, else what was there before. -/
theorem get?_withTranslations (steps : List (String × String)) (key : String) :
    (t.withTranslations steps).translations.get? key
      = (lastText? steps key).or (t.translations.get? key) := by
  -- The first translation makes the table that the others are added to, so `t` is general.
  induction steps generalizing t with
  | nil => rfl
  | cons e steps ih =>
    have hlast : lastText? (e :: steps) key
        = (lastText? steps key).or (if Tag.normalize? e.1 = some key then some e.2 else none) := by
      rw [lastText?, List.reverse_cons, List.findSome?_append, List.findSome?_singleton]
      rfl
    calc ((t.withTranslation e.1 e.2).withTranslations steps).translations.get? key
        = (lastText? steps key).or ((t.withTranslation e.1 e.2).translations.get? key) :=
          ih (t.withTranslation e.1 e.2)
      _ = (lastText? (e :: steps) key).or (t.translations.get? key) := by
          rw [get?_withTranslation, hlast, Option.or_assoc]

/-- Locales with one normal form have one text. -/
theorem resolve_congr {locale locale' : String}
    (h : Tag.normalize? locale = Tag.normalize? locale') : t.resolve locale = t.resolve locale' := by
  unfold resolve
  rw [h]

/-- The text of a locale in a table that was made of a text and translations, one after another: the
untranslated text if the locale has no normal form; else the text of the last translation with its normal form,
else that of the last one for the language in it, else the untranslated text. Normalizing twice is normalizing
once, and neither an encoding or a modifier behind a locale nor an exchange of its separators changes its
text. -/
theorem resolve_withTranslations (text : String) (steps : List (String × String)) (locale : String) :
    let table := (ofText text).withTranslations steps
    (Tag.normalize? locale = none → table.resolve locale = text) ∧
    (∀ tag, Tag.normalize? locale = some tag →
      table.resolve locale
        = ((lastText? steps tag).or (lastText? steps (Tag.language tag))).getD text) ∧
    (Tag.normalize? locale).bind Tag.normalize? = Tag.normalize? locale ∧
    (∀ suffix : String, suffix.toList.head? = some '.' ∨ suffix.toList.head? = some '@' →
      table.resolve (locale ++ suffix) = table.resolve locale) ∧
    ∀ locale', Tag.Respells locale locale' → table.resolve locale' = table.resolve locale := by
  intro table
  have hdefault : table.default = text := default_withTranslations (ofText text) steps
  have hget (key : String) : table.translations.get? key = lastText? steps key :=
    ((ofText text).get?_withTranslations steps key).trans Option.or_none
  refine ⟨fun hnone => ?_, fun tag htag => ?_, Tag.bind_normalize? locale, fun suffix hsuffix => ?_,
    fun locale' hrespells => ?_⟩
  · rw [resolve, hnone, hdefault]
  · simp only [resolve, htag, hget, hdefault]
  · refine table.resolve_congr (Tag.normalize?_append_suffix locale ?_)
    rcases hsuffix with hdot | hat
    · exact ⟨'.', hdot, by decide⟩
    · exact ⟨'@', hat, by decide⟩
  · exact table.resolve_congr (Tag.normalize?_of_respells hrespells).symm

/-- Of two spellings of one tag the later one counts, a language without a translation to a region has its
own, and a tag of the untranslated locale is none. -/
theorem resolve_withTranslations_german :
    let steps := [("de-AT", "Spitzel"), ("de", "Spion"), (" de_AT.UTF-8", "Agent"), ("POSIX", "x")]
    let table := (ofText "Spy").withTranslations steps
    table.resolve "C" = "Spy" ∧ table.resolve "de_AT" = "Agent" ∧
      table.resolve "de-CH@euro" = "Spion" ∧ table.resolve "de_CH@euro" = "Spion" ∧
      table.resolve "fr" = "Spy" := by
  intro steps table
  obtain ⟨hnone, -, -, -, -⟩ := resolve_withTranslations "Spy" steps "C"
  obtain ⟨-, hregion, -, -, -⟩ := resolve_withTranslations "Spy" steps "de_AT"
  obtain ⟨-, hlanguage, -, hsuffix, -⟩ := resolve_withTranslations "Spy" steps "de-CH"
  obtain ⟨-, -, -, -, hrespells⟩ := resolve_withTranslations "Spy" steps "de-CH@euro"
  obtain ⟨-, hmissing, -, -, -⟩ := resolve_withTranslations "Spy" steps "fr"
  have hswiss : table.resolve "de-CH@euro" = "Spion" :=
    (hsuffix "@euro" (by decide)).trans (hlanguage "de_CH" (by decide))
  refine ⟨hnone (by decide), hregion "de_AT" (by decide), hswiss, ?_, hmissing "fr" (by decide)⟩
  refine (hrespells "de_CH@euro" ?_).trans hswiss
  unfold Tag.Respells
  decide

end TranslationTable

end PluginCatalog
