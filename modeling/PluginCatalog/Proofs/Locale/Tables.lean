import PluginCatalog.Locale.Translation
import PluginCatalog.Proofs.Text.Trimming

/-!
# Normalized tags and their tables

A normalized tag is its own normal form (`Tag.normalize?_of_normalize?`). So the tags of a table that
was made by adding translations (`TranslationTable.Normal`) find their translations again when they
are normalized once more.
-/

namespace PluginCatalog

namespace Tag

/-- The separator of a character begins a suffix only if the character does. -/
theorem endsTag_separator (c : Char) : endsTag (separator c) = endsTag c := by
  by_cases h : c = '-'
  · subst h
    decide
  · simp [separator, h]

/-- The separator of a character is a blank only if the character is. -/
theorem isBlank_separator (c : Char) : Text.isBlank (separator c) = Text.isBlank c := by
  by_cases h : c = '-'
  · subst h
    decide
  · simp [separator, h]

/-- The separator of a separator is itself. -/
theorem separator_separator (c : Char) : separator (separator c) = separator c := by
  by_cases h : c = '-'
  · subst h
    decide
  · simp [separator, h]

/-- A character other than the separator is one only of itself. -/
theorem separator_eq_iff {c d : Char} (hd : d ≠ '_') (hd' : d ≠ '-') : separator c = d ↔ c = d := by
  by_cases h : c = '-'
  · subst h
    exact ⟨fun he => absurd he.symm hd, fun he => absurd he.symm hd'⟩
  · simp [separator, h]

/-- A base keeps its untranslated meaning when its separators are made one. -/
theorem isUntranslated_map_separator (b : List Char) :
    isUntranslated (b.map separator) = isUntranslated b := by
  have hC : b.map separator = ['C'] ↔ b = ['C'] := by
    simp [List.map_eq_cons_iff, separator_eq_iff]
  have hPOSIX : b.map separator = ['P', 'O', 'S', 'I', 'X'] ↔ b = ['P', 'O', 'S', 'I', 'X'] := by
    simp [List.map_eq_cons_iff, separator_eq_iff]
  simp [isUntranslated, hC, hPOSIX]

/-- A base does not reach past its suffix. -/
theorem base_subset (s : List Char) : base s ⊆ s.takeWhile fun c => !endsTag c :=
  List.Subset.trans (List.rdropWhile_prefix Text.isBlank _).subset (List.dropWhile_suffix _).subset

/-- The base of a base with one kind of separators is itself. -/
theorem base_map_separator (s : List Char) :
    base ((base s).map separator) = (base s).map separator := by
  have htake : ((base s).map separator).takeWhile (fun c => !endsTag c)
      = (base s).map separator := by
    refine List.takeWhile_eq_self_iff.2 fun c hc => ?_
    obtain ⟨d, hd, rfl⟩ := List.mem_map.1 hc
    rw [endsTag_separator]
    exact List.mem_takeWhile_imp (p := fun c => !endsTag c) (base_subset s hd)
  rw [base, htake]
  apply Text.trim_eq_self
  · intro c hc
    rw [List.head?_map, Option.mem_def, Option.map_eq_some_iff] at hc
    obtain ⟨d, hd, rfl⟩ := hc
    rw [isBlank_separator]
    exact Text.head?_trim _ d hd
  · intro c hc
    rw [List.getLast?_map, Option.mem_def, Option.map_eq_some_iff] at hc
    obtain ⟨d, hd, rfl⟩ := hc
    rw [isBlank_separator]
    exact Text.getLast?_trim _ d hd

/-- A normalized tag is its own normal form. -/
theorem normalize?_of_normalize? {tag t : String} (h : normalize? tag = some t) :
    normalize? t = some t := by
  unfold normalize? at h
  dsimp only at h
  split at h
  · cases h
  · rename_i htranslated
    cases h
    have hbase : base (String.ofList ((base tag.toList).map separator)).toList
        = (base tag.toList).map separator := by
      rw [String.toList_ofList, base_map_separator]
    have hmap : ((base tag.toList).map separator).map separator = (base tag.toList).map separator := by
      simp [separator_separator]
    unfold normalize?
    dsimp only
    rw [hbase, isUntranslated_map_separator, if_neg htranslated, hmap]

/-- A normalized tag is not empty. -/
theorem ne_empty_of_normalize? {tag t : String} (h : normalize? tag = some t) : t ≠ "" := by
  rintro rfl
  have := normalize?_of_normalize? h
  cases this

/-- A tag without brackets has a normal form without brackets. -/
theorem bracket_notMem_normalize? {tag t : String} (h : normalize? tag = some t)
    (htag : '[' ∉ tag.toList) : '[' ∉ t.toList := by
  unfold normalize? at h
  dsimp only at h
  split at h
  · cases h
  · cases h
    intro hmem
    rw [String.toList_ofList, List.mem_map] at hmem
    obtain ⟨c, hc, hsep⟩ := hmem
    rw [separator_eq_iff (by decide) (by decide)] at hsep
    subst hsep
    exact htag ((List.takeWhile_prefix _).subset (base_subset _ hc))

end Tag

namespace TranslationTable

/-- A table whose tags are normalized and can stand between brackets. -/
structure Normal (t : TranslationTable) : Prop where
  /-- Each tag is its own normal form. -/
  normalized : ∀ tag text, t.translations.get? tag = some text → Tag.normalize? tag = some tag
  /-- No tag has an opening bracket. -/
  noBracket : ∀ tag text, t.translations.get? tag = some text → '[' ∉ tag.toList

/-- A tag of a table is not empty. -/
theorem Normal.ne_empty {t : TranslationTable} (h : t.Normal) {tag text : String}
    (ht : t.translations.get? tag = some text) : tag ≠ "" :=
  Tag.ne_empty_of_normalize? (h.normalized tag text ht)

end TranslationTable

end PluginCatalog
