import Mathlib.Data.List.DropRight
import PluginCatalog.Proofs.Text.Runs
import PluginCatalog.Text.Basic

/-!
# Trimmed texts

Trimming leaves a text that neither begins nor ends with a blank (`head?_trim`, `getLast?_trim`), and
such a text is left as it is (`trim_eq_self`). Blanks around a text do not count (`trim_blanks`), nor do
those that either half of a text at another character begins or ends with (`trim_append_cons`).
-/

namespace PluginCatalog.Text

/-- A text that neither begins nor ends with a blank is left as it is. -/
theorem trim_eq_self {s : List Char} (hfirst : ∀ c ∈ s.head?, isBlank c = false)
    (hlast : ∀ c ∈ s.getLast?, isBlank c = false) : trim s = s := by
  have hstart : trimStart s = s := by
    refine List.dropWhile_eq_self_iff.2 fun hl => ?_
    rw [hfirst _ (by simp [List.head?_eq_getElem?, hl])]
    exact Bool.false_ne_true
  have hend : trimEnd s = s := by
    refine List.rdropWhile_eq_self_iff.2 fun hl => ?_
    rw [hlast _ (List.getLast?_eq_some_getLast hl)]
    exact Bool.false_ne_true
  rw [trim, hstart, hend]

/-- A trimmed text does not begin with a blank. -/
theorem head?_trim (s : List Char) : ∀ c ∈ (trim s).head?, isBlank c = false := by
  intro c hc
  -- What is left is the front of the text without its leading blanks.
  obtain ⟨rest, hrest⟩ : trim s <+: trimStart s := List.rdropWhile_prefix isBlank _
  have hhead : c ∈ (trimStart s).head? := by
    rw [← hrest, List.head?_append]
    simp [Option.mem_def.1 hc]
  exact head_dropWhile s c hhead

/-- A trimmed text does not end with a blank. -/
theorem getLast?_trim (s : List Char) : ∀ c ∈ (trim s).getLast?, isBlank c = false := by
  intro c hc
  rw [trim, trimEnd, List.getLast?_reverse] at hc
  exact head_dropWhile (trimStart s).reverse c hc

/-! ## Blanks around a text -/

section

variable {gap : List Char} (h : ∀ c ∈ gap, isBlank c = true)

include h

/-- Nothing is left of blanks. -/
theorem trimStart_eq_nil : trimStart gap = [] := List.dropWhile_eq_nil_iff.2 h

/-- Nothing is left of blanks, from the end either. -/
theorem trimEnd_eq_nil : trimEnd gap = [] := by
  rw [trimEnd, List.dropWhile_eq_nil_iff.2 fun c hc => h c (List.mem_reverse.1 hc), List.reverse_nil]

/-- Blanks before a text do not count. -/
theorem trimStart_append (s : List Char) : trimStart (gap ++ s) = trimStart s :=
  List.dropWhile_append_of_pos h

/-- Blanks after a text do not count. -/
theorem trimEnd_append (s : List Char) : trimEnd (s ++ gap) = trimEnd s := by
  rw [trimEnd, List.reverse_append,
    List.dropWhile_append_of_pos fun c hc => h c (List.mem_reverse.1 hc), ← trimEnd]

end

section

variable {c : Char} (hc : isBlank c = false) (s t : List Char)

include hc

/-- No blanks are taken off behind another character. -/
theorem trimStart_append_cons : trimStart (s ++ c :: t) = trimStart s ++ c :: t :=
  dropWhile_append_of_head (by simpa using hc) s

/-- Nor before one, from the end. -/
theorem trimEnd_append_cons : trimEnd (s ++ c :: t) = s ++ c :: trimEnd t := by
  have hdrop := dropWhile_append_of_head (p := isBlank) (r := c :: s.reverse) (by simpa using hc) t.reverse
  rw [trimEnd, List.reverse_append, List.reverse_cons, List.append_assoc, List.singleton_append, hdrop,
    List.reverse_append, List.reverse_cons, List.reverse_reverse, List.append_assoc,
    List.singleton_append, ← trimEnd]

/-- A text is trimmed on both sides of a character that is no blank. -/
theorem trim_append_cons : trim (s ++ c :: t) = trimStart s ++ c :: trimEnd t := by
  rw [trim, trimStart_append_cons hc, trimEnd_append_cons hc]

end

/-- It does not matter at which end blanks are taken off first. -/
theorem trimStart_trimEnd (s : List Char) : trimStart (trimEnd s) = trim s := by
  have hgap : ∀ c ∈ s.takeWhile isBlank, isBlank c = true := fun c hc => List.mem_takeWhile_imp hc
  have hsplit := List.takeWhile_append_dropWhile (p := isBlank) (l := s)
  have hhead := head_dropWhile (p := isBlank) s
  cases hs : s.dropWhile isBlank with
  | nil =>
    have hblank : ∀ c ∈ s, isBlank c = true := List.dropWhile_eq_nil_iff.1 hs
    rw [trimEnd_eq_nil hblank, trim, trimStart_eq_nil hblank]
    rfl
  | cons c t =>
    rw [hs] at hhead hsplit
    have hc : isBlank c = false := hhead c rfl
    rw [← hsplit, trimEnd_append_cons hc, trim_append_cons hc, trimStart_append_cons hc]

/-- Blanks taken off at the front are taken off at both ends. -/
theorem trim_trimStart (s : List Char) : trim (trimStart s) = trim s := by
  rw [trim, trim, trimStart, trimStart, List.dropWhile_idempotent]

/-- Blanks taken off at the end are taken off at both ends. -/
theorem trim_trimEnd (s : List Char) : trim (trimEnd s) = trim s := by
  rw [trim, trimStart_trimEnd, trim, trimEnd, trimEnd, List.reverse_reverse, List.dropWhile_idempotent]

/-- Blanks around a text do not count. -/
theorem trim_blanks {before after : List Char} (hbefore : ∀ c ∈ before, isBlank c = true)
    (hafter : ∀ c ∈ after, isBlank c = true) (s : List Char) : trim (before ++ s ++ after) = trim s := by
  rw [← trim_trimEnd, trimEnd_append hafter, trim_trimEnd, ← trim_trimStart, trimStart_append hbefore,
    trim_trimStart]

/-- A text is its trimmed text with blanks around it. -/
theorem exists_trim (s : List Char) :
    ∃ before after, (∀ c ∈ before, isBlank c = true) ∧ (∀ c ∈ after, isBlank c = true) ∧
      s = before ++ trim s ++ after := by
  refine ⟨s.takeWhile isBlank, ((trimStart s).reverse.takeWhile isBlank).reverse,
    fun c hc => List.mem_takeWhile_imp hc,
    fun c hc => List.mem_takeWhile_imp (List.mem_reverse.1 hc), ?_⟩
  have hend : trimEnd (trimStart s) ++ ((trimStart s).reverse.takeWhile isBlank).reverse = trimStart s := by
    rw [trimEnd, ← List.reverse_append, List.takeWhile_append_dropWhile, List.reverse_reverse]
  rw [List.append_assoc, trim, hend, trimStart, List.takeWhile_append_dropWhile]

/-- A text of which trimming leaves nothing is blank. -/
theorem isBlank_of_trim_eq_nil {s : List Char} (h : trim s = []) : ∀ c ∈ s, isBlank c = true := by
  obtain ⟨before, after, hbefore, hafter, hs⟩ := exists_trim s
  rw [h, List.append_nil] at hs
  intro c hc
  rw [hs] at hc
  exact (List.mem_append.1 hc).elim (hbefore c) (hafter c)

end PluginCatalog.Text
