import Mathlib.Data.List.TakeWhile
import PluginCatalog.Metadata.Source
import PluginCatalog.Proofs.Record.Fields

/-!
# What names stand for

A name is split at its locale exactly if it is put together with one (`splitLocale_eq_some_iff`): the
tag is what follows the last opening bracket, so it holds none itself. A vocabulary whose names stand
for their fields (`Vocabulary.Reads`) reads no other name as a field, and as translations exactly the
names of titles with a locale (`slot_eq_field_iff`, `slot_eq_translation_iff`).
-/

namespace PluginCatalog.Metadata

/-- The characters of a name with a locale. -/
theorem toList_withLocale (base tag : String) :
    (withLocale base tag).toList = base.toList ++ '[' :: (tag.toList ++ [']']) := by
  simp [withLocale]

/-- What stands after the first opening bracket, if it is not empty, does so after what stands before
it. -/
theorem eq_takeWhile_append {s : List Char} (h : (s.dropWhile (· ≠ '[')).drop 1 ≠ []) :
    s = s.takeWhile (· ≠ '[') ++ '[' :: (s.dropWhile (· ≠ '[')).drop 1 := by
  induction s with
  | nil => exact absurd rfl h
  | cons c s ih =>
    by_cases hc : c = '['
    · subst hc
      simp
    · simp only [List.takeWhile_cons, List.dropWhile_cons, hc, ne_eq, not_false_eq_true,
        decide_true, if_true, List.cons_append] at h ih ⊢
      rw [← ih h]

/-- A name that is split was put together. -/
theorem eq_withLocale_of_splitLocale {name base tag : String}
    (h : splitLocale name = (base, some tag)) :
    name = withLocale base tag ∧ base ≠ "" ∧ tag ≠ "" ∧ '[' ∉ tag.toList := by
  unfold splitLocale at h
  split at h
  · rename_i inner hname
    dsimp only at h
    split at h
    · cases h
    · rename_i hne
      simp only [Bool.or_eq_true, List.isEmpty_iff, not_or] at hne
      obtain ⟨htag, hbase⟩ := hne
      -- Read from behind, the name is the closing bracket, the tag, the opening bracket and the base.
      have hlist : name.toList = (inner.dropWhile (· ≠ '[')).tail.reverse
          ++ '[' :: ((inner.takeWhile (· ≠ '[')).reverse ++ [']']) := by
        calc name.toList = (']' :: inner).reverse := by rw [← hname, List.reverse_reverse]
          _ = (']' :: (inner.takeWhile (· ≠ '[')
                ++ '[' :: (inner.dropWhile (· ≠ '[')).drop 1)).reverse := by
            rw [← eq_takeWhile_append hbase]
          _ = _ := by simp
      rw [List.drop_one] at hbase h
      simp only [Prod.mk.injEq, Option.some.injEq] at h
      obtain ⟨rfl, rfl⟩ := h
      refine ⟨?_, ?_, ?_, ?_⟩
      · apply String.toList_inj.1
        rw [toList_withLocale, hlist, String.toList_ofList, String.toList_ofList]
      · simpa using hbase
      · simpa using htag
      · intro hmem
        rw [String.toList_ofList, List.mem_reverse] at hmem
        simpa using List.mem_takeWhile_imp hmem
  · cases h

/-- A name that is put together is split again: no opening bracket is in the tag, so the last one is
before it. -/
theorem splitLocale_withLocale {base tag : String} (hbase : base ≠ "") (htag : tag ≠ "")
    (hbracket : '[' ∉ tag.toList) : splitLocale (withLocale base tag) = (base, some tag) := by
  have hreverse : (withLocale base tag).toList.reverse
      = ']' :: (tag.toList.reverse ++ '[' :: base.toList.reverse) := by
    simp [toList_withLocale]
  have hpos : ∀ c ∈ tag.toList.reverse, decide (c ≠ '[') = true := by
    intro c hc
    rw [decide_eq_true_eq]
    rintro rfl
    exact hbracket (List.mem_reverse.1 hc)
  have htake : (tag.toList.reverse ++ '[' :: base.toList.reverse).takeWhile (· ≠ '[')
      = tag.toList.reverse := by
    rw [List.takeWhile_append_of_pos hpos]
    simp
  have hdrop : (tag.toList.reverse ++ '[' :: base.toList.reverse).dropWhile (· ≠ '[')
      = '[' :: base.toList.reverse := by
    rw [List.dropWhile_append_of_pos hpos]
    simp
  have hne : (tag.toList.reverse.isEmpty || base.toList.reverse.isEmpty) = false := by
    simp [hbase, htag]
  simp only [splitLocale, hreverse, htake, hdrop, List.drop_one, List.tail_cons, hne]
  simp

/-- A name is split at its locale exactly if it is put together with one. -/
theorem splitLocale_eq_some_iff {name base tag : String} :
    splitLocale name = (base, some tag)
      ↔ name = withLocale base tag ∧ base ≠ "" ∧ tag ≠ "" ∧ '[' ∉ tag.toList := by
  constructor
  · exact eq_withLocale_of_splitLocale
  · rintro ⟨rfl, hbase, htag, hbracket⟩
    exact splitLocale_withLocale hbase htag hbracket

/-- A name that is not split stays as it is. -/
theorem splitLocale_eq_none {name base : String} (h : splitLocale name = (base, none)) :
    base = name := by
  unfold splitLocale at h
  split at h
  · dsimp only at h
    split at h <;> cases h
    rfl
  · cases h
    rfl

/-- Names with a locale have the same tag only if they are the same. -/
theorem withLocale_injective {base tag tag' : String}
    (h : withLocale base tag = withLocale base tag') : tag = tag' := by
  have hlist := congrArg String.toList h
  rw [toList_withLocale, toList_withLocale] at hlist
  have htail := List.append_cancel_left hlist
  rw [List.cons.injEq] at htail
  exact String.toList_inj.1 (List.append_cancel_right htail.2)

namespace Vocabulary

/-- The names of a vocabulary stand for their fields. -/
def Reads (v : Vocabulary) : Prop := ∀ f name, v.name? f = some name → v.slot name = .field f

/-- The canonical keys stand for their fields. -/
theorem reads_canonical : canonical.Reads := by
  intro f name h
  cases f <;> cases h <;> decide

/-- A canonical key stands for its field. -/
theorem slot_key (f : Field) : canonical.slot f.key = .field f := reads_canonical f f.key rfl

/-- The names inside the object `Plugin` stand for their fields. -/
theorem reads_structured : structured.Reads := by
  intro f name h
  cases f <;> cases h <;> decide

/-- The older names stand for their fields. -/
theorem reads_legacy : legacy.Reads := by
  intro f name h
  cases f <;> cases h <;> decide

variable {v : Vocabulary} {name : String} {f : Field}

/-- A field is found only by its name. -/
theorem name?_of_field? (h : v.field? name = some f) : v.name? f = some name := by
  simpa using List.find?_some h

/-- A name stands for a field only if it is found by it as a whole. -/
theorem field?_of_slot (h : v.slot name = .field f) : v.field? name = some f := by
  unfold slot at h
  split at h
  · rename_i base hsplit
    rw [splitLocale_eq_none hsplit] at h
    split at h
    · rename_i g hg
      cases h
      exact hg
    · cases h
  · split at h
    · split at h <;> cases h
    · cases h

/-- A field is found by its name and by no other. -/
theorem field?_eq_some_iff (hv : v.Reads) : v.field? name = some f ↔ v.name? f = some name :=
  ⟨name?_of_field?, fun h => field?_of_slot (hv f name h)⟩

/-- The names that stand for a field are its name. -/
theorem slot_eq_field_iff (hv : v.Reads) : v.slot name = .field f ↔ v.name? f = some name :=
  ⟨fun h => name?_of_field? (field?_of_slot h), hv f name⟩

/-- The names that stand for a translation are those of titles with a locale. -/
theorem slot_eq_translation_iff (hv : v.Reads) {tag : String} :
    v.slot name = .translation f tag
      ↔ f.isTitle = true ∧ ∃ base, v.name? f = some base ∧ splitLocale name = (base, some tag) := by
  constructor
  · intro h
    unfold slot at h
    split at h
    · split at h <;> cases h
    · rename_i base tag' hsplit
      split at h
      · rename_i g hg
        split at h
        · rename_i htitle
          cases h
          exact ⟨htitle, base, name?_of_field? hg, hsplit⟩
        · cases h
      · cases h
  · rintro ⟨htitle, base, hname, hsplit⟩
    unfold slot
    rw [hsplit]
    dsimp only
    rw [(field?_eq_some_iff hv).2 hname]
    exact if_pos htitle

/-- The name of a title with a tag between brackets stands for the translation to the tag. -/
theorem slot_withLocale (hv : v.Reads) (htitle : f.isTitle = true) {base tag : String}
    (hbase : v.name? f = some base) (hne : base ≠ "") (htag : tag ≠ "") (hbracket : '[' ∉ tag.toList) :
    v.slot (withLocale base tag) = .translation f tag :=
  (slot_eq_translation_iff hv).2 ⟨htitle, base, hbase, splitLocale_withLocale hne htag hbracket⟩

end Vocabulary

end PluginCatalog.Metadata
