import PluginCatalog.Constraint.Evaluation
import PluginCatalog.Proofs.Binary64.Order

/-!
# Values that no constraint tells apart

Two values agree if they are the same or equal numbers (`Value.Agrees`): the two zeros agree though they
are different values. Nothing that is asked of values in a constraint tells apart values that agree: neither
a comparison (`Value.Agrees.compare_congr`), nor a membership (`Constraint.member_congr`), nor what stands
for itself (`Constraint.propertyOutcome_congr`).
-/

namespace PluginCatalog

open Constraint (Comparison)

namespace Value

/-- Two values are the same, or equal numbers. -/
def Agrees (v w : Value) : Prop := v = w ∨ v.same w = true

instance (v w : Value) : Decidable (v.Agrees w) :=
  inferInstanceAs (Decidable (v = w ∨ v.same w = true))

namespace Agrees

variable {v v' w w' : Value}

/-- A value agrees with itself, also if it is `nan`. -/
theorem of_eq (h : v = w) : Agrees v w := .inl h

/-- Values that agree are the same, or two numbers that are equal. -/
theorem eq_or_numbers (h : v.Agrees w) :
    v = w ∨ ∃ x y, v = number x ∧ w = number y ∧ x.sameValue y = true := by
  rcases h with rfl | h
  · exact .inl rfl
  · unfold same at h
    split at h
    · exact .inr ⟨_, _, rfl, rfl, h⟩
    · exact .inl (of_decide_eq_true h)

/-- Values that agree are both absent or both not. -/
theorem isAbsent_eq (h : v.Agrees w) : v.isAbsent = w.isAbsent := by
  rcases h.eq_or_numbers with rfl | ⟨x, y, rfl, rfl, -⟩ <;> rfl

/-- Values that agree compare alike to every value. -/
theorem compare_left (h : v.Agrees v') (op : Comparison) (w : Value) :
    compare op v w = compare op v' w := by
  rcases h.eq_or_numbers with rfl | ⟨x, y, rfl, rfl, hxy⟩
  · rfl
  · have hsatisfies (z : Binary64) : x.satisfies op z = y.satisfies op z := by
      rw [Binary64.satisfies, Binary64.satisfies, Binary64.compare?_of_sameValue hxy]
    cases w <;> simp only [compare, hsatisfies, kindName]

/-- Every value compares alike to values that agree. -/
theorem compare_right (h : w.Agrees w') (op : Comparison) (v : Value) :
    compare op v w = compare op v w' := by
  rcases h.eq_or_numbers with rfl | ⟨x, y, rfl, rfl, hxy⟩
  · rfl
  · have hsatisfies (z : Binary64) : z.satisfies op x = z.satisfies op y := by
      rw [Binary64.satisfies, Binary64.satisfies, Binary64.compare?_of_sameValue_right hxy]
    cases v <;> simp only [compare, hsatisfies, kindName]

/-- Comparisons do not tell apart values that agree. -/
theorem compare_congr (hv : v.Agrees v') (hw : w.Agrees w') (op : Comparison) :
    compare op v w = compare op v' w' := by
  rw [hv.compare_left, hw.compare_right]

end Agrees

end Value

namespace Constraint

open Value (Agrees)

variable {v v' w w' : Value}

/-- Values that agree equal the same values. -/
theorem valuesEqual_congr (hv : v.Agrees v') (hw : w.Agrees w') :
    valuesEqual v w = valuesEqual v' w' := by
  rw [valuesEqual, valuesEqual, hv.compare_congr hw]

/-- Values that agree are among the same constants. -/
theorem isAmong_congr (h : v.Agrees v') (items : List Literal) :
    isAmong items v = isAmong items v' := by
  have hitem (item : Literal) : valuesEqual v item.value = valuesEqual v' item.value :=
    valuesEqual_congr h (.of_eq rfl)
  simp only [isAmong, hitem]

/-- What two operands stand for is the same, or values that agree. -/
inductive Operand.Agrees : Operand → Operand → Prop where
  | value {v w : Value} (h : v.Agrees w) : Agrees (.value v) (.value w)
  | list (items : List Literal) : Agrees (.list items) (.list items)

variable {a a' b b' : Operand}

/-- Comparisons do not tell apart operands that agree. -/
theorem compareOperands_congr (op : Comparison) (ha : a.Agrees a') (hb : b.Agrees b') :
    compareOperands op a b = compareOperands op a' b' := by
  cases ha with
  | list items => cases hb <;> rfl
  | value hv =>
    cases hb with
    | list items => rfl
    | value hw => exact hv.compare_congr hw op

/-- Memberships do not tell apart operands that agree. -/
theorem member_congr (ha : a.Agrees a') (hb : b.Agrees b') : member a b = member a' b' := by
  cases ha with
  | list items => cases hb <;> rfl
  | @value v v' hv =>
    cases hb with
    | list items =>
      rcases hv.eq_or_numbers with rfl | ⟨x, y, rfl, rfl, -⟩
      · rfl
      · exact congrArg Except.ok (isAmong_congr hv items)
    | @value w w' hw =>
      -- A number as the list is no list at all; as the value it may be in one.
      have hleft (w : Value) : member (.value v) (.value w) = member (.value v') (.value w) := by
        rcases hv.eq_or_numbers with rfl | ⟨x, y, rfl, rfl, -⟩
        · rfl
        · cases w <;> simp only [member, valuesEqual_congr (.of_eq rfl) hv]
      rcases hw.eq_or_numbers with rfl | ⟨x, y, rfl, rfl, -⟩
      · exact hleft w
      · rw [hleft]
        cases v' <;> rfl

/-- A property that stands for itself has the same outcome for values that agree. -/
theorem propertyOutcome_congr (h : v.Agrees w) : propertyOutcome v = propertyOutcome w := by
  rcases h.eq_or_numbers with rfl | ⟨x, y, rfl, rfl, -⟩ <;> rfl

end Constraint

end PluginCatalog
