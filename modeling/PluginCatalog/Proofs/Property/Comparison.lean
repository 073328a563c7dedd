import PluginCatalog.Catalog
import PluginCatalog.Proofs.Constraint.Membership

/-!
# Equal and different

`!=` is meant as the complement of `==`. It is defined for the same values (`Value.compare_ne_eq`), and it
is the complement but for one kind of pairs: values that are compared as numbers, one of which is `nan`
(`Value.unordered`). These have no order, so no operator holds of them, `!=` no more than `==`
(`Value.compare_ne_eq_not_iff`).
-/

namespace PluginCatalog

open Constraint (Comparison)

/-! ## Numbers -/

namespace Binary64

/-- Numbers are without an order exactly if one of them is `nan`. -/
theorem compare?_eq_none_iff {x y : Binary64} : compare? x y = none ↔ x = nan ∨ y = nan := by
  cases x <;> cases y <;> simp [compare?]

/-- Of an order, `!=` holds exactly if `==` does not. -/
theorem holds_ne (o : Ordering) : Comparison.ne.holds o = !Comparison.eq.holds o := by
  cases o <;> rfl

/-- Numbers are different if they are not equal, as long as they have an order. -/
theorem satisfies_ne (x y : Binary64) :
    x.satisfies .ne y = (!x.satisfies .eq y && !(x = nan || y = nan)) := by
  unfold satisfies
  cases h : compare? x y with
  | none =>
    have hnan : (decide (x = nan) || decide (y = nan)) = true := by
      simpa using compare?_eq_none_iff.1 h
    rw [hnan]
    rfl
  | some o =>
    have hnan : (decide (x = nan) || decide (y = nan)) = false := by
      have hne : ¬(x = nan ∨ y = nan) := fun hn => by simp [compare?_eq_none_iff.2 hn] at h
      simpa using hne
    rw [hnan, Bool.not_false, Bool.and_true]
    exact holds_ne o

end Binary64

/-! ## Values -/

namespace Value

/-- The numbers as which two values are compared: two numbers, or a number and a text that reads as one. -/
def numbers? : Value → Value → Option (Binary64 × Binary64)
  | number x, number y => some (x, y)
  | text s, number y => (Text.number? s).map (·, y)
  | number x, text t => (Text.number? t).map (x, ·)
  | _, _ => none

/-- Whether two values are compared as numbers without an order: one of these is `nan`. -/
def unordered (v w : Value) : Bool :=
  match numbers? v w with
  | some (x, y) => x = .nan || y = .nan
  | none => false

variable {v w : Value}

/-- Values that are compared as numbers compare as these do. -/
theorem compare_of_numbers? {x y : Binary64} (h : numbers? v w = some (x, y)) (op : Comparison) :
    compare op v w = .ok (x.satisfies op y) := by
  cases v <;> cases w <;>
    simp only [numbers?, reduceCtorEq, Option.some.injEq, Prod.mk.injEq, Option.map_eq_some_iff] at h
  · obtain ⟨rfl, rfl⟩ := h
    rfl
  · obtain ⟨y', hy, rfl, rfl⟩ := h
    simp only [compare, hy]
  · obtain ⟨x', hx, rfl, rfl⟩ := h
    simp only [compare, hx]

/-- Of values that are not compared as numbers, `!=` says the opposite of `==`. -/
theorem compare_ne_of_numbers?_eq_none (h : numbers? v w = none) :
    compare .ne v w = (compare .eq v w).map (!·) := by
  cases v <;> cases w <;>
    simp only [numbers?, reduceCtorEq, Option.map_eq_none_iff] at h <;>
    simp [compare, Except.map, h, Binary64.holds_ne]

/-- Whether values are different is defined when it is whether they are equal, and it is not so exactly if
they are equal or have no order. -/
theorem compare_ne_eq (v w : Value) :
    compare .ne v w = (compare .eq v w).map fun b => !b && !unordered v w := by
  unfold unordered
  cases h : numbers? v w with
  | none =>
    simp only [compare_ne_of_numbers?_eq_none h, Bool.not_false, Bool.and_true]
  | some xy =>
    obtain ⟨x, y⟩ := xy
    rw [compare_of_numbers? h, compare_of_numbers? h, Binary64.satisfies_ne]
    rfl

/-- Values without an order compare for equality, and are not equal. -/
theorem compare_eq_of_unordered (h : unordered v w = true) : compare .eq v w = .ok false := by
  unfold unordered at h
  cases hnumbers : numbers? v w with
  | none =>
    rw [hnumbers] at h
    cases h
  | some xy =>
    obtain ⟨x, y⟩ := xy
    rw [hnumbers] at h
    have hnone : Binary64.compare? x y = none := Binary64.compare?_eq_none_iff.2 (by simpa using h)
    rw [compare_of_numbers? hnumbers, Binary64.satisfies, hnone]

/-- `!=` is the complement of `==` exactly for values with an order, and for those that are not compared as
numbers. -/
theorem compare_ne_eq_not_iff :
    compare .ne v w = (compare .eq v w).map (!·) ↔ unordered v w = false := by
  rw [compare_ne_eq]
  constructor
  · intro h
    rw [← Bool.not_eq_true]
    intro hunordered
    rw [compare_eq_of_unordered hunordered, hunordered] at h
    cases h
  · intro h
    simp only [h, Bool.not_false, Bool.and_true]

end Value

/-! ## Constraints -/

namespace Constraint

/-- A property differs from a constant where the comparison for equality fails, that is neither holds nor
mismatches, unless the values have no order. -/
theorem isHolds_differs (lookup : String → Value) (key : String) (l : Literal) :
    ((Expr.comparison .ne (.property key) (.literal l)).evaluate lookup).isHolds
      = (decide ((Expr.comparison .eq (.property key) (.literal l)).evaluate lookup = .fails)
          && !(lookup key).unordered l.value) := by
  rw [Expr.evaluate_comparison_literal, Expr.evaluate_comparison_literal, Value.compare_ne_eq]
  cases Value.compare .eq (lookup key) l.value with
  | error mismatch => rfl
  | ok b => cases b <;> cases (lookup key).unordered l.value <;> rfl

/-- Whether values are different is defined exactly when it is whether they are equal, and is the opposite
of it exactly if they are not compared as numbers one of which is `nan`; then they are neither. So the
records with a property that differs from a constant are those for which the comparison for equality
neither holds nor mismatches, but for values without an order. -/
theorem filter_differs (v w : Value) :
    (Value.compare .ne v w = (Value.compare .eq v w).map fun b => !b && !v.unordered w) ∧
    (Value.compare .ne v w = (Value.compare .eq v w).map (!·) ↔ v.unordered w = false) ∧
    ∀ (text key : String) (l : Literal) (locale : String) (records : List Record),
      Constraint.filter ⟨text, .comparison .ne (.property key) (.literal l)⟩ locale records
        = records.filter fun r =>
            decide ((Expr.comparison .eq (.property key) (.literal l)).evaluate (r.lookup locale)
              = .fails) && !(r.lookup locale key).unordered l.value := by
  refine ⟨Value.compare_ne_eq v w, Value.compare_ne_eq_not_iff, fun text key l locale records => ?_⟩
  exact List.filter_congr fun r _ => isHolds_differs (r.lookup locale) key l

/-- The text `nan` is neither equal to 3 nor different from it: `[p] == 3` and `[p] != 3` both fail. -/
theorem compare_ne_nan :
    let p : Value := .text "nan"
    let three : Literal := .number (.ofInt 3)
    Value.compare .eq p three.value = .ok false ∧ Value.compare .ne p three.value = .ok false ∧
      (Expr.comparison .eq (.property "p") (.literal three)).evaluate (fun _ => p) = .fails ∧
      (Expr.comparison .ne (.property "p") (.literal three)).evaluate (fun _ => p) = .fails := by
  intro p three
  have hunordered : p.unordered three.value = true := by decide +kernel
  have heq : Value.compare .eq p three.value = .ok false := Value.compare_eq_of_unordered hunordered
  have hne : Value.compare .ne p three.value = .ok false := by
    rw [Value.compare_ne_eq, heq, hunordered]
    rfl
  refine ⟨heq, hne, ?_, ?_⟩
  · rw [Expr.evaluate_comparison_literal, heq]
    rfl
  · rw [Expr.evaluate_comparison_literal, hne]
    rfl

end Constraint

end PluginCatalog
