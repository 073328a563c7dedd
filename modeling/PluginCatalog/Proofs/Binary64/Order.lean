import PluginCatalog.Property.Comparison

/-!
# The order of numbers

Numbers are ordered by rank as far as they have one, so the order of two numbers exchanged is the order
exchanged (`Binary64.compare?_swap`), `<` is transitive (`Binary64.satisfies_lt_trans`), and equal numbers
are ordered alike to every number (`Binary64.compare?_of_sameValue`).
-/

namespace PluginCatalog.Binary64

/-- The order of numbers exchanged. -/
theorem compare?_swap (x y : Binary64) : compare? y x = (compare? x y).map Ordering.swap := by
  cases x with
  | nan => cases y <;> rfl
  | signed s m =>
    cases y with
    | nan => rfl
    | signed t n =>
      have hswap : compare (rank t n) (rank s m) = (compare (rank s m) (rank t n)).swap :=
        Std.OrientedCmp.eq_swap
      exact congrArg some hswap

/-- One number is less than another if it has the lower rank. -/
theorem satisfies_lt_signed (s t : Bool) (m n : Magnitude) :
    (signed s m).satisfies .lt (signed t n) = true ↔ rank s m < rank t n :=
  decide_eq_true_iff.trans Int.compare_eq_lt

/-- What is less than a number is less than all that the number is less than. -/
theorem satisfies_lt_trans {x y z : Binary64} (h : x.satisfies .lt y = true)
    (h' : y.satisfies .lt z = true) : x.satisfies .lt z = true := by
  -- No number has `nan` above or below it, so all three have ranks.
  cases x with
  | nan => cases h
  | signed s m =>
    cases y with
    | nan => cases h
    | signed t n =>
      cases z with
      | nan => cases h'
      | signed u k =>
        rw [satisfies_lt_signed] at h h' ⊢
        exact Int.lt_trans h h'

/-- Equal numbers are ordered alike to every number. -/
theorem compare?_of_sameValue {x y : Binary64} (h : x.sameValue y = true) (z : Binary64) :
    compare? x z = compare? y z := by
  cases x with
  | nan => cases h
  | signed s m =>
    cases y with
    | nan => cases h
    | signed t n =>
      have hrank : rank s m = rank t n := by
        simpa [sameValue, compare?] using h
      cases z with
      | nan => rfl
      | signed u k => rw [compare?, compare?, hrank]

/-- Every number is ordered alike to equal numbers. -/
theorem compare?_of_sameValue_right {x y : Binary64} (h : x.sameValue y = true) (z : Binary64) :
    compare? z x = compare? z y := by
  rw [compare?_swap x z, compare?_swap y z, compare?_of_sameValue h]

end PluginCatalog.Binary64
