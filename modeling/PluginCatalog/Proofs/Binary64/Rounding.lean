import PluginCatalog.Binary64.Shortest

/-!
# Rounding exact values

Rounding a ratio depends on its value alone (`Magnitude.ofUnits_eq_of_ratio`), and so does reading a
decimal (`Magnitude.ofDecimal_shift`). A magnitude is its own rounding
(`Magnitude.ofUnits_units`). Together, the exact decimal of a finite magnitude reads back as it
(`Magnitude.ofDecimal_exact`).
-/

namespace PluginCatalog

-- Powers are those of core, whatever other instances are in scope.
attribute [local instance(high)] instPowNat

/-! ## Ratios -/

/-- The nearest whole number depends on the ratio alone. -/
theorem nearestEven_mul_right (num den : Nat) {k : Nat} (hk : 0 < k) :
    nearestEven (num * k) (den * k) = nearestEven num den := by
  have hlt (a b : Nat) : 2 * (a * k) < b * k ↔ 2 * a < b := by
    rw [← Nat.mul_assoc, Nat.mul_lt_mul_right hk]
  have hgt (a b : Nat) : b * k < 2 * (a * k) ↔ b < 2 * a := by
    rw [← Nat.mul_assoc, Nat.mul_lt_mul_right hk]
  simp only [nearestEven, Nat.mul_div_mul_right _ _ hk, Nat.mul_mod_mul_right, hlt, hgt]

/-- A whole number is the nearest one to itself. -/
theorem nearestEven_mul_self (n : Nat) {d : Nat} (hd : 0 < d) : nearestEven (n * d) d = n := by
  simp [nearestEven, Nat.mul_div_cancel _ hd, hd]

namespace Magnitude

/-- Rounding depends on the ratio alone, here with a common factor. -/
theorem ofUnits_mul_right (num den : Nat) {k : Nat} (hk : 0 < k) :
    ofUnits (num * k) (den * k) = ofUnits num den := by
  unfold ofUnits
  dsimp only
  rw [Nat.mul_div_mul_right _ _ hk, Nat.mul_right_comm den k, nearestEven_mul_right _ _ hk]

/-- Rounding depends on the ratio alone. -/
theorem ofUnits_eq_of_ratio {num den num' den' : Nat} (hd : 0 < den) (hd' : 0 < den')
    (h : num * den' = num' * den) : ofUnits num den = ofUnits num' den' := by
  calc ofUnits num den = ofUnits (num * den') (den * den') := (ofUnits_mul_right num den hd').symm
    _ = ofUnits (num' * den) (den' * den) := by rw [h, Nat.mul_comm den den']
    _ = ofUnits num' den' := ofUnits_mul_right num' den' hd

/-! ## Magnitudes -/

/-- The significand of a code is below `2^53`, and at least `2^52` unless the last place is the
least. -/
theorem significand_bounds (code : Nat) :
    code - lastPlace code * blockSize < 2 * blockSize ∧
      (lastPlace code = 0 ∨ blockSize ≤ code - lastPlace code * blockSize) := by
  unfold lastPlace blockSize
  omega

/-- The binary logarithm of a significand with its place. -/
theorem log2_mul_two_pow {m : Nat} (hm : blockSize ≤ m) (hm' : m < 2 * blockSize) (p : Nat) :
    (m * 2 ^ p).log2 = 52 + p := by
  have hpos : 0 < 2 ^ p := Nat.two_pow_pos p
  have h52 : blockSize = 2 ^ 52 := rfl
  have hne : m * 2 ^ p ≠ 0 := Nat.mul_ne_zero (by omega) (by omega)
  rw [Nat.log2_eq_iff hne, Nat.pow_succ, Nat.pow_add, ← h52]
  constructor
  · exact Nat.mul_le_mul_right _ hm
  · calc m * 2 ^ p < 2 * blockSize * 2 ^ p := Nat.mul_lt_mul_of_pos_right hm' hpos
      _ = blockSize * 2 ^ p * 2 := by rw [Nat.mul_comm 2, Nat.mul_right_comm]

/-- A magnitude is its own rounding. -/
theorem ofUnits_units (x : Magnitude) : ofUnits x.units 1 = x := by
  obtain ⟨code, hcode⟩ := x
  obtain ⟨hlt, hplace⟩ := significand_bounds code
  -- The code is its block and its significand, and rounding the units finds both again: the place
  -- is that of their logarithm, and the significand is whole at that place.
  have hsplit : lastPlace code * blockSize + (code - lastPlace code * blockSize) = code := by
    unfold lastPlace blockSize
    omega
  have hfin : min code infinityCode = code := Nat.min_eq_left hcode
  have hround : nearestEven ((code - lastPlace code * blockSize) * 2 ^ lastPlace code)
      (1 * 2 ^ lastPlace code) = code - lastPlace code * blockSize := by
    rw [Nat.one_mul]
    exact nearestEven_mul_self _ (Nat.two_pow_pos _)
  have hlog : ((code - lastPlace code * blockSize) * 2 ^ lastPlace code).log2 - 52
      = lastPlace code := by
    by_cases hbig : blockSize ≤ code - lastPlace code * blockSize
    · rw [log2_mul_two_pow hbig hlt]
      omega
    -- In the first block the logarithm is below 52, and the last place is the least.
    · have hzero : lastPlace code = 0 := hplace.resolve_right hbig
      rw [hzero, Nat.zero_mul, Nat.sub_zero] at hbig
      rw [hzero, Nat.zero_mul, Nat.sub_zero, Nat.pow_zero, Nat.mul_one]
      have hsmall : code < 2 ^ 52 := Nat.not_le.1 hbig
      have : code.log2 < 52 ∨ code = 0 := by
        by_cases h0 : code = 0
        · exact .inr h0
        · exact .inl ((Nat.log2_lt h0).2 hsmall)
      rcases this with hlt | rfl
      · omega
      · rfl
  simp only [ofUnits, units, Nat.div_one, hlog, hround, hsplit, ofCode, hfin]

end Magnitude

/-! ## Decimals -/

namespace Decimal

/-- A zero after the digits of a number multiplies it by ten. -/
theorem text_mul_ten {n : Nat} (hn : 0 < n) : text (n * 10) = text n ++ ['0'] := by
  have := Nat.toDigits_append_toDigits (b := 10) (by decide) hn (show 0 < 10 by decide)
  rw [text, text, Nat.mul_comm, ← Nat.add_zero (10 * n), ← this, Nat.toDigits_zero]

/-- The number of digits of a multiple of a power of ten. -/
theorem length_text_mul {n : Nat} (hn : 0 < n) (k : Nat) :
    (text (n * 10 ^ k)).length = (text n).length + k := by
  induction k with
  | zero => rw [Nat.pow_zero, Nat.mul_one, Nat.add_zero]
  | succ k ih =>
    have hpos : 0 < n * 10 ^ k := Nat.mul_pos hn (Nat.pow_pos (by decide))
    rw [Nat.pow_succ, ← Nat.mul_assoc, text_mul_ten hpos, List.length_append, ih]
    rfl

end Decimal

namespace Magnitude

/-- The ratio of units of two decimals of one value. -/
theorem ofRatio_eq_of_value {n n' a b a' b' : Nat} (h : n * 10 ^ a * 10 ^ b' = n' * 10 ^ a' * 10 ^ b) :
    ofRatio (n * 10 ^ a) (10 ^ b) = ofRatio (n' * 10 ^ a') (10 ^ b') := by
  have hpos (k : Nat) : 0 < 10 ^ k := Nat.pow_pos (by decide)
  refine ofUnits_eq_of_ratio (hpos b) (hpos b') ?_
  rw [Nat.mul_right_comm, h, Nat.mul_right_comm]

/-- Reading a decimal depends on its value alone: zeros after the digits make up for a lower
exponent. -/
theorem ofDecimal_shift (n k : Nat) (e : Int) : ofDecimal ⟨n * 10 ^ k, e⟩ = ofDecimal ⟨n, e + k⟩ := by
  rcases Nat.eq_zero_or_pos n with rfl | hn
  · simp [ofDecimal]
  have hpos : 0 < n * 10 ^ k := Nat.mul_pos hn (Nat.pow_pos (by decide))
  -- The limits on places are the same for both, and between them the ratios are the same.
  have hplaces : Decimal.places ⟨n * 10 ^ k, e⟩ = Decimal.places ⟨n, e + k⟩ := by
    simp only [Decimal.places, Decimal.length_text_mul hn]
    omega
  have hratio : ofRatio (n * 10 ^ k * 10 ^ e.toNat) (10 ^ (-e).toNat)
      = ofRatio (n * 10 ^ (e + k).toNat) (10 ^ (-(e + k)).toNat) := by
    rw [Nat.mul_assoc, ← Nat.pow_add]
    refine ofRatio_eq_of_value ?_
    rw [Nat.mul_assoc, Nat.mul_assoc, ← Nat.pow_add, ← Nat.pow_add]
    congr 2
    omega
  simp only [ofDecimal, hplaces, hratio, Nat.ne_of_gt hpos, Nat.ne_of_gt hn]

/-- The last place of the largest finite magnitude, as a power of two in units. -/
def maxLastPlace : Nat := 2045

/-- The units of a finite magnitude are below `2^2098`. -/
theorem units_lt (x : Magnitude) (h : x.isFinite = true) :
    x.units < 2 * blockSize * 2 ^ maxLastPlace := by
  have hcode : x.code < infinityCode := of_decide_eq_true h
  have hlt := (significand_bounds x.code).1
  have hplace : lastPlace x.code ≤ maxLastPlace := by
    unfold lastPlace infinityCode blockSize at *
    unfold maxLastPlace
    omega
  calc x.units < 2 * blockSize * 2 ^ lastPlace x.code :=
        Nat.mul_lt_mul_of_pos_right hlt (Nat.two_pow_pos _)
    _ ≤ 2 * blockSize * 2 ^ maxLastPlace :=
        Nat.mul_le_mul_left _ (Nat.pow_le_pow_right (by decide) hplace)

/-- Only zero has no units. -/
theorem units_pos {x : Magnitude} (h : x ≠ zero) : 0 < x.units := by
  have hcode : x.code ≠ 0 := by
    intro h0
    apply h
    cases x
    cases h0
    rfl
  refine Nat.mul_pos ?_ (Nat.two_pow_pos _)
  unfold lastPlace blockSize
  omega

/-- The exact decimal of a finite magnitude has between 744 and 1384 digits, if it is not zero. -/
theorem length_text_exact {x : Magnitude} (h : x.isFinite = true) (hx : x ≠ zero) :
    743 < (Decimal.text x.exact.digits).length ∧ (Decimal.text x.exact.digits).length ≤ 1384 := by
  have hdigits : x.exact.digits = x.units * 5 ^ unitPlaces := rfl
  have hten : 1 < 10 := by decide
  constructor
  -- A unit has `2^-1074` as its value, so its digits are those of `5^1074`.
  · refine Nat.not_le.1 fun hle => ?_
    have hlt := (Nat.length_toDigits_le_iff hten (by decide)).1 hle
    rw [hdigits] at hlt
    have hone : 5 ^ unitPlaces ≤ x.units * 5 ^ unitPlaces :=
      Nat.le_mul_of_pos_left _ (units_pos hx)
    exact absurd (Nat.lt_of_le_of_lt hone hlt) (by decide +kernel)
  · refine (Nat.length_toDigits_le_iff hten (by decide)).2 ?_
    rw [hdigits]
    calc x.units * 5 ^ unitPlaces < 2 * blockSize * 2 ^ maxLastPlace * 5 ^ unitPlaces :=
          Nat.mul_lt_mul_of_pos_right (units_lt x h) (Nat.pow_pos (by decide))
      _ ≤ 10 ^ 1384 := by decide +kernel

/-- The exact decimal of a finite magnitude reads back as it. -/
theorem ofDecimal_exact (x : Magnitude) (h : x.isFinite = true) : ofDecimal x.exact = x := by
  by_cases hx : x = zero
  · subst hx
    have hunits : zero.units = 0 := rfl
    have hzero : zero.exact.digits = 0 := by
      rw [exact, hunits, Nat.zero_mul]
    rw [ofDecimal, if_pos hzero]
  have hpos : 0 < x.exact.digits := Nat.mul_pos (units_pos hx) (Nat.pow_pos (by decide))
  obtain ⟨hlow, hhigh⟩ := length_text_exact h hx
  have hplaces : x.exact.places = (Decimal.text x.exact.digits).length - 1074 := rfl
  have hratio : ofRatio (x.exact.digits * 10 ^ x.exact.exponent.toNat)
      (10 ^ (-x.exact.exponent).toNat) = ofUnits x.units 1 := by
    refine ofUnits_eq_of_ratio (Nat.pow_pos (by decide)) (by decide) ?_
    show x.units * 5 ^ unitPlaces * 10 ^ 0 * 2 ^ unitPlaces * 1 = x.units * 10 ^ unitPlaces
    rw [Nat.pow_zero, Nat.mul_one, Nat.mul_one, Nat.mul_assoc, ← Nat.mul_pow]
  rw [ofDecimal, if_neg (Nat.ne_of_gt hpos), if_neg (by omega), if_neg (by omega), hratio,
    ofUnits_units]

end Magnitude

end PluginCatalog
