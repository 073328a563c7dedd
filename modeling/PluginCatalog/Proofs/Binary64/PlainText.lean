import Mathlib.Data.List.TakeWhile
import PluginCatalog.Proofs.Binary64.Rounding

/-!
# Plain texts of numbers

The plain text of a finite number is digits with at most one point, after a minus sign if the number
is negative (`Binary64.plain_finite`), and it reads back as the number (`Binary64.ofText?_plain`).
The search for the shortest decimal only takes decimals that read back, and it ends with the exact
value if it finds none, so nothing has to be known of how many digits suffice.
-/

namespace PluginCatalog

-- Powers are those of core, whatever other instances are in scope.
attribute [local instance(high)] instPowNat

namespace Magnitude

/-! ## Shortest decimals -/

/-- A decimal on a grid reads back. -/
theorem ofDecimal_onGrid? {tie : Tie} {x : Magnitude} {exact d : Decimal} {dropped : Nat}
    (h : onGrid? tie x exact dropped = some d) : ofDecimal d = x := by
  unfold onGrid? at h
  dsimp only at h
  split at h
  · rename_i hlow hhigh
    cases h
    split
    · exact of_decide_eq_true hhigh
    · exact of_decide_eq_true hlow
  · rename_i hlow _
    cases h
    exact of_decide_eq_true hlow
  · rename_i _ hhigh
    cases h
    exact of_decide_eq_true hhigh
  · cases h

/-- What the search finds reads back, if the exact value does. -/
theorem ofDecimal_searchGrids (tie : Tie) {x : Magnitude} {exact : Decimal}
    (h : ofDecimal exact = x) (dropped fuel : Nat) :
    ofDecimal (searchGrids tie x exact dropped fuel) = x := by
  induction fuel generalizing dropped with
  | zero => exact h
  | succ fuel ih =>
    rw [searchGrids]
    split
    · exact ofDecimal_onGrid? ‹_›
    · exact ih _

end Magnitude

namespace Decimal

/-- The text of a number reads back. -/
theorem number_text (n : Nat) : number (text n) = n := Nat.ofDigitChars_ten_toDigits

/-- The text of a number has only digits. -/
theorem isDigit_of_mem_text {n : Nat} {c : Char} (h : c ∈ text n) : c.isDigit = true :=
  Nat.isDigit_of_mem_toDigits (by decide) (by decide) h

/-- Zeros after digits multiply by a power of ten. -/
theorem number_append_zeros (s : List Char) (k : Nat) :
    number (s ++ List.replicate k '0') = number s * 10 ^ k := by
  rw [number, Nat.ofDigitChars_append, Nat.ofDigitChars_replicate_zero, Nat.mul_comm]
  rfl

/-- Zeros before digits do not count. -/
theorem number_zeros_append (s : List Char) (k : Nat) :
    number (List.replicate k '0' ++ s) = number s := by
  rw [number, Nat.ofDigitChars_append, Nat.ofDigitChars_replicate_zero, Nat.mul_zero]
  rfl

/-- Leaving off zeros at the end of the digits does not change what a decimal reads as. -/
theorem ofDecimal_reduced (d : Decimal) :
    Magnitude.ofDecimal d.reduced = Magnitude.ofDecimal d := by
  obtain ⟨digits, exponent⟩ := d
  -- The digits end in as many zeros as are left off, so the rest is what division leaves.
  let zeros := ((text digits).reverse.takeWhile (· = '0')).length
  let kept := ((text digits).reverse.dropWhile (· = '0')).reverse
  have hzeros : (text digits).reverse.takeWhile (· = '0') = List.replicate zeros '0' := by
    refine List.eq_replicate_iff.2 ⟨rfl, fun c hc => ?_⟩
    simpa using List.mem_takeWhile_imp hc
  have htext : text digits = kept ++ List.replicate zeros '0' := by
    have := congrArg List.reverse
      (List.takeWhile_append_dropWhile (p := (· = '0')) (l := (text digits).reverse))
    rw [hzeros, List.reverse_append, List.reverse_replicate, List.reverse_reverse] at this
    exact this.symm
  have hdigits : digits = number kept * 10 ^ zeros := by
    rw [← number_append_zeros, ← htext, number_text]
  have hdiv : digits / 10 ^ zeros = number kept := by
    rw [hdigits]
    exact Nat.mul_div_cancel _ (Nat.pow_pos (by decide))
  calc Magnitude.ofDecimal ⟨digits / 10 ^ zeros, exponent + zeros⟩
      = Magnitude.ofDecimal ⟨number kept, exponent + zeros⟩ := by rw [hdiv]
    _ = Magnitude.ofDecimal ⟨number kept * 10 ^ zeros, exponent⟩ :=
      (Magnitude.ofDecimal_shift _ _ _).symm
    _ = Magnitude.ofDecimal ⟨digits, exponent⟩ := by rw [← hdigits]

end Decimal

/-- The shortest decimal of a finite magnitude reads back as it. -/
theorem Magnitude.ofDecimal_shortest (tie : Tie) (x : Magnitude) (h : x.isFinite = true) :
    ofDecimal (x.shortest tie) = x := by
  unfold shortest
  split
  · rename_i hx
    rw [hx]
    rfl
  · rw [Decimal.ofDecimal_reduced]
    exact ofDecimal_searchGrids tie (ofDecimal_exact x h) _ _

/-! ## Positional notation -/

namespace Decimal

/-- Digits, followed by nothing or by a point and digits. -/
inductive IsPositional : List Char → Prop where
  | whole {s : List Char} (hne : s ≠ []) (hs : ∀ c ∈ s, c.isDigit = true) : IsPositional s
  | fraction {s t : List Char} (hne : s ≠ []) (hs : ∀ c ∈ s, c.isDigit = true)
      (ht : ∀ c ∈ t, c.isDigit = true) : IsPositional (s ++ '.' :: t)

/-- Positional notation begins with a digit. -/
theorem IsPositional.exists_cons {s : List Char} (h : IsPositional s) :
    ∃ c t, s = c :: t ∧ c.isDigit = true := by
  cases h with
  | @whole s hne hs =>
    obtain ⟨c, t, rfl⟩ := List.exists_cons_of_ne_nil hne
    exact ⟨c, t, rfl, hs c (by simp)⟩
  | @fraction s t hne hs ht =>
    obtain ⟨c, s, rfl⟩ := List.exists_cons_of_ne_nil hne
    exact ⟨c, s ++ '.' :: t, rfl, hs c (by simp)⟩

/-- Digits alone read as a whole number. -/
theorem read?_whole {s : List Char} (hne : s ≠ []) (hs : ∀ c ∈ s, c.isDigit = true) :
    read? s = some ⟨number s, 0⟩ := by
  have htake : s.takeWhile Char.isDigit = s := List.takeWhile_eq_self_iff.2 hs
  have hdrop : s.dropWhile Char.isDigit = [] := List.dropWhile_eq_nil_iff.2 hs
  have hempty : s.isEmpty = false := by simpa using hne
  simp [read?, htake, hdrop, hempty]

/-- Digits with a point among them read as a whole number of the last place. -/
theorem read?_fraction {s t : List Char} (hne : s ≠ []) (hs : ∀ c ∈ s, c.isDigit = true)
    (ht : ∀ c ∈ t, c.isDigit = true) :
    read? (s ++ '.' :: t) = some ⟨number (s ++ t), -(t.length : Int)⟩ := by
  have htake : (s ++ '.' :: t).takeWhile Char.isDigit = s := by
    rw [List.takeWhile_append_of_pos hs]
    simp
  have hdrop : (s ++ '.' :: t).dropWhile Char.isDigit = '.' :: t := by
    rw [List.dropWhile_append_of_pos hs]
    simp
  have htake' : t.takeWhile Char.isDigit = t := List.takeWhile_eq_self_iff.2 ht
  have hdrop' : t.dropWhile Char.isDigit = [] := List.dropWhile_eq_nil_iff.2 ht
  have hempty : (s ++ t).isEmpty = false := by simp [hne]
  simp [read?, htake, hdrop, htake', hdrop', hempty]

/-- Positional notation reads back as a decimal of the same value. -/
theorem read?_positional (d : Decimal) :
    IsPositional d.positional ∧
      ∃ d', read? d.positional = some d' ∧ Magnitude.ofDecimal d' = Magnitude.ofDecimal d := by
  obtain ⟨digits, exponent⟩ := d
  have hdigits : ∀ c ∈ text digits, c.isDigit = true := fun c => isDigit_of_mem_text
  have hzeros (k : Nat) : ∀ c ∈ List.replicate k '0', c.isDigit = true := by
    intro c hc
    rw [List.eq_of_mem_replicate hc]
    rfl
  unfold positional
  dsimp only
  by_cases h : (-exponent).toNat = 0
  · rw [if_pos h]
    have hne : text digits ++ List.replicate exponent.toNat '0' ≠ [] := by
      simp [text]
    have hall : ∀ c ∈ text digits ++ List.replicate exponent.toNat '0', c.isDigit = true := by
      intro c hc
      exact (List.mem_append.1 hc).elim (hdigits c) (hzeros _ c)
    refine ⟨.whole hne hall, _, read?_whole hne hall, ?_⟩
    rw [number_append_zeros, number_text, Magnitude.ofDecimal_shift]
    congr 2
    omega
  · rw [if_neg h]
    -- Zeros before the digits leave at least one digit before the point.
    let padded := List.replicate ((-exponent).toNat + 1 - (text digits).length) '0' ++ text digits
    have hpadded : ∀ c ∈ padded, c.isDigit = true := by
      intro c hc
      exact (List.mem_append.1 hc).elim (hzeros _ c) (hdigits c)
    have hlen : (-exponent).toNat < padded.length := by
      simp only [padded, List.length_append, List.length_replicate]
      omega
    have hne : padded.take (padded.length - (-exponent).toNat) ≠ [] := by
      intro h0
      have := congrArg List.length h0
      rw [List.length_take, List.length_nil] at this
      omega
    have hs : ∀ c ∈ padded.take (padded.length - (-exponent).toNat), c.isDigit = true :=
      fun c hc => hpadded c (List.mem_of_mem_take hc)
    have ht : ∀ c ∈ padded.drop (padded.length - (-exponent).toNat), c.isDigit = true :=
      fun c hc => hpadded c (List.mem_of_mem_drop hc)
    refine ⟨.fraction hne hs ht, _, read?_fraction hne hs ht, ?_⟩
    rw [List.take_append_drop, number_zeros_append, number_text, List.length_drop]
    have hlast : padded.length - (padded.length - (-exponent).toNat) = (-exponent).toNat := by omega
    rw [hlast]
    congr 2
    omega

end Decimal

/-! ## Numbers -/

namespace Binary64

/-- The plain text of a finite number: positional notation, with a sign before it if the number is
negative. -/
theorem plain_finite (negative : Bool) (x : Magnitude) (h : x.isFinite = true) :
    (signed negative x).plain.toList
      = (if negative then ['-'] else []) ++ (x.shortest .up).positional := by
  cases negative <;> simp [plain, h]

/-- Positional notation of a magnitude reads as it, with the sign that is given. -/
theorem ofUnsigned?_positional (negative : Bool) (x : Magnitude) (h : x.isFinite = true) :
    ofUnsigned? negative (x.shortest .up).positional = some (signed negative x) := by
  obtain ⟨-, d, hd, hx⟩ := (x.shortest .up).read?_positional
  rw [Magnitude.ofDecimal_shortest .up x h] at hx
  simp [ofUnsigned?, hd, hx]

/-- A text that begins with a digit has no sign. -/
theorem ofText?_of_isDigit {c : Char} (hc : c.isDigit = true) (s : List Char) :
    ofText? (c :: s) = ofUnsigned? false (c :: s) := by
  unfold ofText?
  split
  · rename_i heq
    cases heq
    exact absurd hc (by decide)
  · rename_i heq
    cases heq
    exact absurd hc (by decide)
  · rfl

/-- The plain text of a finite number reads back as the number. -/
theorem ofText?_plain (x : Binary64) (h : x.isFinite = true) :
    ofText? x.plain.toList = some x := by
  cases x with
  | nan => cases h
  | signed negative x =>
    rw [plain_finite negative x h]
    cases negative with
    | true => exact ofUnsigned?_positional true x h
    | false =>
      have hread := ofUnsigned?_positional false x h
      obtain ⟨hpos, -⟩ := (x.shortest .up).read?_positional
      obtain ⟨c, s, hs, hc⟩ := hpos.exists_cons
      rw [hs] at hread ⊢
      exact (ofText?_of_isDigit hc s).trans hread

end Binary64

end PluginCatalog
