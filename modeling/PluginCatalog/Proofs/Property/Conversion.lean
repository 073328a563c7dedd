import PluginCatalog.Property.Value

/-!
# Values as JSON

A value that JSON can hold is converted to JSON and back without loss (`Value.ofJson?_toJson`). The
others, absent values and the numbers that JSON cannot write, are lost (`Value.toJson_eq_null`). The
values that come from JSON can be held by it (`Value.isFinite_of_ofJson?`): an integer of 64 bits is
far below the greatest binary64 number.

So what conversion gives is converted to JSON and back as it is, and decoding agrees with conversion on
the JSON values that it accepts, which are the plain ones (`Value.decode?_eq_some_iff`).
-/

namespace PluginCatalog

-- Powers are those of core, whatever other instances are in scope.
attribute [local instance(high)] instPowNat

/-- The nearest whole number to a ratio is at most one above the whole number below it. -/
theorem nearestEven_le (num den : Nat) : nearestEven num den ≤ num / den + 1 := by
  unfold nearestEven
  dsimp only
  split
  · omega
  · split <;> omega

namespace Magnitude

/-- A number of units of few enough bits is rounded to a finite magnitude. -/
theorem isFinite_ofUnits {n : Nat} (h : n.log2 ≤ 2000) : (ofUnits n 1).isFinite = true := by
  have hlt : n / 2 ^ (n.log2 - 52) < 2 ^ 53 := by
    rw [Nat.div_lt_iff_lt_mul (Nat.two_pow_pos _), ← Nat.pow_add]
    calc n < 2 ^ (n.log2 + 1) := Nat.lt_log2_self
      _ ≤ 2 ^ (53 + (n.log2 - 52)) := Nat.pow_le_pow_right (by decide) (by omega)
  have hround := nearestEven_le n (1 * 2 ^ (n.log2 - 52))
  rw [Nat.one_mul] at hround
  have hplace : (n.log2 - 52) * blockSize ≤ 1948 * blockSize := Nat.mul_le_mul_right _ (by omega)
  simp only [ofUnits, ofCode, isFinite, Nat.div_one, Nat.one_mul, decide_eq_true_eq]
  unfold infinityCode blockSize at *
  omega

/-- A natural number of at most 64 bits is rounded to a finite magnitude. -/
theorem isFinite_ofNat {n : Nat} (h : n ≤ 0x10000000000000000) : (ofNat n).isFinite = true := by
  refine isFinite_ofUnits ?_
  by_cases h0 : n * unitsPerOne = 0
  · rw [h0]
    decide
  · have hunits : n * unitsPerOne < 2 ^ (64 + unitPlaces + 1) := by
      calc n * unitsPerOne ≤ 2 ^ 64 * unitsPerOne := Nat.mul_le_mul_right unitsPerOne h
        _ = 2 ^ (64 + unitPlaces) := by rw [unitsPerOne, ← Nat.pow_add]
        _ < 2 ^ (64 + unitPlaces + 1) := Nat.pow_lt_pow_succ (by decide)
    have hlog := (Nat.log2_lt h0).2 hunits
    unfold unitPlaces at hlog
    omega

end Magnitude

/-- The binary64 number of a JSON number is finite. -/
theorem JsonNumber.isFinite_toBinary64 (n : JsonNumber) : n.toBinary64.isFinite = true := by
  cases n with
  | integer n fits => exact Magnitude.isFinite_ofNat (by omega)
  | double x finite => exact finite

namespace Value

/-- A value is neither `nan` nor infinite. -/
def IsFinite (v : Value) : Prop := ∀ x, v = number x → x.isFinite = true

/-- A value from JSON is neither `nan` nor infinite, and it is there. -/
theorem isFinite_of_ofJson? {j : Json} {v : Value} (h : ofJson? j = some v) :
    v ≠ absent ∧ v.IsFinite := by
  cases j <;> cases h
  case number n =>
    refine ⟨by simp, fun x hx => ?_⟩
    cases hx
    exact n.isFinite_toBinary64
  all_goals exact ⟨by simp, fun x hx => by cases hx⟩

/-- A value without a form in JSON is written as `null`. -/
theorem toJson_eq_null (v : Value) : v.toJson = .null ↔ v = absent ∨ ¬v.IsFinite := by
  cases v with
  | absent => simp [toJson]
  | number x =>
    by_cases h : x.isFinite = true <;> simp [toJson, Json.ofBinary64, IsFinite, h]
  | bool b => simp [toJson, IsFinite]
  | text s => simp [toJson, IsFinite]
  | list items => simp [toJson, IsFinite, Json.strings]

/-- A finite value is converted to JSON and back without loss; an absent one is lost. -/
theorem ofJson?_toJson {v : Value} (h : v.IsFinite) :
    ofJson? v.toJson = if v = absent then none else some v := by
  cases v with
  | absent => rfl
  | bool b => rfl
  | number x =>
    have hx := h x rfl
    simp [toJson, Json.ofBinary64, hx, ofJson?, JsonNumber.toBinary64]
  | text s => rfl
  | list items =>
    have hitems : (items.map Json.string).map itemText = items := by
      rw [List.map_map]
      exact List.map_id items
    simp [toJson, Json.strings, ofJson?, hitems]

/-- What is converted to JSON and back is there and finite, and comes back as it is. -/
theorem ofJson?_toJson_eq_some_iff {v w : Value} :
    ofJson? v.toJson = some w ↔ w = v ∧ v ≠ absent ∧ v.IsFinite := by
  constructor
  · intro h
    have hwritten : v.toJson ≠ .null := by
      intro hnull
      rw [hnull] at h
      cases h
    rw [ne_eq, toJson_eq_null, not_or, Classical.not_not] at hwritten
    rw [ofJson?_toJson hwritten.2, if_neg hwritten.1] at h
    exact ⟨(Option.some.inj h).symm, hwritten⟩
  · rintro ⟨rfl, hpresent, hfinite⟩
    rw [ofJson?_toJson hfinite, if_neg hpresent]

end Value

/-! ## Plain JSON values -/

/-- A JSON value that is a value of its own kind: no object, and an array only of strings. -/
inductive Json.IsPlain : Json → Prop where
  | null : IsPlain .null
  | bool (b : Bool) : IsPlain (.bool b)
  | number (n : JsonNumber) : IsPlain (.number n)
  | string (s : String) : IsPlain (.string s)
  | strings (items : List String) : IsPlain (.strings items)

namespace Value

/-- The items of an array are strings exactly if it was made of them. -/
theorem mapM_string?_eq_some_iff {items : List Json} {ss : List String} :
    items.mapM string? = some ss ↔ items = ss.map .string := by
  induction items generalizing ss with
  | nil => cases ss <;> simp
  | cons j items ih =>
    have hcons : (j :: items).mapM string? = some ss
        ↔ ∃ s, string? j = some s ∧ ∃ rest, items = rest.map .string ∧ s :: rest = ss := by
      simp [List.mapM_cons, Option.bind_eq_some_iff, ih]
    rw [hcons]
    constructor
    · rintro ⟨s, hs, rest, rfl, rfl⟩
      cases j <;> cases hs
      rfl
    · intro h
      obtain ⟨s, rest, rfl, hj, hrest⟩ := List.map_eq_cons_iff.1 h.symm
      exact ⟨s, by rw [← hj]; rfl, rest, hrest.symm, rfl⟩

/-- What is written is plain. -/
theorem isPlain_toJson (v : Value) : v.toJson.IsPlain := by
  cases v with
  | absent => exact .null
  | bool b => exact .bool b
  | number x =>
    rw [toJson, Json.ofBinary64]
    split
    · exact .number _
    · exact .null
  | text s => exact .string s
  | list items => exact .strings items

/-- Decoding accepts the plain values, and gives what conversion gives of them. -/
theorem decode?_eq_some_iff {j : Json} {v : Value} :
    decode? j = some v ↔ j.IsPlain ∧ v = (ofJson? j).getD absent := by
  have hlist (ss : List String) : ofJson? (.strings ss) = some (list ss) :=
    ofJson?_toJson (v := list ss) fun x hx => by cases hx
  constructor
  · intro h
    cases j with
    | null => cases h; exact ⟨.null, rfl⟩
    | bool b => cases h; exact ⟨.bool b, rfl⟩
    | number n => cases h; exact ⟨.number n, rfl⟩
    | string s => cases h; exact ⟨.string s, rfl⟩
    | array items =>
      obtain ⟨ss, hss, rfl⟩ := Option.map_eq_some_iff.1 h
      rw [mapM_string?_eq_some_iff.1 hss]
      exact ⟨.strings ss, by rw [← Json.strings, hlist]; rfl⟩
    | object members => cases h
  · rintro ⟨hplain, rfl⟩
    cases hplain with
    | null | bool b | number n | string s => rfl
    | strings ss =>
      rw [hlist, Json.strings, decode?, mapM_string?_eq_some_iff.2 rfl]
      rfl

/-- What conversion gives of a JSON value is converted to JSON and back as it is, whatever arrays and
objects it keeps as texts. Decoding accepts exactly the plain JSON values and gives of them what
conversion gives, the absent value where that gives none. What is written is plain, and it is converted
back exactly if it is there and neither `nan` nor infinite. -/
theorem conversion_laws (j : Json) (v : Value) :
    (∀ w, ofJson? j = some w → ofJson? w.toJson = some w) ∧
      (∀ w, decode? j = some w ↔ j.IsPlain ∧ w = (ofJson? j).getD absent) ∧
      v.toJson.IsPlain ∧ ∀ w, ofJson? v.toJson = some w ↔ w = v ∧ v ≠ absent ∧ v.IsFinite := by
  refine ⟨fun w hw => ?_, fun w => decode?_eq_some_iff, isPlain_toJson v,
    fun w => ofJson?_toJson_eq_some_iff⟩
  obtain ⟨hpresent, hfinite⟩ := isFinite_of_ofJson? hw
  exact ofJson?_toJson_eq_some_iff.2 ⟨rfl, hpresent, hfinite⟩

/-- An array with an array and an object inside. -/
def nestedArray : Json := .array [.string "a", .array [.null], .object [("k", .bool true)]]

/-- A nested array is kept as a list of texts, which stays so, and is not decoded. -/
theorem conversion_laws_nested :
    ofJson? nestedArray = some (list ["a", "[null]", "\x7b\"k\":true\x7d"]) ∧
      ofJson? (list ["a", "[null]", "\x7b\"k\":true\x7d"]).toJson
        = some (list ["a", "[null]", "\x7b\"k\":true\x7d"]) ∧
      decode? nestedArray = none := by
  have h : ofJson? nestedArray = some (list ["a", "[null]", "\x7b\"k\":true\x7d"]) := by decide
  exact ⟨h, (conversion_laws nestedArray absent).1 _ h, by decide⟩

end Value

end PluginCatalog
