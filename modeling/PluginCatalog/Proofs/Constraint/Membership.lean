import PluginCatalog.Proofs.Constraint.Combination

/-!
# Membership and comparison

Whether a property is in a list of constants is decided apart from comparisons, and twice: for a
property that is one value, and for one that is a list. Both agree with what the language can say
without lists (`Expr.evaluate_inList`): one value is in the list if it equals one of the constants,
and a list of texts is if one of the constants is in it. A mismatch with one of the constants does
not show, since under `OR` it counts as a comparison that fails.
-/

namespace PluginCatalog.Constraint

/-- The outcome of a test is never that values do not compare. -/
theorem Outcome.ofBool_ne_indeterminate (b : Bool) : ofBool b ≠ indeterminate := by
  cases b <;> decide

/-! ## Looking for a value -/

/-- An absent value equals nothing. -/
theorem valuesEqual_absent (v : Value) : valuesEqual .absent v = false := rfl

/-- A value that is no list is among constants if it equals one of them. -/
theorem member_constants {v : Value} (h : ∀ elements, v ≠ .list elements) (items : List Literal) :
    member (.value v) (.list items) = .ok (items.any fun l => valuesEqual v l.value) := by
  cases v with
  | absent =>
    have hnone : (items.any fun l => valuesEqual .absent l.value) = false :=
      List.any_eq_false.2 fun l _ => Bool.eq_false_iff.1 (valuesEqual_absent l.value)
    rw [hnone]
    rfl
  | list elements => exact absurd rfl (h elements)
  | _ => rfl

/-- A constant is looked for in a list of texts. -/
theorem member_literal_list (l : Literal) (elements : List String) :
    member (.value l.value) (.value (.list elements))
      = .ok (elements.any fun s => valuesEqual (.text s) l.value) := by
  cases l <;> rfl

/-- A list of texts is among constants if one of the constants is in it. -/
theorem member_list_constants (elements : List String) (items : List Literal) :
    member (.value (.list elements)) (.list items)
      = .ok (items.any fun l => elements.any fun s => valuesEqual (.text s) l.value) := by
  -- The texts are the outer loop, and the constants are the inner one.
  have hswap : (elements.any fun s => isAmong items (.text s))
      = items.any fun l => elements.any fun s => valuesEqual (.text s) l.value := by
    rw [Bool.eq_iff_iff]
    simp only [isAmong, List.any_eq_true]
    constructor
    · rintro ⟨s, hs, l, hl, heq⟩
      exact ⟨l, hl, s, hs, heq⟩
    · rintro ⟨l, hl, s, hs, heq⟩
      exact ⟨s, hs, l, hl, heq⟩
  exact congrArg Except.ok hswap

/-! ## The two forms as expressions -/

namespace Expr

variable (lookup : String → Value) (key : String)

/-- The outcome of a property in a list of constants. -/
theorem evaluate_membership_list (items : List Literal) :
    (membership (property key) (list items)).evaluate lookup
      = .ofComparison (member (.value (lookup key)) (.list items)) := by
  rw [evaluate, operand, operand]

/-- The outcome of a constant in a property. -/
theorem evaluate_membership_property (l : Literal) :
    (membership (literal l) (property key)).evaluate lookup
      = .ofComparison (member (.value l.value) (.value (lookup key))) := by
  rw [evaluate, operand, operand]

/-- The outcome of a property compared with a constant. -/
theorem evaluate_comparison_literal (op : Comparison) (l : Literal) :
    (comparison op (property key) (literal l)).evaluate lookup
      = .ofComparison (Value.compare op (lookup key) l.value) := by
  rw [evaluate, operand, operand, compareOperands]

/-- A property is compared as equal to a constant exactly if the values are equal. -/
theorem isHolds_equals (l : Literal) :
    ((comparison .eq (property key) (literal l)).evaluate lookup).isHolds
      = valuesEqual (lookup key) l.value := by
  rw [evaluate_comparison_literal, isHolds_ofComparison, valuesEqual]
  cases Value.compare .eq (lookup key) l.value <;> rfl

/-- The outcome of a disjunction says whether one of its operands holds. -/
theorem evaluate_or_map {α : Type} (items : List α) (f : α → Expr) :
    (logical .or (items.map f)).evaluate lookup
      = .ofBool (items.any fun a => ((f a).evaluate lookup).isHolds) := by
  rw [evaluate, anyHolds_eq, List.any_map]
  rfl

/-- A constant is in the property that is a list exactly if one of the texts equals it. -/
theorem isHolds_occurs {elements : List String} (h : lookup key = .list elements) (l : Literal) :
    ((membership (literal l) (property key)).evaluate lookup).isHolds
      = elements.any fun s => valuesEqual (.text s) l.value := by
  rw [evaluate_membership_property, h, member_literal_list, isHolds_ofComparison, isTrue]

/-- Whether a property is in a list of constants is always answered. -/
theorem evaluate_membership_list_ne_indeterminate (items : List Literal) :
    (membership (property key) (list items)).evaluate lookup ≠ .indeterminate := by
  have hanswer : ∃ b, member (.value (lookup key)) (.list items) = .ok b := by
    cases lookup key with
    | list elements => exact ⟨_, member_list_constants elements items⟩
    | _ => exact ⟨_, member_constants (by simp) items⟩
  obtain ⟨b, hb⟩ := hanswer
  rw [evaluate_membership_list, hb]
  exact Outcome.ofBool_ne_indeterminate b

/-- A property that is no list is in a list of constants exactly as it equals one of them, and one that
is a list exactly as one of them is in it. There always is an answer, whatever the kinds of the values. -/
theorem evaluate_inList (items : List Literal) :
    ((∀ elements, lookup key ≠ .list elements) →
      (membership (property key) (list items)).evaluate lookup
        = (logical .or (items.map fun l => comparison .eq (property key) (literal l))).evaluate
            lookup) ∧
    (∀ elements, lookup key = .list elements →
      (membership (property key) (list items)).evaluate lookup
        = (logical .or (items.map fun l => membership (literal l) (property key))).evaluate lookup) ∧
    (membership (property key) (list items)).evaluate lookup ≠ .indeterminate := by
  refine ⟨fun hvalue => ?_, fun elements hlist => ?_,
    evaluate_membership_list_ne_indeterminate lookup key items⟩
  · rw [evaluate_membership_list, member_constants hvalue, evaluate_or_map]
    simp only [isHolds_equals]
    rfl
  · rw [evaluate_membership_list, hlist, member_list_constants, evaluate_or_map]
    simp only [isHolds_occurs lookup key hlist]
    rfl

/-- The text `7.0` in a list of a truth value, a text that is no number and the number 7, and the list
of the texts `7.0` and `x` in the same list: both are, as the last constant equals a text. -/
theorem evaluate_inList_mixed :
    let items : List Literal := [.bool true, .string "y", .number (.ofInt 7)]
    let single : String → Value := fun _ => .text "7.0"
    let several : String → Value := fun _ => .list ["x", "7.0"]
    ((logical .or (items.map fun l => comparison .eq (property "k") (literal l))).evaluate single = .holds ∧
      (membership (property "k") (list items)).evaluate single = .holds) ∧
    ((logical .or (items.map fun l => membership (literal l) (property "k"))).evaluate several = .holds ∧
      (membership (property "k") (list items)).evaluate several = .holds) := by
  intro items single several
  have hsingle : (logical .or (items.map fun l => comparison .eq (property "k") (literal l))).evaluate
      single = .holds := by decide +kernel
  have hseveral : (logical .or (items.map fun l => membership (literal l) (property "k"))).evaluate
      several = .holds := by decide +kernel
  refine ⟨⟨hsingle, ?_⟩, hseveral, ?_⟩
  · rw [(evaluate_inList single "k" items).1 (fun _ => nofun), hsingle]
  · rw [(evaluate_inList several "k" items).2.1 ["x", "7.0"] rfl, hseveral]

end Expr

end PluginCatalog.Constraint
