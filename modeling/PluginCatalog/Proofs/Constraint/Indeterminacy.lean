import PluginCatalog.Proofs.Constraint.Membership
import PluginCatalog.Proofs.Constraint.WellFormed

/-!
# Indeterminate outcomes

An expression that was read from a text is indeterminate only where two values meet: it is one
comparison that mismatches, or one constant that is looked for in a property that is no list
(`Expr.WellFormed.evaluate_eq_indeterminate_iff`). Nothing else that could mismatch is in such an
expression, at whatever depth (`Expr.WellFormed.shapes`). Inside any expression, an indeterminate operand
of a connective is as good as one that fails (`Expr.evaluate_fill_congr`).
-/

namespace PluginCatalog.Constraint

/-! ## Outcomes -/

namespace Outcome

/-- The outcome of a comparison is indeterminate exactly if the values do not compare. -/
theorem ofComparison_eq_indeterminate_iff {b : Except TypeMismatch Bool} :
    ofComparison b = .indeterminate ↔ ∃ mismatch, b = .error mismatch := by
  cases b with
  | ok b => simpa [ofComparison] using ofBool_ne_indeterminate b
  | error mismatch => simp [ofComparison]

end Outcome

/-- A constant looked for in a value does not compare exactly if there is a value that is no list. -/
theorem exists_mismatch_member_iff (l : Literal) (v : Value) :
    (∃ mismatch, member (.value l.value) (.value v) = .error mismatch) ↔
      v ≠ .absent ∧ ∀ elements, v ≠ .list elements := by
  cases v with
  | absent => cases l <;> simp [member, Literal.value]
  | list elements => simp [member_literal_list]
  | _ => cases l <;> simp [member, Literal.value]

namespace Expr

/-! ## The parts of an expression -/

/-- What an expression is made of: itself, and the parts of its operands. -/
inductive Part : Expr → Expr → Prop where
  | self (e : Expr) : Part e e
  | left {d l r : Expr} {op : Comparison} (h : Part d l) : Part d (comparison op l r)
  | right {d l r : Expr} {op : Comparison} (h : Part d r) : Part d (comparison op l r)
  | value {d v l : Expr} (h : Part d v) : Part d (membership v l)
  | list {d v l : Expr} (h : Part d l) : Part d (membership v l)
  | operand {d e : Expr} {op : Connective} {es : List Expr} (he : e ∈ es) (h : Part d e) :
      Part d (logical op es)

/-- What stands for a value by itself: a constant, a property, or a list of constants. -/
def IsAtom : Expr → Prop
  | literal _ | property _ | list _ => True
  | _ => False

/-- What stands for a value by itself has no other parts. -/
theorem Part.eq_of_isAtom {d e : Expr} (h : Part d e) (he : e.IsAtom) : d = e := by
  cases h with
  | self => rfl
  | _ => cases he

/-- The parts of a well-formed expression are well-formed, but for those that stand for values. -/
theorem WellFormed.of_part {d e : Expr} (he : e.WellFormed) (h : Part d e) :
    d.WellFormed ∨ d.IsAtom := by
  induction h with
  | self => exact .inl he
  | left h ih =>
    cases he
    exact .inr (h.eq_of_isAtom trivial ▸ trivial)
  | right h ih =>
    cases he
    exact .inr (h.eq_of_isAtom trivial ▸ trivial)
  | value h ih =>
    cases he <;> exact .inr (h.eq_of_isAtom trivial ▸ trivial)
  | list h ih =>
    cases he <;> exact .inr (h.eq_of_isAtom trivial ▸ trivial)
  | operand hmem h ih =>
    cases he with
    | negation he =>
      obtain rfl := List.mem_singleton.1 hmem
      exact ih he
    | chain _ _ hes => exact ih (hes _ hmem)

/-- In a well-formed expression, comparisons and memberships have the sides that the language gives
them, and no connective is without operands. -/
theorem WellFormed.shapes {e : Expr} (he : e.WellFormed) :
    (∀ op l r, Part (.comparison op l r) e → ∃ key k, l = .property key ∧ r = .literal k) ∧
    (∀ v l, Part (.membership v l) e →
      (∃ key items, v = .property key ∧ l = .list items) ∨
        ∃ k key, v = .literal k ∧ l = .property key) ∧
    ∀ op es, Part (.logical op es) e → es ≠ [] := by
  refine ⟨fun op l r h => ?_, fun v l h => ?_, fun op es h => ?_⟩
  · obtain hpart | hatom := he.of_part h
    · cases hpart
      exact ⟨_, _, rfl, rfl⟩
    · cases hatom
  · obtain hpart | hatom := he.of_part h
    · cases hpart with
      | inList => exact .inl ⟨_, _, rfl, rfl⟩
      | inProperty => exact .inr ⟨_, _, rfl, rfl⟩
    · cases hatom
  · obtain hpart | hatom := he.of_part h
    · cases hpart with
      | negation => exact List.cons_ne_nil _ _
      | chain _ hlen _ =>
        rintro rfl
        cases hlen
    · cases hatom

/-! ## Where an outcome is indeterminate -/

variable (lookup : String → Value)

/-- The outcome of a connective is that of a test. -/
theorem exists_evaluate_logical (op : Connective) (es : List Expr) :
    ∃ b, (logical op es).evaluate lookup = .ofBool b := by
  cases op with
  | and => exact ⟨allHold lookup es, by rw [evaluate]⟩
  | or => exact ⟨anyHolds lookup es, by rw [evaluate]⟩
  | not =>
    cases es with
    | nil => exact ⟨true, by rw [evaluate]; rfl⟩
    | cons e es => exact ⟨!(e.evaluate lookup).isHolds, by rw [evaluate]⟩

/-- A well-formed expression is indeterminate exactly if it is a comparison of values that do not compare,
or looks for a constant in a property that has a value but is no list. -/
theorem WellFormed.evaluate_eq_indeterminate_iff {e : Expr} (he : e.WellFormed) :
    e.evaluate lookup = .indeterminate ↔
      (∃ op key l, e = .comparison op (.property key) (.literal l) ∧
        ∃ mismatch, Value.compare op (lookup key) l.value = .error mismatch) ∨
      ∃ l key, e = .membership (.literal l) (.property key) ∧
        lookup key ≠ .absent ∧ ∀ elements, lookup key ≠ .list elements := by
  -- Connectives hold or fail whatever their operands give, so none of them is indeterminate.
  have hlogical (op : Connective) (es : List Expr) :
      (Expr.logical op es).evaluate lookup ≠ .indeterminate := by
    obtain ⟨b, hb⟩ := exists_evaluate_logical lookup op es
    exact hb ▸ Outcome.ofBool_ne_indeterminate b
  cases he with
  | @comparison op key l hkey hl =>
    rw [evaluate_comparison_literal, Outcome.ofComparison_eq_indeterminate_iff]
    constructor
    · exact fun hmismatch => .inl ⟨op, key, l, rfl, hmismatch⟩
    · rintro (⟨op, key, l, heq, hmismatch⟩ | ⟨l, key, heq, -⟩)
      · cases heq
        exact hmismatch
      · cases heq
  | @inProperty l key hl hkey =>
    rw [evaluate_membership_property, Outcome.ofComparison_eq_indeterminate_iff,
      exists_mismatch_member_iff]
    constructor
    · exact fun hvalue => .inr ⟨l, key, rfl, hvalue⟩
    · rintro (⟨op, key, l, heq, -⟩ | ⟨l, key, heq, hvalue⟩)
      · cases heq
      · cases heq
        exact hvalue
  | inList hkey hitems =>
    simp [evaluate_membership_list_ne_indeterminate]
  | presence hkey =>
    rw [evaluate]
    simp [Outcome.ofBool_ne_indeterminate]
  | negation he => simp [hlogical]
  | chain hop hlen hes => simp [hlogical]

/-! ## Operands of connectives -/

/-- An expression with a gap in it, in the place of an operand of a connective. -/
inductive Context where
  /-- The gap is an operand of this connective. -/
  | gap (op : Connective) (before after : List Expr)
  | operand (op : Connective) (before : List Expr) (c : Context) (after : List Expr)
  | left (op : Comparison) (c : Context) (r : Expr)
  | right (op : Comparison) (l : Expr) (c : Context)
  | value (c : Context) (l : Expr)
  | list (v : Expr) (c : Context)

/-- The expression with something in the gap. -/
def Context.fill : Context → Expr → Expr
  | gap op before after, e => logical op (before ++ e :: after)
  | operand op before c after, e => logical op (before ++ c.fill e :: after)
  | left op c r, e => comparison op (c.fill e) r
  | right op l c, e => comparison op l (c.fill e)
  | value c l, e => membership (c.fill e) l
  | list v c, e => membership v (c.fill e)

/-- An expression with a gap is no constant, property or list: as an operand it stands for whether it
holds. -/
theorem operand_fill (c : Context) (e : Expr) (outcome : Outcome) :
    operand lookup (c.fill e) outcome = .value (.bool outcome.isHolds) := by
  cases c <;> rfl

variable {lookup}

/-- A connective does not tell apart operands that both hold or both do not. -/
theorem evaluate_logical_congr {e e' : Expr}
    (h : (e.evaluate lookup).isHolds = (e'.evaluate lookup).isHolds) (op : Connective)
    (before after : List Expr) :
    (logical op (before ++ e :: after)).evaluate lookup
      = (logical op (before ++ e' :: after)).evaluate lookup := by
  cases op with
  | and => rw [evaluate, evaluate, allHold_eq, allHold_eq]; simp [h]
  | or => rw [evaluate, evaluate, anyHolds_eq, anyHolds_eq]; simp [h]
  | not =>
    -- Only the first operand of a negation counts.
    cases before with
    | nil => rw [List.nil_append, List.nil_append, evaluate, evaluate, h]
    | cons d before => rw [List.cons_append, List.cons_append, evaluate, evaluate]

/-- Nor does anything around it. -/
theorem evaluate_fill_congr {e e' : Expr}
    (h : (e.evaluate lookup).isHolds = (e'.evaluate lookup).isHolds) (c : Context) :
    (c.fill e).evaluate lookup = (c.fill e').evaluate lookup := by
  induction c with
  | gap op before after => exact evaluate_logical_congr h op before after
  | operand op before c after ih =>
    exact evaluate_logical_congr (congrArg Outcome.isHolds ih) op before after
  | left op c r ih =>
    rw [Context.fill, Context.fill, evaluate, evaluate, operand_fill, operand_fill, ih]
  | right op l c ih =>
    rw [Context.fill, Context.fill, evaluate, evaluate, operand_fill, operand_fill, ih]
  | value c l ih =>
    rw [Context.fill, Context.fill, evaluate, evaluate, operand_fill, operand_fill, ih]
  | list v c ih =>
    rw [Context.fill, Context.fill, evaluate, evaluate, operand_fill, operand_fill, ih]

end Expr

/-- An accepted text is indeterminate exactly if it is a comparison of values that do not compare, or looks
for a constant in a property that has a value but is no list. No part of what it is read as compares
or looks for anything but constants and properties, and none is a connective without operands. In any
expression whatever, an indeterminate operand of a connective can be exchanged for one that fails. -/
theorem evaluate_eq_indeterminate_iff_of_parse {text : String} {c : Constraint}
    (h : parse text = .ok c) (lookup : String → Value) :
    (c.evaluate lookup = .indeterminate ↔
      (∃ op key l, c.root = .comparison op (.property key) (.literal l) ∧
        ∃ mismatch, Value.compare op (lookup key) l.value = .error mismatch) ∨
      ∃ l key, c.root = .membership (.literal l) (.property key) ∧
        lookup key ≠ .absent ∧ ∀ elements, lookup key ≠ .list elements) ∧
    ((∀ op l r, Expr.Part (.comparison op l r) c.root →
        ∃ key k, l = .property key ∧ r = .literal k) ∧
      (∀ v l, Expr.Part (.membership v l) c.root →
        (∃ key items, v = .property key ∧ l = .list items) ∨
          ∃ k key, v = .literal k ∧ l = .property key) ∧
      ∀ op es, Expr.Part (.logical op es) c.root → es ≠ []) ∧
    ∀ (around : Expr.Context) (e e' : Expr), e.evaluate lookup = .indeterminate →
      e'.evaluate lookup = .fails →
      (around.fill e).evaluate lookup = (around.fill e').evaluate lookup := by
  have hroot := wellFormed_of_parse h
  refine ⟨hroot.evaluate_eq_indeterminate_iff lookup, hroot.shapes, fun around e e' he he' => ?_⟩
  -- Neither of the two holds, which is all that a connective asks.
  refine Expr.evaluate_fill_congr ?_ around
  rw [he, he']
  decide

/-- A truth value does not compare with a text, so `a == 'x'` is indeterminate; deep in an expression it
can be exchanged for a presence test that fails. -/
theorem evaluate_eq_indeterminate_iff_of_parse_flag :
    let lookup : String → Value := fun key => if key = "a" then .bool true else .absent
    let mismatch : Expr := .comparison .eq (.property "a") (.literal (.string "x"))
    let failure : Expr := .presence "b"
    parse "a == 'x'" = .ok ⟨"a == 'x'", mismatch⟩ ∧
      Constraint.evaluate ⟨"a == 'x'", mismatch⟩ lookup = .indeterminate ∧
      failure.evaluate lookup = .fails ∧
      (Expr.logical .and [.presence "a", .logical .not [mismatch]]).evaluate lookup
        = (Expr.logical .and [.presence "a", .logical .not [failure]]).evaluate lookup := by
  intro lookup mismatch failure
  have hparse : parse "a == 'x'" = .ok ⟨"a == 'x'", mismatch⟩ := by
    have hscan : Token.scan "a == 'x'".toList = .ok
        [⟨.word "a", ['a'], 0⟩, ⟨.operator .eq, ['=', '='], 2⟩,
         ⟨.string "x", ['\'', 'x', '\''], 5⟩] := by decide +kernel
    rw [parse, parseExpr, hscan]
    rfl
  have hfailure : failure.evaluate lookup = .fails := by
    rw [Expr.evaluate]
    rfl
  obtain ⟨hiff, -, hexchange⟩ := evaluate_eq_indeterminate_iff_of_parse hparse lookup
  have hmismatch : Constraint.evaluate ⟨"a == 'x'", mismatch⟩ lookup = .indeterminate :=
    hiff.2 (.inl ⟨.eq, "a", .string "x", rfl, ⟨"bool", "string"⟩, rfl⟩)
  exact ⟨hparse, hmismatch, hfailure,
    hexchange (.operand .and [.presence "a"] (.gap .not [] []) []) mismatch failure hmismatch hfailure⟩

end PluginCatalog.Constraint
