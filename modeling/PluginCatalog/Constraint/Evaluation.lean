import PluginCatalog.Constraint.Parser
import PluginCatalog.Property.Comparison

/-!
# Evaluating constraints

An expression is evaluated against the lookup of properties. The outcome is that the expression holds,
that it fails, or that it is indeterminate because values of different kinds meet. Under a connective
an indeterminate operand counts as one that fails, so a mismatch spoils nothing but its own
comparison.
-/

namespace PluginCatalog.Constraint

/-- The outcome of an evaluation. -/
inductive Outcome where
  | holds
  | fails
  /-- Values that do not compare. -/
  | indeterminate
  deriving DecidableEq, Inhabited

namespace Outcome

/-- The outcome of a test. -/
def ofBool (b : Bool) : Outcome := if b then holds else fails

/-- The outcome of a comparison. -/
def ofComparison : Except TypeMismatch Bool → Outcome
  | .ok b => ofBool b
  | .error _ => indeterminate

/-- Whether an expression holds. -/
def isHolds (o : Outcome) : Bool := o = holds

end Outcome

/-- What the operand of a comparison or membership stands for. -/
inductive Operand where
  /-- A single value. -/
  | value (v : Value)
  /-- A list of constants. -/
  | list (items : List Literal)

/-- Whether two values compare as equal. -/
def valuesEqual (v w : Value) : Bool :=
  match Value.compare .eq v w with
  | .ok b => b
  | .error _ => false

/-- Compares two operands. -/
def compareOperands (op : Comparison) : Operand → Operand → Except TypeMismatch Bool
  | .value v, .value w => Value.compare op v w
  | _, _ => .error ⟨"list", "value"⟩

/-- Whether a value equals one of some constants. -/
def isAmong (items : List Literal) (v : Value) : Bool :=
  items.any fun item => valuesEqual v item.value

/-- Whether a value is in a list. A list of texts is in a list of constants if one of its items is;
what is looked for in a property is a single value. -/
def member : Operand → Operand → Except TypeMismatch Bool
  | .value .absent, .list _ => .ok false
  | .value (.list elements), .list items => .ok (elements.any fun s => isAmong items (.text s))
  | .value v, .list items => .ok (isAmong items v)
  | .value _, .value .absent => .ok false
  | .value .absent, .value _ => .ok false
  | .value (.list _), .value _ => .error ⟨"string list", "string list"⟩
  | .value v, .value (.list elements) => .ok (elements.any fun s => valuesEqual (.text s) v)
  | .value _, .value w => .error ⟨"value", w.kindName⟩
  | .list _, _ => .error ⟨"list", "list"⟩

/-- The outcome of a property that stands for itself. -/
def propertyOutcome : Value → Outcome
  | .bool b => .ofBool b
  | .absent => .fails
  | _ => .indeterminate

namespace Expr

/-- What an expression with an outcome stands for as an operand; one that is neither a constant, a
property nor a list stands for whether it holds. -/
def operand (lookup : String → Value) (e : Expr) (outcome : Outcome) : Operand :=
  match e with
  | literal l => .value l.value
  | property key => .value (lookup key)
  | list items => .list items
  | _ => .value (.bool outcome.isHolds)

mutual

/-- The outcome of an expression for a lookup of properties. -/
def evaluate (lookup : String → Value) : Expr → Outcome
  | logical .and es => .ofBool (allHold lookup es)
  | logical .or es => .ofBool (anyHolds lookup es)
  | logical .not [] => .holds
  | logical .not (e :: _) => .ofBool (!(evaluate lookup e).isHolds)
  | presence key => .ofBool (!(lookup key).isAbsent)
  | comparison op l r => .ofComparison <|
      compareOperands op (operand lookup l (evaluate lookup l)) (operand lookup r (evaluate lookup r))
  | membership v l => .ofComparison <|
      member (operand lookup v (evaluate lookup v)) (operand lookup l (evaluate lookup l))
  | literal (.bool b) => .ofBool b
  | property key => propertyOutcome (lookup key)
  | literal _ => .indeterminate
  | list _ => .indeterminate

/-- Whether all of some expressions hold. -/
def allHold (lookup : String → Value) : List Expr → Bool
  | [] => true
  | e :: es => (evaluate lookup e).isHolds && allHold lookup es

/-- Whether one of some expressions holds. -/
def anyHolds (lookup : String → Value) : List Expr → Bool
  | [] => false
  | e :: es => (evaluate lookup e).isHolds || anyHolds lookup es

end

end Expr

/-- The outcome of a constraint for a lookup of properties. -/
def evaluate (c : Constraint) (lookup : String → Value) : Outcome := c.root.evaluate lookup

/-- Whether a constraint holds for a lookup of properties. -/
def isSatisfied (c : Constraint) (lookup : String → Value) : Bool := (c.evaluate lookup).isHolds

end PluginCatalog.Constraint
