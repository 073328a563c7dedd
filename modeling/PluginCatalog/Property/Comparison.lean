import PluginCatalog.Binary64.Decimal
import PluginCatalog.Constraint.Expr
import PluginCatalog.Text.Basic

/-!
# Comparing property values

Two texts are compared by their code points, two numbers by value, and two truth values for equality
only. A text that reads as a number compares with numbers as one. An absent value satisfies `!=` with
everything and nothing else. All other pairs do not compare, which is an error of its own and not the
answer that a comparison fails.
-/

namespace PluginCatalog

open Constraint (Comparison)

/-- Two operands that do not compare, by the kinds that messages give them. -/
structure TypeMismatch where
  left : String
  right : String
  deriving DecidableEq

/-- The wording of a mismatch. -/
def TypeMismatch.message (e : TypeMismatch) : String :=
  "Type mismatch: cannot compare " ++ e.left ++ " with " ++ e.right

/-- Whether an operator holds of operands in some order. -/
def Constraint.Comparison.holds : Comparison → Ordering → Bool
  | eq, o => o = .eq
  | ne, o => o ≠ .eq
  | lt, o => o = .lt
  | le, o => o ≠ .gt
  | gt, o => o = .gt
  | ge, o => o ≠ .lt

/-- The order of two texts by their code points. -/
def Text.order (s t : String) : Ordering :=
  if s < t then .lt else if s = t then .eq else .gt

/-- The number that a text reads as, regardless of blanks around it. -/
def Text.number? (s : String) : Option Binary64 := Binary64.ofText? (Text.trim s.toList)

/-- Compares numbers; no operator holds of operands without an order. -/
def Binary64.satisfies (x : Binary64) (op : Comparison) (y : Binary64) : Bool :=
  match Binary64.compare? x y with
  | some o => op.holds o
  | none => false

/-- Compares property values. -/
def Value.compare (op : Comparison) : Value → Value → Except TypeMismatch Bool
  | absent, _ => .ok (op = .ne)
  | _, absent => .ok (op = .ne)
  | text s, text t => .ok (op.holds (Text.order s t))
  | number x, number y => .ok (x.satisfies op y)
  | text s, number y =>
    match Text.number? s with
    | some x => .ok (x.satisfies op y)
    | none => .error ⟨"non-numeric string", "number"⟩
  | number x, text t =>
    match Text.number? t with
    | some y => .ok (x.satisfies op y)
    | none => .error ⟨"number", "non-numeric string"⟩
  | bool a, bool b =>
    match op with
    | .eq => .ok (a = b)
    | .ne => .ok (a ≠ b)
    | _ => .error ⟨"bool", "ordering operator"⟩
  | v, w => .error ⟨v.kindName, w.kindName⟩

end PluginCatalog
