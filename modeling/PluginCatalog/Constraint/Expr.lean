import PluginCatalog.Property.Value

/-!
# Constraint expressions

A constraint combines comparisons, memberships and presence tests of properties by `AND`, `OR` and
`NOT`. The type admits more trees than the constraint language can write: literals, properties and
lists may stand anywhere. `Expr.render` writes every tree, and those of the language so that they read
back.
-/

namespace PluginCatalog.Constraint

/-- The comparison operators. -/
inductive Comparison where
  | eq
  | ne
  | lt
  | le
  | gt
  | ge
  deriving DecidableEq, Inhabited

/-- How a comparison operator is written. -/
def Comparison.symbol : Comparison → String
  | eq => "=="
  | ne => "!="
  | lt => "<"
  | le => "<="
  | gt => ">"
  | ge => ">="

/-- The comparison operators in the order of the language definition. -/
def Comparison.all : List Comparison := [eq, ne, lt, le, gt, ge]

/-- The connectives. -/
inductive Connective where
  | and
  | or
  | not
  deriving DecidableEq, Inhabited

/-- A constant. -/
inductive Literal where
  | string (s : String)
  | number (x : Binary64)
  | bool (b : Bool)
  deriving DecidableEq, Inhabited

/-- The property value of a constant. -/
def Literal.value : Literal → Value
  | string s => .text s
  | number x => .number x
  | bool b => .bool b

/-- A constraint expression. -/
inductive Expr where
  /-- A constant. -/
  | literal (l : Literal)
  /-- The value of a property. -/
  | property (key : String)
  /-- A list of constants. -/
  | list (items : List Literal)
  /-- A comparison of two values. -/
  | comparison (op : Comparison) (left right : Expr)
  /-- Whether a value is in a list. -/
  | membership (value list : Expr)
  /-- Operands under a connective; `NOT` has one, chains of `AND` and `OR` have two or more. -/
  | logical (op : Connective) (operands : List Expr)
  /-- Whether a property is present. -/
  | presence (key : String)

namespace Expr

instance : Inhabited Expr := ⟨property ""⟩

/-- The operands of a chain under a connective; one operand alone is no chain. -/
def chain (op : Connective) : List Expr → Expr
  | [e] => e
  | operands => logical op operands

/-- An expression under a number of negations. -/
def negated : Nat → Expr → Expr
  | 0, e => e
  | n + 1, e => logical .not [negated n e]

end Expr

/-! ## Equality -/

/-- Whether two constants are equal, numbers by their value. -/
def Literal.same (l m : Literal) : Bool := l.value.same m.value

/-- Whether two lists of constants are equal item by item. -/
def Literal.sameAll : List Literal → List Literal → Bool
  | [], [] => true
  | l :: ls, m :: ms => l.same m && sameAll ls ms
  | _, _ => false

namespace Expr

mutual

/-- Whether two expressions are equal, numbers by their value. -/
def same : Expr → Expr → Bool
  | literal l, literal m => l.same m
  | property k, property k' => k = k'
  | list ls, list ms => Literal.sameAll ls ms
  | comparison op l r, comparison op' l' r' => op = op' && same l l' && same r r'
  | membership v l, membership v' l' => same v v' && same l l'
  | logical op es, logical op' es' => op = op' && sameAll es es'
  | presence k, presence k' => k = k'
  | _, _ => false

/-- Whether two lists of expressions are equal item by item. -/
def sameAll : List Expr → List Expr → Bool
  | [], [] => true
  | e :: es, e' :: es' => same e e' && sameAll es es'
  | _, _ => false

end

end Expr

/-! ## Text -/

/-- The text of a constant. A string is put in the quotes that it does not contain. -/
def Literal.render : Literal → List Char
  | string s =>
    let quote := if s.toList.contains '\'' then '"' else '\''
    quote :: (s.toList ++ [quote])
  | number x => x.plain.toList
  | bool true => "true".toList
  | bool false => "false".toList

namespace Expr

/-- The words between the operands of a chain. -/
def joiner : Connective → List Char
  | .and => " AND ".toList
  | .or => " OR ".toList
  | .not => []

/-- A property as it is referred to. -/
def renderKey (key : String) : List Char := '[' :: (key.toList ++ [']'])

mutual

/-- The text of an expression; every operand of a connective is put in parentheses. -/
def render : Expr → List Char
  | literal l => l.render
  | property key => renderKey key
  | list items => '[' :: (Text.separated [',', ' '] (items.map Literal.render) ++ [']'])
  | comparison op l r => render l ++ ' ' :: (op.symbol.toList ++ ' ' :: render r)
  | membership v l => render v ++ " IN ".toList ++ render l
  | logical .not es => "NOT ".toList ++ (renderOperands es).flatten
  | logical op es => Text.separated (joiner op) (renderOperands es)
  | presence key => "EXIST ".toList ++ renderKey key

/-- The texts of operands in parentheses. -/
def renderOperands : List Expr → List (List Char)
  | [] => []
  | e :: es => ('(' :: (render e ++ [')'])) :: renderOperands es

end

/-- The text of an expression as a string. -/
def text (e : Expr) : String := String.ofList e.render

end Expr

end PluginCatalog.Constraint
