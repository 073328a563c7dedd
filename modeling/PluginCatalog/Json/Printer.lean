import PluginCatalog.Binary64.Shortest
import PluginCatalog.Json.Basic
import PluginCatalog.Json.Escape
import PluginCatalog.Text.Basic

/-!
# Writing JSON

`Json.compact` writes a value without any space, `Json.pretty` with each item and member on a line of
its own. Members are written in the order in which the object lists them. Integers are written by
their digits; a binary64 number by its shortest digits, of two equally near the even ones, and always
with a point or an exponent, so that it reads as one again.
-/

namespace PluginCatalog

namespace Decimal

/-- The power of ten of the first digit. -/
def leadingExponent (d : Decimal) : Int := d.exponent + (text d.digits).length - 1

/-- A decimal with one digit before the point and an exponent with its sign. -/
def scientific (d : Decimal) : List Char :=
  let e := d.leadingExponent
  let mantissa :=
    match text d.digits with
    | first :: second :: rest => first :: '.' :: second :: rest
    | digits => digits
  mantissa ++ 'e' :: (if e < 0 then '-' else '+') :: text e.natAbs

/-- Whether the JSON text of a decimal has no exponent: from `0.00001` on and below `10 ^ 16`. -/
def isPlain (d : Decimal) : Bool := -5 ≤ d.leadingExponent && d.leadingExponent < 16

/-- A decimal as a JSON number with a point or an exponent. -/
def jsonText (d : Decimal) : List Char :=
  if !d.isPlain then d.scientific
  else if d.exponent < 0 then d.positional
  else d.positional ++ ['.', '0']

end Decimal

/-- The text of a JSON number. -/
def JsonNumber.text : JsonNumber → List Char
  | integer n _ => if n < 0 then '-' :: Decimal.text n.natAbs else Decimal.text n.natAbs
  | double .nan _ => []
  | double (.signed negative x) _ =>
    let digits := (x.shortest .even).jsonText
    if negative then '-' :: digits else digits

namespace Json

mutual

/-- A value as text without space. -/
def compact : Json → List Char
  | null => ['n', 'u', 'l', 'l']
  | bool true => ['t', 'r', 'u', 'e']
  | bool false => ['f', 'a', 'l', 's', 'e']
  | number n => n.text
  | string s => quote s
  | array items => '[' :: (Text.separated [','] (compactItems items) ++ [']'])
  | object members => '{' :: (Text.separated [','] (compactMembers members) ++ ['}'])

/-- The texts of the items of an array. -/
def compactItems : List Json → List (List Char)
  | [] => []
  | j :: rest => compact j :: compactItems rest

/-- The texts of the members of an object. -/
def compactMembers : List (String × Json) → List (List Char)
  | [] => []
  | (name, j) :: rest => (quote name ++ ':' :: compact j) :: compactMembers rest

end

/-- A line break with the indentation of a depth: two blanks for each container around. -/
def newline (depth : Nat) : List Char := '\n' :: List.replicate (2 * depth) ' '

mutual

/-- A value as text with one line for each item and member, inside `depth` containers. -/
def pretty (depth : Nat) : Json → List Char
  | array [] => ['[', ']']
  | array (j :: rest) =>
    '[' :: (newline (depth + 1)
      ++ Text.separated (',' :: newline (depth + 1)) (pretty (depth + 1) j :: prettyItems (depth + 1) rest)
      ++ newline depth ++ [']'])
  | object [] => ['{', '}']
  | object ((name, j) :: rest) =>
    '{' :: (newline (depth + 1)
      ++ Text.separated (',' :: newline (depth + 1))
        ((quote name ++ ':' :: ' ' :: pretty (depth + 1) j) :: prettyMembers (depth + 1) rest)
      ++ newline depth ++ ['}'])
  | null => compact null
  | bool b => compact (bool b)
  | number n => compact (number n)
  | string s => compact (string s)

/-- The texts of the items of an array. -/
def prettyItems (depth : Nat) : List Json → List (List Char)
  | [] => []
  | j :: rest => pretty depth j :: prettyItems depth rest

/-- The texts of the members of an object. -/
def prettyMembers (depth : Nat) : List (String × Json) → List (List Char)
  | [] => []
  | (name, j) :: rest =>
    (quote name ++ ':' :: ' ' :: pretty depth j) :: prettyMembers depth rest

end

/-- A value as a string without space. -/
def text (j : Json) : String := String.ofList j.compact

/-- A value as a string of several lines. -/
def prettyText (j : Json) : String := String.ofList (j.pretty 0)

end Json

end PluginCatalog
