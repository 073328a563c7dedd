import PluginCatalog.Binary64.Basic
import PluginCatalog.Dict

/-!
# JSON values

A number is a 64-bit integer, signed or unsigned, or a finite binary64 number; the two kinds stay
apart, as they are written differently. An object is a list of members. Objects that are read hold
each name once and in order (`Json.ofDict`); a fixed document may list its members in an order of its
own.
-/

namespace PluginCatalog

/-- A JSON number. -/
inductive JsonNumber where
  /-- An integer in the range of 64 bits, with or without sign. -/
  | integer (n : Int) (fits : -0x8000000000000000 ≤ n ∧ n < 0x10000000000000000)
  /-- A number written with a fraction or an exponent, or an integer out of range. -/
  | double (x : Binary64) (finite : x.isFinite = true)
  deriving DecidableEq

/-- The binary64 number nearest to a JSON number. -/
def JsonNumber.toBinary64 : JsonNumber → Binary64
  | integer n _ => .ofInt n
  | double x _ => x

/-- A JSON value. -/
inductive Json where
  | null
  | bool (b : Bool)
  | number (n : JsonNumber)
  | string (s : String)
  | array (items : List Json)
  | object (members : List (String × Json))

namespace Json

instance : Inhabited Json := ⟨null⟩

/-- The JSON number for a binary64 number; `null` stands for the values that JSON cannot write. -/
def ofBinary64 (x : Binary64) : Json :=
  if h : x.isFinite = true then number (.double x h) else null

/-- The object whose members are the entries of a dictionary. -/
def ofDict (d : Dict Json) : Json := object d.toList

/-- The array of some strings. -/
def strings (items : List String) : Json := array (items.map string)

/-- Whether a value is an object. -/
def isObject : Json → Bool
  | object _ => true
  | _ => false

end Json

end PluginCatalog
