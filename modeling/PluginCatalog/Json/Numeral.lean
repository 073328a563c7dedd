import PluginCatalog.Json.Basic
import PluginCatalog.Binary64.Decimal

/-!
# JSON numerals

A numeral is an optional minus sign, a whole part without superfluous zeros, and optionally a fraction
and an exponent of at least one digit each. A numeral without fraction and exponent that fits 64 bits
is an integer, except `-0`. Any other is a binary64 number, computed in few steps rather than
correctly rounded: as many leading digits as fit 64 bits give a significand, which is rounded to
binary64 and then multiplied or divided by a rounded power of ten. A numeral whose number would be
infinite names no number.
-/

namespace PluginCatalog

-- Powers are those of core, whatever other instances are in scope.
attribute [local instance(high)] instPowNat

/-- The parts of a numeral. -/
structure Numeral where
  /-- Whether there is a minus sign. -/
  negative : Bool
  /-- The digits before the point. -/
  whole : List Char
  /-- The digits after the point; empty if there is no point. -/
  fraction : List Char
  /-- The exponent, if there is one. -/
  exponent : Option Int
  deriving DecidableEq, Inhabited

namespace Numeral

/-- Splits off the digits at the front, of which there has to be at least one. -/
def readDigits? (s : List Char) : Option (List Char × List Char) :=
  let digits := s.takeWhile Char.isDigit
  if digits.isEmpty then none else some (digits, s.dropWhile Char.isDigit)

/-- Reads the whole part: a single zero, or digits that do not begin with zero. -/
def readWhole? (s : List Char) : Option (List Char × List Char) :=
  match readDigits? s with
  | some ('0' :: _ :: _, _) => none
  | result => result

/-- Reads a fraction with its point, if there is a point. -/
def readFraction? (s : List Char) : Option (List Char × List Char) :=
  match s with
  | '.' :: r => readDigits? r
  | _ => some ([], s)

/-- Reads the sign and the digits of an exponent. -/
def readSignedDigits? (s : List Char) : Option (Int × List Char) :=
  match s with
  | '-' :: r => (readDigits? r).map fun (digits, rest) => (-(Decimal.number digits : Int), rest)
  | '+' :: r => (readDigits? r).map fun (digits, rest) => ((Decimal.number digits : Int), rest)
  | _ => (readDigits? s).map fun (digits, rest) => ((Decimal.number digits : Int), rest)

/-- Reads an exponent with its mark, if there is a mark. -/
def readExponent? (s : List Char) : Option (Option Int × List Char) :=
  match s with
  | c :: r =>
    if c = 'e' ∨ c = 'E' then (readSignedDigits? r).map fun (e, rest) => (some e, rest)
    else some (none, s)
  | [] => some (none, [])

/-- Reads a numeral without its sign. -/
def readUnsigned? (negative : Bool) (s : List Char) : Option (Numeral × List Char) := do
  let (whole, s) ← readWhole? s
  let (fraction, s) ← readFraction? s
  let (exponent, s) ← readExponent? s
  return (⟨negative, whole, fraction, exponent⟩, s)

/-- Reads the numeral at the front of a text. -/
def read? (s : List Char) : Option (Numeral × List Char) :=
  match s with
  | '-' :: r => readUnsigned? true r
  | _ => readUnsigned? false s

/-! ## The number that a numeral names -/

/-- Appends digits to a significand for as long as it stays below `2^64`; gives the significand and
how many digits it took. -/
def fill : Nat → List Char → Nat × Nat
  | significand, [] => (significand, 0)
  | significand, c :: cs =>
    let next := significand * 10 + (c.toNat - '0'.toNat)
    if next < 0x10000000000000000 then
      let (filled, taken) := fill next cs
      (filled, taken + 1)
    else (significand, 0)

/-- The magnitude nearest to a power of ten. -/
def powerOfTen (e : Nat) : Magnitude := .ofRatio (10 ^ e) 1

/-- A magnitude times a power of ten, rounded after each factor; none if that is infinite. Powers
beyond the greatest finite one are applied in steps. -/
def scale? (x : Magnitude) (e : Int) : Option Magnitude :=
  if e.natAbs ≤ 308 then
    if 0 ≤ e then
      let y := x.mul (powerOfTen e.natAbs)
      if y.isFinite then some y else none
    else some (x.div (powerOfTen e.natAbs))
  else if x = .zero then some .zero
  else if 0 ≤ e then none
  else scale? (x.div (powerOfTen 308)) (e + 308)
termination_by (-e).toNat

/-- A finite magnitude with a sign, as a JSON number. -/
def signedDouble? (negative : Bool) (x : Magnitude) : Option JsonNumber :=
  if h : (Binary64.signed negative x).isFinite = true then some (.double _ h) else none

/-- The integer that a sign and an absolute value below `2^64` name. The zero with a minus sign and
integers below the range become binary64 numbers. -/
def integer? (negative : Bool) (n : Nat) : Option JsonNumber :=
  let value : Int := if negative then -n else n
  if h : (negative = true → n ≠ 0) ∧ -0x8000000000000000 ≤ value ∧ value < 0x10000000000000000 then
    some (.integer value h.2)
  else signedDouble? negative (.ofNat n)

/-- The number that a numeral names, none if it is too large. -/
def number? (n : Numeral) : Option JsonNumber :=
  let (significand, taken) := fill 0 n.whole
  let dropped := n.whole.length - taken
  if n.fraction = [] ∧ n.exponent = none ∧ dropped = 0 then integer? n.negative significand
  else
    let (significand, taken) := fill significand n.fraction
    let exponent := (dropped : Int) - taken + n.exponent.getD 0
    (scale? (.ofNat significand) exponent).bind (signedDouble? n.negative)

end Numeral

end PluginCatalog
