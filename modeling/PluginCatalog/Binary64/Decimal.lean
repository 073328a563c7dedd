import PluginCatalog.Binary64.Basic

/-!
# Reading decimals

`Magnitude.ofDecimal` rounds an exact decimal to the nearest magnitude. `Binary64.ofText?` reads a
whole text as a number: an optional sign, then either one of the words `inf`, `infinity` and `nan`
in any case, or digits with an optional fraction and an optional exponent. At least one digit has to
stand before or after the point.
-/

namespace PluginCatalog

-- Powers are those of core, whatever other instances are in scope.
attribute [local instance(high)] instPowNat

/-- The exact decimal `digits * 10 ^ exponent`. -/
structure Decimal where
  /-- The significant digits, read as a number. -/
  digits : Nat
  /-- The power of ten of the last digit. -/
  exponent : Int
  deriving DecidableEq, Inhabited

namespace Decimal

/-- The digits of a number in decimal notation, most significant first. -/
def text (n : Nat) : List Char := Nat.toDigits 10 n

/-- The number that digits in decimal notation name; no digits name zero. -/
def number (digits : List Char) : Nat := Nat.ofDigitChars 10 digits 0

/-- How many digits a decimal has before its point, less the zeros after the point. -/
def places (d : Decimal) : Int := (text d.digits).length + d.exponent

end Decimal

/-- The magnitude nearest to a decimal. A decimal of more than 310 places lies beyond the largest
finite magnitude, and one of fewer than -330 nearer to zero than to the least. -/
def Magnitude.ofDecimal (d : Decimal) : Magnitude :=
  if d.digits = 0 then .zero
  else if 310 < d.places then .infinity
  else if d.places < -330 then .zero
  else .ofRatio (d.digits * 10 ^ d.exponent.toNat) (10 ^ (-d.exponent).toNat)

namespace Decimal

/-- Reads a whole text as an exponent: an optional sign and at least one digit. -/
def readExponent? (s : List Char) : Option Int :=
  let (negative, digits) :=
    match s with
    | '-' :: r => (true, r)
    | '+' :: r => (false, r)
    | _ => (false, s)
  if digits.isEmpty || !digits.all Char.isDigit then none
  else if negative then some (-(number digits : Int)) else some (number digits)

/-- Reads a whole text as a decimal without sign. -/
def read? (s : List Char) : Option Decimal :=
  let whole := s.takeWhile Char.isDigit
  let afterWhole := s.dropWhile Char.isDigit
  let (fraction, rest) :=
    match afterWhole with
    | '.' :: r => (r.takeWhile Char.isDigit, r.dropWhile Char.isDigit)
    | _ => ([], afterWhole)
  let digits := whole ++ fraction
  if digits.isEmpty then none
  else
    match rest with
    | [] => some ⟨number digits, -(fraction.length : Int)⟩
    | c :: r =>
      if c = 'e' ∨ c = 'E' then
        (readExponent? r).map fun e => ⟨number digits, e - fraction.length⟩
      else none

end Decimal

namespace Binary64

/-- Reads a text without its sign as a number. -/
def ofUnsigned? (negative : Bool) (s : List Char) : Option Binary64 :=
  match Decimal.read? s with
  | some d => some (signed negative (.ofDecimal d))
  | none =>
    let word := s.map Char.toLower
    if word = ['n', 'a', 'n'] then some nan
    else if word = ['i', 'n', 'f'] ∨ word = ['i', 'n', 'f', 'i', 'n', 'i', 't', 'y'] then
      some (signed negative .infinity)
    else none

/-- Reads a whole text as a number. -/
def ofText? (s : List Char) : Option Binary64 :=
  match s with
  | '-' :: r => ofUnsigned? true r
  | '+' :: r => ofUnsigned? false r
  | _ => ofUnsigned? false s

end Binary64

end PluginCatalog
