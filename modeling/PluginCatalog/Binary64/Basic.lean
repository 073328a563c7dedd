/-!
# Binary64 numbers

A magnitude is the code that the 63 low bits of the binary64 format give it, so codes and
magnitudes are ordered alike, zero has code 0, and the code after that of the largest finite
magnitude is infinity. Every finite magnitude is a whole number of units of `2^-1074`
(`Magnitude.units`), which makes all arithmetic here exact arithmetic on natural numbers followed by
one rounding (`Magnitude.ofRatio`). A number is a signed magnitude or the one value that is no
number. Numbers are compared by signed code, which puts both zeros in one place and leaves `nan`
without an order.
-/

namespace PluginCatalog

-- Powers are those of core, whatever other instances are in scope.
attribute [local instance(high)] instPowNat

/-- The number of codes in a block; neighbours in the same block are equally far apart. -/
def blockSize : Nat := 0x10000000000000

/-- The code of infinity: one above the largest finite code. -/
def infinityCode : Nat := 2047 * blockSize

/-- The exponent of two that makes the unit, with the opposite sign. -/
def unitPlaces : Nat := 1074

/-- The number of units in one. -/
def unitsPerOne : Nat := 2 ^ unitPlaces

/-- A binary64 magnitude, given by its code. -/
structure Magnitude where
  /-- The 63 low bits of the format, read as a number. -/
  code : Nat
  /-- Codes end at infinity. -/
  code_le : code ≤ infinityCode
  deriving DecidableEq

namespace Magnitude

/-- Zero. -/
def zero : Magnitude := ⟨0, Nat.zero_le _⟩

/-- Infinity. -/
def infinity : Magnitude := ⟨infinityCode, Nat.le_refl _⟩

instance : Inhabited Magnitude := ⟨zero⟩

/-- Whether a magnitude lies below infinity. -/
def isFinite (x : Magnitude) : Bool := x.code < infinityCode

/-- The magnitude with a code, infinity for all codes past it. -/
def ofCode (code : Nat) : Magnitude := ⟨min code infinityCode, Nat.min_le_right _ _⟩

/-- The power of two, in units, of the last place of a magnitude: in the first two blocks codes count
units, and each further block doubles the step. -/
def lastPlace (code : Nat) : Nat := code / blockSize - 1

/-- The value of a finite magnitude in units of `2^-1074`. -/
def units (x : Magnitude) : Nat :=
  (x.code - lastPlace x.code * blockSize) * 2 ^ lastPlace x.code

end Magnitude

/-- The whole number nearest to `num / den`, the even one of two equally near. -/
def nearestEven (num den : Nat) : Nat :=
  let quotient := num / den
  let remainder := num % den
  if 2 * remainder < den then quotient
  else if den < 2 * remainder then quotient + 1
  else quotient + quotient % 2

namespace Magnitude

/-- The magnitude nearest to `num / den` units, the one with the even code of two equally near.
A carry out of the significand moves to the next block of codes by itself. -/
def ofUnits (num den : Nat) : Magnitude :=
  let place := (num / den).log2 - 52
  ofCode (place * blockSize + nearestEven num (den * 2 ^ place))

/-- The magnitude nearest to `num / den`. -/
def ofRatio (num den : Nat) : Magnitude := ofUnits (num * unitsPerOne) den

/-- The magnitude nearest to a natural number. -/
def ofNat (n : Nat) : Magnitude := ofRatio n 1

/-- The rounded product of finite magnitudes. -/
def mul (x y : Magnitude) : Magnitude := ofUnits (x.units * y.units) unitsPerOne

/-- The rounded quotient of finite magnitudes, by one that is not zero. -/
def div (x y : Magnitude) : Magnitude := ofUnits (x.units * unitsPerOne) y.units

end Magnitude

/-- A binary64 number. -/
inductive Binary64 where
  /-- The value that is no number. -/
  | nan
  /-- A magnitude with its sign; both zeros are numbers of their own. -/
  | signed (negative : Bool) (magnitude : Magnitude)
  deriving DecidableEq

namespace Binary64

/-- The positive zero. -/
def zero : Binary64 := signed false .zero

instance : Inhabited Binary64 := ⟨zero⟩

/-- The number nearest to an integer. -/
def ofInt (n : Int) : Binary64 := signed (n < 0) (.ofNat n.natAbs)

/-- Whether a number is neither infinite nor `nan`. -/
def isFinite : Binary64 → Bool
  | nan => false
  | signed _ magnitude => magnitude.isFinite

/-- The place of a signed magnitude in the order of the numbers. -/
def rank (negative : Bool) (magnitude : Magnitude) : Int :=
  if negative then -magnitude.code else magnitude.code

/-- The order of two numbers: none if one of them is `nan`. -/
def compare? : Binary64 → Binary64 → Option Ordering
  | signed s x, signed t y => some (compare (rank s x) (rank t y))
  | _, _ => none

/-- Whether two numbers are equal as values: the zeros are, and `nan` equals nothing. -/
def sameValue (x y : Binary64) : Bool := compare? x y = some .eq

/-! ## Whole and fractional parts

A finite number lies at or above its floor; both parts are exact before they are rounded. -/

/-- The greatest integer at most a finite number. -/
def floor : Binary64 → Int
  | nan => 0
  | signed false x => (x.units / unitsPerOne : Nat)
  | signed true x => -((x.units + (unitsPerOne - 1)) / unitsPerOne : Nat)

/-- What a finite number has above its floor, in units. -/
def unitsAboveFloor : Binary64 → Nat
  | nan => 0
  | signed false x => x.units % unitsPerOne
  | signed true x => (x.units + (unitsPerOne - 1)) / unitsPerOne * unitsPerOne - x.units

end Binary64

end PluginCatalog
