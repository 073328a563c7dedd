import PluginCatalog.Binary64.Decimal

/-!
# Shortest decimals

`Magnitude.shortest` is the decimal with the fewest digits that reads back as a given magnitude, and
the nearest to it of those. The exact value of a magnitude is a decimal too (`Magnitude.exact`); on
the grid of decimals with `n` leading digits the value has two neighbours, and the first grid where
one of them reads back gives the result. Which neighbour wins an exact tie is up to the caller.
-/

namespace PluginCatalog

-- Powers are those of core, whatever other instances are in scope.
attribute [local instance(high)] instPowNat

/-- Which of two equally near decimals is written. -/
inductive Tie where
  /-- The greater one. -/
  | up
  /-- The one whose last digit is even. -/
  | even
  deriving DecidableEq

/-- The same decimal without zeros at the end of its digits. -/
def Decimal.reduced (d : Decimal) : Decimal :=
  let zeros := ((text d.digits).reverse.takeWhile (· = '0')).length
  ⟨d.digits / 10 ^ zeros, d.exponent + zeros⟩

namespace Magnitude

/-- The exact value of a finite magnitude. -/
def exact (x : Magnitude) : Decimal := ⟨x.units * 5 ^ unitPlaces, -unitPlaces⟩

/-- Whether a decimal reads back as a magnitude. -/
def isReadFrom (x : Magnitude) (d : Decimal) : Bool := ofDecimal d = x

/-- Whether the upper one of the neighbours `low` and `low + 1` of a value that lies `above / step`
over the lower one is to be preferred. -/
def prefersUpper (tie : Tie) (low above step : Nat) : Bool :=
  if 2 * above = step then
    match tie with
    | .up => true
    | .even => low % 2 = 1
  else step < 2 * above

/-- The decimal nearest to a magnitude of those that read back as it and leave off the last `dropped`
digits of its exact value. -/
def onGrid? (tie : Tie) (x : Magnitude) (exact : Decimal) (dropped : Nat) : Option Decimal :=
  let step := 10 ^ dropped
  let low : Decimal := ⟨exact.digits / step, exact.exponent + dropped⟩
  let high : Decimal := ⟨low.digits + 1, low.exponent⟩
  match x.isReadFrom low, x.isReadFrom high with
  | true, true => some (if prefersUpper tie low.digits (exact.digits % step) step then high else low)
  | true, false => some low
  | false, true => some high
  | false, false => none

/-- The first result on grids that leave off fewer and fewer digits, `dropped` of them at first; the
exact value if none of `fuel` grids has one. -/
def searchGrids (tie : Tie) (x : Magnitude) (exact : Decimal) (dropped : Nat) :
    (fuel : Nat) → Decimal
  | 0 => exact
  | fuel + 1 =>
    match onGrid? tie x exact dropped with
    | some d => d
    | none => searchGrids tie x exact (dropped - 1) fuel

/-- The shortest decimal that reads back as a finite magnitude. The first grid keeps one digit, and
seventeen always suffice. -/
def shortest (tie : Tie) (x : Magnitude) : Decimal :=
  if x = zero then ⟨0, 0⟩
  else (searchGrids tie x x.exact ((Decimal.text x.exact.digits).length - 1) 17).reduced

end Magnitude

namespace Decimal

/-- A decimal in positional notation, without a point if it is whole. -/
def positional (d : Decimal) : List Char :=
  let digits := text d.digits
  let fraction := (-d.exponent).toNat
  if fraction = 0 then digits ++ List.replicate d.exponent.toNat '0'
  else
    let padded := List.replicate (fraction + 1 - digits.length) '0' ++ digits
    padded.take (padded.length - fraction) ++ '.' :: padded.drop (padded.length - fraction)

end Decimal

/-- A number as plain text: positional notation without exponent, a tie between two shortest decimals
going to the greater, and words for the values that have no digits. -/
def Binary64.plain : Binary64 → String
  | .nan => "NaN"
  | .signed negative x =>
    let digits := if x.isFinite then (x.shortest .up).positional else ['i', 'n', 'f']
    String.ofList (if negative then '-' :: digits else digits)

end PluginCatalog
