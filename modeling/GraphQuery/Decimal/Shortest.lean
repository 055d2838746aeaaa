import GraphQuery.Decimal.Double

/-! The shortest decimal that reads back as a given double. -/

set_option autoImplicit false

namespace GraphQuery.Double

structure Decimal where
  digits : Nat
  exponent : Int
  deriving DecidableEq, Repr

def Decimal.compare (decimal : Decimal) (num den : Nat) : Ordering :=
  Ord.compare (decimal.digits * Nat.pow 10 decimal.exponent.toNat * den)
    (num * Nat.pow 10 (-decimal.exponent).toNat)

/-- The ends of the interval of numbers nearest to a positive double. Below a power of two the
doubles are twice as close. -/
def bounds (x : Double) : (Nat × Nat) × (Nat × Nat) :=
  let (num, den) := x.fraction
  let unit := Nat.pow 2 x.exponent.toNat
  let below :=
    if x.mantissa = Nat.pow 2 52 && minExponent < x.exponent then (4 * num - unit, 4 * den)
    else (2 * num - unit, 2 * den)
  (below, (2 * num + unit, 2 * den))

/-- Whether a decimal is read as this double. The ends of its interval belong to the double
with the even mantissa. -/
def isReadFrom (x : Double) (decimal : Decimal) : Bool :=
  let (low, high) := x.bounds
  let atLow := decimal.compare low.1 low.2
  let atHigh := decimal.compare high.1 high.2
  if x.mantissa % 2 = 0 then atLow != .lt && atHigh != .gt else atLow == .gt && atHigh == .lt

/-- The multiples of `10 ^ exponent` on both sides of a double, the nearer one first, and the
greater one first if both are equally near. -/
def neighbours (x : Double) (exponent : Int) : List Decimal :=
  let (num, den) := x.fraction
  let num := num * Nat.pow 10 (-exponent).toNat
  let den := den * Nat.pow 10 exponent.toNat
  let floor := num / den
  let below : Decimal := ⟨floor, exponent⟩
  let above : Decimal := ⟨floor + 1, exponent⟩
  if 2 * (num % den) < den then [below, above] else [above, below]

/-- The first grid, from coarse to fine, with a decimal that is read as the double. -/
def searchGrids (x : Double) (exponent : Int) : Nat → Option Decimal
  | 0 => none
  | fuel + 1 =>
    match (x.neighbours exponent).find? x.isReadFrom with
    | some found => some found
    | none => searchGrids x (exponent - 1) fuel

/-- Above this power of ten there is no double. -/
def maxPower : Int := 309

/-- Below this power of ten every grid meets the interval of every double. -/
def minPower : Int := -326

def shortest (x : Double) : Decimal :=
  if x.mantissa = 0 then ⟨0, 0⟩
  else (x.searchGrids maxPower (maxPower - minPower).toNat).getD ⟨0, 0⟩

/-- A decimal in positional notation. There is a point only if there are digits behind it. -/
def Decimal.positional (decimal : Decimal) : List Char :=
  let digits := Nat.toDigits 10 decimal.digits
  if 0 ≤ decimal.exponent then
    if decimal.digits = 0 then digits else digits ++ .replicate decimal.exponent.toNat '0'
  else
    let places := (-decimal.exponent).toNat
    let padded := .replicate (places + 1 - digits.length) '0' ++ digits
    let whole := padded.length - places
    padded.take whole ++ '.' :: padded.drop whole

def text (x : Double) : List Char :=
  x.shortest.positional

end GraphQuery.Double
