/-! Numbers of double precision without their sign, as exact multiples of powers of two. -/

set_option autoImplicit false

namespace GraphQuery

/-- The number `mantissa * 2 ^ exponent`. -/
structure Double where
  mantissa : Nat
  exponent : Int
  deriving DecidableEq, Repr

namespace Double

def zero : Double := ⟨0, 0⟩

def overPower (num den : Nat) (power : Int) : Nat × Nat :=
  (num * Nat.pow 2 (-power).toNat, den * Nat.pow 2 power.toNat)

/-- The nearest integer to a fraction, and the even one of two. -/
def nearestEven (num den : Nat) : Nat :=
  let floor := num / den
  let rest := 2 * (num % den)
  if rest < den then floor
  else if den < rest then floor + 1
  else floor + floor % 2

def floorLog2 (num den : Nat) : Int :=
  let guess := (num.log2 : Int) - den.log2
  let (num, den) := overPower num den guess
  if den ≤ num then guess else guess - 1

def minExponent : Int := -1074

def maxExponent : Int := 971

/-- The nearest double to a fraction, a tie going to the even mantissa. -/
def ofFraction (num den : Nat) : Double :=
  if num = 0 then zero
  else
    let exponent := max (floorLog2 num den - 52) minExponent
    let (num, den) := overPower num den exponent
    let mantissa := nearestEven num den
    if mantissa = Nat.pow 2 53 then ⟨Nat.pow 2 52, exponent + 1⟩ else ⟨mantissa, exponent⟩

def ofNat (n : Nat) : Double :=
  ofFraction n 1

def fraction (x : Double) : Nat × Nat :=
  (x.mantissa * Nat.pow 2 x.exponent.toNat, Nat.pow 2 (-x.exponent).toNat)

def mul (x y : Double) : Double :=
  ofFraction (x.fraction.1 * y.fraction.1) (x.fraction.2 * y.fraction.2)

def div (x y : Double) : Double :=
  ofFraction (x.fraction.1 * y.fraction.2) (x.fraction.2 * y.fraction.1)

def powerOfTen (n : Nat) : Double :=
  ofNat (Nat.pow 10 n)

def isFinite (x : Double) : Bool :=
  x.exponent ≤ maxExponent

def round (x : Double) : Nat :=
  (2 * x.fraction.1 + x.fraction.2) / (2 * x.fraction.2)

end Double
end GraphQuery
