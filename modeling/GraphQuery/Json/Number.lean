import GraphQuery.Decimal.Double
import GraphQuery.Json.Basic
import GraphQuery.Text.Digits

/-! The values of JSON numbers. -/

set_option autoImplicit false

namespace GraphQuery.Json.Number

/-- Takes in digits behind a number as long as it stays within 64 bits; the rest is left. -/
def takeDigits (value : Nat) : List Char → Nat × List Char
  | [] => (value, [])
  | digit :: rest =>
    let next := value * 10 + Text.digitValue digit
    if next < UInt64.size then takeDigits next rest else (value, digit :: rest)

def scaled (number : Number) : Nat × Int :=
  let (value, dropped) := takeDigits 0 (Nat.toDigits 10 number.whole)
  let (value, unused) := takeDigits value number.fraction
  let places : Int := number.fraction.length - unused.length
  (value, dropped.length - places + number.exponent.getD 0)

def maxStep : Nat := 308

/-- The double that a number is read as, its sign left out, unless it is too large. The value
is multiplied or divided by rounded powers of ten. -/
def toDouble? (number : Number) : Option Double :=
  let (value, power) := number.scaled
  let start := Double.ofNat value
  if value = 0 then some .zero
  else if maxStep < power then none
  else if 0 ≤ power then
    let product := start.mul (.powerOfTen power.toNat)
    if product.isFinite then some product else none
  else
    let places := (-power).toNat
    if places ≤ maxStep then some (start.div (.powerOfTen places))
    else if places ≤ 2 * maxStep then
      some ((start.div (.powerOfTen maxStep)).div (.powerOfTen (places - maxStep)))
    else some .zero

/-- The number as an integer that 64 bits can hold, with a sign or without. Zero with a minus
sign is none. -/
def toInteger? (number : Number) : Option Int :=
  if !number.fraction.isEmpty || number.exponent.isSome then none
  else if number.negative then
    if 0 < number.whole && number.whole ≤ Nat.pow 2 63 then some (-number.whole) else none
  else if number.whole < UInt64.size then some number.whole else none

end GraphQuery.Json.Number
