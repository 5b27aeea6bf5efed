import OracleCatalog.Decimal.Basic

/-!
# Sums of decimal numbers

A sum keeps the smaller exponent of its two parts as long as it fits into twenty-eight digits, and
is rounded to so many digits otherwise. Its exponents are bounded: a sum that is too large is a
fault, and the digits of one that is too small are rounded away.
-/

namespace OracleCatalog.Decimal

open OracleCatalog.Text

def sumDigits : Nat := 28

/-- The largest exponent that the first digit of a sum may have. -/
def largestSum : Int := 999999

/-- The least exponent that the last digit of a sum may have. -/
def leastSum : Int := -1000026

/-- How many digits a number has. -/
def width (n : Nat) : Nat := (natDigits n).length

/-- A number that has been rounded to one digit more than a sum keeps loses its last digit, which is
a zero. -/
def carried (negative : Bool) (coefficient : Nat) (exponent : Int) : Except Signal Decimal :=
  let (coefficient, exponent) :=
    if sumDigits < width coefficient then (coefficient / 10, exponent + 1)
    else (coefficient, exponent)
  if largestSum < exponent + width coefficient - 1 then .error .overflow
  else .ok (.finite negative coefficient exponent)

/-- A number within the digits and exponents of a sum. -/
def fitted (negative : Bool) (coefficient : Nat) (exponent : Int) : Except Signal Decimal :=
  let least := max (exponent + width coefficient - sumDigits) leastSum
  if coefficient = 0 then
    .ok (.finite negative 0 (max leastSum (min exponent largestSum)))
  else if largestSum < exponent + width coefficient - 1 then .error .overflow
  else if least ≤ exponent then .ok (.finite negative coefficient exponent)
  else if exponent + width coefficient < least then .ok (.finite negative 0 least)
  else carried negative (roundDiv coefficient (Nat.pow 10 (least - exponent).toNat)) least

/-- The coefficients of two magnitudes at one exponent, where the first has the larger one. A second
magnitude that is too small to be seen in the sum stands for the smallest that is not. -/
def aligned (a : Nat) (e : Int) (b : Nat) (f : Int) : Nat × Nat × Int :=
  let seen := e + min (-1) ((width a : Int) - sumDigits - 2)
  let (b, f) := if f + width b - 1 < seen then (1, seen) else (b, f)
  (a * Nat.pow 10 (e - f).toNat, b, f)

/-- An integer with its sign, and a zero with the sign given. -/
def ofCoefficient (zeroNegative : Bool) (coefficient exponent : Int) : Except Signal Decimal :=
  fitted (if coefficient = 0 then zeroNegative else coefficient < 0) coefficient.natAbs exponent

/-- The sum of two finite numbers of which neither is zero. -/
def sumAligned (negative : Bool) (a : Nat) (e : Int) (negative' : Bool) (b : Nat) (f : Int) :
    Except Signal Decimal :=
  let sign (negative : Bool) (n : Nat) : Int := if negative then -(n : Int) else n
  if f ≤ e then
    let (a, b, g) := aligned a e b f
    let sum := sign negative a + sign negative' b
    ofCoefficient false sum (if sum = 0 then f else g)
  else
    let (b, a, g) := aligned b f a e
    let sum := sign negative a + sign negative' b
    ofCoefficient false sum (if sum = 0 then e else g)

/-- A number with as many places as a zero of the exponent `f` asks for and a sum can show. -/
def placed (negative : Bool) (a : Nat) (e f : Int) : Except Signal Decimal :=
  let g := max (min e f) (e - sumDigits - 1)
  fitted negative (a * Nat.pow 10 (e - g).toNat) g

/-- What is not a number, with the digits that a sum keeps of it. -/
def quieted (negative : Bool) (payload : Nat) : Decimal :=
  .nan negative false (payload % Nat.pow 10 sumDigits)

def sum : Decimal → Decimal → Except Signal Decimal
  | .nan _ true _, _ => .error .invalidOperation
  | _, .nan _ true _ => .error .invalidOperation
  | .nan negative false payload, _ => .ok (quieted negative payload)
  | _, .nan negative false payload => .ok (quieted negative payload)
  | .infinite s, .infinite t => if s = t then .ok (.infinite s) else .error .invalidOperation
  | .infinite s, _ => .ok (.infinite s)
  | _, .infinite s => .ok (.infinite s)
  | .finite s a e, .finite t b f =>
    if a = 0 && b = 0 then fitted (s && t) 0 (min e f)
    else if a = 0 then placed t b f e
    else if b = 0 then placed s a e f
    else sumAligned s a e t b f

end OracleCatalog.Decimal
