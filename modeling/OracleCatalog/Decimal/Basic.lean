import OracleCatalog.Text.Numeral

/-!
# Decimal numbers

A decimal number is a signed coefficient times a power of ten, an infinity, or not a number. The
exponent is part of the number: `1.0` and `1.00` are equal in value and differ in text.

Quotients are rounded to the nearest integer, and to the even one on a tie. So are numbers that are
written with one place behind the point.
-/

namespace OracleCatalog

/-- A decimal number as the database delivers it. -/
inductive Decimal where
  | finite (negative : Bool) (coefficient : Nat) (exponent : Int)
  | infinite (negative : Bool)
  /-- Not a number; the payload is zero when none was given. -/
  | nan (negative signaling : Bool) (payload : Nat)
  deriving DecidableEq, Inhabited

/-- What an operation on decimal numbers signals. -/
inductive Decimal.Signal where
  /-- The operation has no result, as an order with what is not a number. -/
  | invalidOperation
  /-- The result is too large. -/
  | overflow
  deriving DecidableEq

namespace Decimal

def isZero : Decimal → Bool
  | .finite _ coefficient _ => coefficient == 0
  | _ => false

/-- The largest exponent that the first digit of a number may have. -/
def largestExponent : Int := 999999999999999999

/-- The least exponent that the last digit of a number may have. -/
def leastExponent : Int := -1999999999999999997

/-- The magnitude without its fractional part. -/
def wholePart (coefficient : Nat) (exponent : Int) : Nat :=
  match exponent with
  | .ofNat n => if coefficient = 0 then 0 else coefficient * Nat.pow 10 n
  | .negSucc n => if coefficient.log2 < n + 1 then 0 else coefficient / Nat.pow 10 (n + 1)

/-- A zero needs no power of ten, so the early answer of `wholePart` is exact. -/
theorem wholePart_ofNat (coefficient n : Nat) :
    wholePart coefficient (.ofNat n) = coefficient * Nat.pow 10 n := by
  show (if coefficient = 0 then 0 else coefficient * Nat.pow 10 n) = _
  split
  · simp_all
  · rfl

/-- A coefficient below `10 ^ n` leaves nothing, so the early answer of `wholePart` is exact. -/
theorem wholePart_negSucc (coefficient n : Nat) :
    wholePart coefficient (.negSucc n) = coefficient / Nat.pow 10 (n + 1) := by
  show (if coefficient.log2 < n + 1 then 0 else coefficient / Nat.pow 10 (n + 1)) = _
  split
  · rename_i h
    rw [eq_comm, Nat.div_eq_zero_iff]
    right
    by_cases h0 : coefficient = 0
    · subst h0
      exact Nat.pow_pos (by decide)
    · have h1 : coefficient < Nat.pow 2 (n + 1) := (Nat.log2_lt h0).1 h
      exact Nat.lt_of_lt_of_le h1 (Nat.pow_le_pow_left (by decide) _)
  · rfl

end Decimal

/-! ### Rounding -/

open OracleCatalog.Text

/-- The quotient rounded to the nearest integer, a tie to the even one. -/
def roundDiv (numerator denominator : Nat) : Nat :=
  let below := numerator / denominator
  let rest := 2 * (numerator % denominator)
  if rest < denominator || (rest = denominator && below % 2 == 0) then below else below + 1

/-- A number of tenths, with one place behind the point. -/
def tenthsText (negative : Bool) (tenths : Nat) : String :=
  (if negative then "-" else "") ++ natText (tenths / 10) ++ "." ++ natText (tenths % 10)

end OracleCatalog
