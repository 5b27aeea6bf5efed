import OracleCatalog.Binary64.Shortest
import OracleCatalog.Decimal.Basic

/-!
# Writing binary numbers

Two formats: the shortest digits that read back, laid out by a `Layout`, and a fixed number of
places behind the point, rounded to the nearest and to the even digit on a tie.
-/

namespace OracleCatalog.Binary64

open OracleCatalog.Text

/-! ### Shortest digits -/

/-- How shortest digits are laid out. -/
structure Layout where
  /-- The least exponent of the first digit that is written positionally. -/
  least : Int
  /-- The first exponent of the first digit that is no longer written positionally. -/
  limit : Int
  /-- What a positional whole number ends in. -/
  wholeMark : String
  /-- What stands before the exponent. -/
  exponentMark : String
  /-- The least number of digits of the exponent. -/
  exponentWidth : Nat

/-- Digits whose first has the exponent `first`, positionally. -/
def Layout.positional (layout : Layout) (digits : List Char) (first : Int) : String :=
  if first < 0 then
    "0." ++ String.ofList (List.replicate (first.natAbs - 1) '0' ++ digits)
  else
    let whole := first.toNat + 1
    if digits.length ≤ whole then
      String.ofList (digits ++ List.replicate (whole - digits.length) '0') ++ layout.wholeMark
    else String.ofList (digits.take whole ++ '.' :: digits.drop whole)

/-- Digits whose first has the exponent `first`, with an exponent. -/
def Layout.scientific (layout : Layout) (digits : List Char) (first : Int) : String :=
  let head := if digits.length ≤ 1 then digits else digits.take 1 ++ '.' :: digits.drop 1
  String.ofList head ++ layout.exponentMark ++ (if first < 0 then "-" else "+") ++
    String.ofList (padDigits layout.exponentWidth (natDigits first.natAbs))

def Layout.magnitude (layout : Layout) (mantissa : Nat) (exponent : Int) : String :=
  if mantissa = 0 then "0" ++ layout.wholeMark
  else
    let (value, power) := shortest mantissa exponent
    let digits := natDigits value
    let first := power + digits.length - 1
    if layout.least ≤ first && first < layout.limit then layout.positional digits first
    else layout.scientific digits first

def Layout.text (layout : Layout) (x : Float) : String :=
  match read x with
  | .nan => "nan"
  | .infinite negative => if negative then "-inf" else "inf"
  | .finite negative mantissa exponent =>
    (if negative then "-" else "") ++ layout.magnitude mantissa exponent

/-- Numbers are positional from `0.0001` to below `10 ^ 16` and keep a place behind the point;
exponents have a sign and two digits. -/
def plainLayout : Layout :=
  { least := -4, limit := 16, wholeMark := ".0", exponentMark := "e", exponentWidth := 2 }

def toText (x : Float) : String := plainLayout.text x

/-! ### Fixed places -/

def onePlace (negative : Bool) (numerator denominator : Nat) : String :=
  tenthsText negative (roundDiv (10 * numerator) denominator)

end OracleCatalog.Binary64
