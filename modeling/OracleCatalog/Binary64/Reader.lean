import OracleCatalog.Decimal.Numeral

/-!
# Reading binary numbers

The double nearest to a decimal number. A magnitude far outside the range of doubles is infinite or
zero and never computed.
-/

namespace OracleCatalog.Binary64

open OracleCatalog.Text

/-- The double nearest to `coefficient` times ten to `exponent`. -/
def ofScientific (coefficient : Nat) (exponent : Int) : Float :=
  let size := ((natDigits coefficient).length : Int) + exponent
  if coefficient = 0 || size < -400 then 0
  else if size > 400 then 1 / 0
  else Float.ofScientific coefficient (exponent < 0) exponent.natAbs

def ofDecimal : Decimal → Float
  | .finite negative coefficient exponent =>
    let x := ofScientific coefficient exponent
    if negative then -x else x
  | .infinite negative => if negative then -(1 / 0) else 1 / 0
  | .nan .. => 0 / 0

/-- The double that a decimal numeral writes. -/
def ofText? (s : String) : Option Float := (Decimal.read? s).map ofDecimal

end OracleCatalog.Binary64
