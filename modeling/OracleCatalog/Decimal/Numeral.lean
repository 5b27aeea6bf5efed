import OracleCatalog.Decimal.Basic
import OracleCatalog.Text.Numeral

/-!
# Decimal numerals

A decimal numeral has an optional sign, digits of any script with at most one point among them, and
an optional exponent; or it spells an infinity or a number that is none, in any letter case.
Underscores may stand anywhere and blanks around.

A finite number is written with all digits of its coefficient. It is written positionally when its
exponent is not positive and it has at most six zeros behind the point, and with one digit before
the point and an exponent otherwise.
-/

namespace OracleCatalog.Decimal

open OracleCatalog.Text

/-! ### Characters -/

/-- A character of a numeral in seven bits: other scripts' digits become `0` to `9`. -/
def plainChar (c : Char) : Option Char :=
  if c.toNat < 0x80 then if c.toNat = 0 then none else some c
  else (decimalDigit? c).map digitChar

/-- The numeral in seven bits, without underscores and without blanks around. -/
def plainNumeral (s : String) : Option (List Char) :=
  ((trimBoth isBlank s.toList).filter (· ≠ '_')).mapM plainChar

def digitsValue (cs : List Char) : Nat := cs.foldl (fun n c => 10 * n + (c.toNat - 48)) 0

/-! ### Numerals -/

def readExponent : List Char → Option Int
  | '-' :: cs => if !cs.isEmpty && cs.all Char.isDigit then some (-(digitsValue cs : Int)) else none
  | '+' :: cs => if !cs.isEmpty && cs.all Char.isDigit then some (digitsValue cs) else none
  | cs => if !cs.isEmpty && cs.all Char.isDigit then some (digitsValue cs) else none

/-- The exponent part at the end of a numeral, zero where it is left out. -/
def readExponentPart : List Char → Option Int
  | [] => some 0
  | c :: cs => if c = 'e' || c = 'E' then readExponent cs else none

/-- A numeral without sign that starts with digits or the point. -/
def readDigitsAndExponent (negative : Bool) (cs : List Char) : Option Decimal :=
  let whole := cs.takeWhile Char.isDigit
  let rest := cs.dropWhile Char.isDigit
  let (places, rest) :=
    match rest with
    | '.' :: rest => (rest.takeWhile Char.isDigit, rest.dropWhile Char.isDigit)
    | rest => ([], rest)
  if whole.isEmpty && places.isEmpty then none
  else
    (readExponentPart rest).map fun exponent =>
      .finite negative (digitsValue (whole ++ places)) (exponent - places.length)

/-- A numeral without sign. -/
def readUnsigned (negative : Bool) (cs : List Char) : Option Decimal :=
  let small := cs.map Char.toLower
  if small = "inf".toList || small = "infinity".toList then some (.infinite negative)
  else if "nan".toList.isPrefixOf small then
    let payload := small.drop 3
    if payload.all Char.isDigit then some (.nan negative false (digitsValue payload)) else none
  else if "snan".toList.isPrefixOf small then
    let payload := small.drop 4
    if payload.all Char.isDigit then some (.nan negative true (digitsValue payload)) else none
  else readDigitsAndExponent negative cs

/-- The decimal number that a text writes. -/
def read? (s : String) : Option Decimal :=
  match plainNumeral s with
  | some ('-' :: cs) => readUnsigned true cs
  | some ('+' :: cs) => readUnsigned false cs
  | some cs => readUnsigned false cs
  | none => none

/-! ### Writing -/

/-- The digits with a point `place` digits from the left; a place outside is reached by zeros. -/
def placePoint (digits : List Char) (place : Int) : List Char :=
  if place ≤ 0 then '0' :: '.' :: List.replicate place.natAbs '0' ++ digits
  else if (digits.length : Int) ≤ place then
    digits ++ List.replicate (place.toNat - digits.length) '0'
  else digits.take place.toNat ++ '.' :: digits.drop place.toNat

/-- The exponent behind its mark, with its sign. -/
def exponentPart (exponent : Int) : List Char :=
  'E' :: (if exponent < 0 then '-' else '+') :: natDigits exponent.natAbs

def magnitude (coefficient : Nat) (exponent : Int) : List Char :=
  let digits := natDigits coefficient
  let left := exponent + digits.length
  let place := if exponent ≤ 0 && -6 < left then left else 1
  placePoint digits place ++ if left = place then [] else exponentPart (left - place)

def toText : Decimal → String
  | .finite negative coefficient exponent =>
    (if negative then "-" else "") ++ String.ofList (magnitude coefficient exponent)
  | .infinite negative => (if negative then "-" else "") ++ "Infinity"
  | .nan negative signaling payload =>
    (if negative then "-" else "") ++ (if signaling then "sNaN" else "NaN") ++
      (if payload = 0 then "" else natText payload)

/-- Whether the exponents of a number are in the range of decimal numbers. -/
def isInRange : Decimal → Bool
  | .finite _ coefficient exponent =>
    leastExponent ≤ exponent &&
      exponent + (natDigits coefficient).length - 1 ≤ largestExponent
  | _ => true

/-! ### Fixed places -/

/-- The magnitude of a finite number in tenths, rounded. -/
def tenths (coefficient : Nat) (exponent : Int) : Nat :=
  match exponent + 1 with
  | .ofNat n => if coefficient = 0 then 0 else coefficient * Nat.pow 10 n
  | .negSucc n =>
    if coefficient.log2 + 1 < n then 0 else roundDiv coefficient (Nat.pow 10 (n + 1))

def onePlace : Decimal → String
  | .finite negative coefficient exponent => tenthsText negative (tenths coefficient exponent)
  | d => d.toText

end OracleCatalog.Decimal
