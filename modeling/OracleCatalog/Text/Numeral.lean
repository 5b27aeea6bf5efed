import OracleCatalog.Text.Character

/-!
# Integer numerals

Integers are written in decimal. They are read with blanks around, a sign, digits of any script and
single underscores between digits. Digits of other bases, up to sixteen, write integers too, and
characters by their code.
-/

namespace OracleCatalog.Text

/-! ### Writing -/

/-- The decimal digit below ten. -/
def digitChar (d : Nat) : Char := Char.ofNat (48 + d)

/-- The digits of `n` put before `tail`; `fuel` bounds their number. -/
def digitsBefore : Nat → Nat → List Char → List Char
  | 0, _, tail => tail
  | fuel + 1, n, tail =>
    let tail := digitChar (n % 10) :: tail
    if n < 10 then tail else digitsBefore fuel (n / 10) tail

/-- The decimal digits of a natural number, without leading zeros. -/
def natDigits (n : Nat) : List Char := digitsBefore (n.log2 + 1) n []

/-- A natural number in decimal. -/
def natText (n : Nat) : String := String.ofList (natDigits n)

/-- An integer in decimal. -/
def intText (i : Int) : String :=
  if i < 0 then "-" ++ natText i.natAbs else natText i.natAbs

/-- The digits with zeros in front up to the width. -/
def padDigits (width : Nat) (cs : List Char) : List Char :=
  List.replicate (width - cs.length) '0' ++ cs

/-- The hexadecimal digits of `n` in the given width. -/
def hexDigits (width n : Nat) : List Char :=
  (List.range width).reverse.map fun i => Nat.digitChar (n / Nat.pow 16 i % 16)

/-! ### Reading -/

/-- Blanks that may surround a numeral: all but the information separators. -/
def isNumeralBlank (c : Char) : Bool := isBlank c && !(0x1C ≤ c.toNat && c.toNat ≤ 0x1F)

/-- The most digits that an integer numeral may have. -/
def digitLimit : Nat := 4300

/-- What a text comes to that is read as an integer numeral. -/
inductive NumeralReading where
  | integer (value : Int)
  | malformed
  /-- The numeral has more digits than are allowed; what follows them is not looked at. -/
  | tooLong (digits : Nat)
  deriving DecidableEq, Inhabited

/-- The digits at the start of a numeral and what follows them, none where an underscore does not
stand between two digits; `ready` says that a digit stands before. -/
def digitRun (ready : Bool) : List Char → Option (List Nat × List Char)
  | [] => if ready then some ([], []) else none
  | c :: cs =>
    if c = '_' then if ready then digitRun false cs else none
    else
      match decimalDigit? c with
      | some d => (digitRun true cs).map fun (digits, rest) => (d :: digits, rest)
      | none => if ready then some ([], c :: cs) else none

/-- The number that digits write. -/
def digitsValue (digits : List Nat) : Nat := digits.foldl (fun n d => 10 * n + d) 0

def readMagnitude (negative : Bool) (cs : List Char) : NumeralReading :=
  match digitRun false cs with
  | none => .malformed
  | some (digits, rest) =>
    if digitLimit < digits.length then .tooLong digits.length
    else if rest.all isNumeralBlank then
      .integer (if negative then -(digitsValue digits : Int) else digitsValue digits)
    else .malformed

def readInteger (s : String) : NumeralReading :=
  match s.toList.dropWhile isNumeralBlank with
  | '-' :: cs => readMagnitude true cs
  | '+' :: cs => readMagnitude false cs
  | cs => readMagnitude false cs

/-! ### Digits of other bases -/

def digitValue (c : Char) : Nat := if c.isDigit then c.toNat - 48 else c.toLower.toNat - 87

/-- Whether the character is a digit in a base up to sixteen. -/
def isDigitIn (base : Nat) (c : Char) : Bool :=
  (c.isDigit || ('a' ≤ c.toLower && c.toLower ≤ 'f')) && digitValue c < base

def valueIn (base : Nat) (cs : List Char) : Nat :=
  cs.foldl (fun n c => base * n + digitValue c) 0

/-- The character that hexadecimal digits name. -/
def charOfCode (digits : List Char) : Option Char :=
  if digits.all (isDigitIn 16) && Nat.isValidChar (valueIn 16 digits) then
    some (Char.ofNat (valueIn 16 digits))
  else none

/-! ### Integers in other bases -/

def baseLetter (base : Nat) : Option Char :=
  if base = 2 then some 'b' else if base = 8 then some 'o' else if base = 16 then some 'x' else none

/-- What follows the mark of the base; the mark may be left out. -/
def pastBaseMark (base : Nat) : List Char → List Char
  | '0' :: c :: cs => if some c.toLower = baseLetter base then cs else '0' :: c :: cs
  | cs => cs

/-- The natural number that digits of a base write, with blanks behind. -/
def naturalIn (base : Nat) (cs : List Char) : Option Nat :=
  let digit (c : Char) : Char := ((decimalDigit? c).map digitChar).getD c
  let digits := ((pastBaseMark base cs).map digit).takeWhile (isDigitIn base)
  let rest := (pastBaseMark base cs).drop digits.length
  if digits.isEmpty || !rest.all isNumeralBlank then none else some (valueIn base digits)

/-- The integer that a text writes in a base other than ten, with blanks around. -/
def integerIn (base : Nat) (s : String) : Option Int :=
  match s.toList.dropWhile isNumeralBlank with
  | '-' :: cs => (naturalIn base cs).map fun n => -(n : Int)
  | '+' :: cs => (naturalIn base cs).map Int.ofNat
  | cs => (naturalIn base cs).map Int.ofNat

end OracleCatalog.Text
