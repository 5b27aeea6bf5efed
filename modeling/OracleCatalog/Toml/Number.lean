import OracleCatalog.Binary64.Reader
import OracleCatalog.Toml.Text
import OracleCatalog.Value.Basic

/-!
# Numbers in TOML

An integer is written in decimal with an optional sign and no leading zero, or with base sixteen,
eight or two and no sign. Underscores stand between digits only. A fraction or an exponent makes a
number binary. A number ends where its form ends.
-/

namespace OracleCatalog.Toml

open OracleCatalog.Text (isDigitIn valueIn)

/-- Why a document is not read. -/
inductive Failure where
  | malformed
  /-- An integer in decimal has more digits than are allowed. -/
  | tooLong (digits : Nat)
  deriving DecidableEq

/-- What was read; nothing was read of malformed input. -/
def Failure.lift {α : Type} : Option α → Except Failure α
  | some read => .ok read
  | none => .error .malformed

/-- The digits of a base from the first character on, without the single underscores between them,
and what follows. -/
def digits (base : Nat) : List Char → List Char × List Char
  | [] => ([], [])
  | ['_'] => ([], ['_'])
  | '_' :: c :: cs =>
    if isDigitIn base c then
      let (more, rest) := digits base cs
      (c :: more, rest)
    else ([], '_' :: c :: cs)
  | c :: cs =>
    if isDigitIn base c then
      let (more, rest) := digits base cs
      (c :: more, rest)
    else ([], c :: cs)

def someDigits (base : Nat) (cs : List Char) : Option (List Char × List Char) :=
  match cs with
  | '_' :: _ => none
  | cs =>
    let (read, rest) := digits base cs
    if read.isEmpty then none else some (read, rest)

/-- A number with base sixteen, eight or two. -/
def based : Reader Value
  | '0' :: mark :: cs =>
    let base := if mark = 'x' then 16 else if mark = 'o' then 8 else if mark = 'b' then 2 else 0
    if base = 0 then none
    else (someDigits base cs).map fun (read, rest) => (.int (valueIn base read), rest)
  | _ => none

/-- The digits before the point: a zero alone, or digits without a leading zero. -/
def wholePart (cs : List Char) : Option (List Char × List Char) :=
  match cs with
  | '0' :: rest => some (['0'], rest)
  | cs => someDigits 10 cs

/-- The fraction of a number, nothing where there is none. -/
def fractionPart (cs : List Char) : List Char × List Char :=
  match cs with
  | '.' :: more =>
    match someDigits 10 more with
    | some (read, rest) => ('.' :: read, rest)
    | none => ([], cs)
  | cs => ([], cs)

/-- The sign at the start, nothing where there is none. -/
def signPart : List Char → List Char × List Char
  | '-' :: cs => (['-'], cs)
  | '+' :: cs => (['+'], cs)
  | cs => ([], cs)

/-- The exponent of a number, nothing where there is none. -/
def exponentPart (cs : List Char) : List Char × List Char :=
  match cs with
  | mark :: more =>
    if mark = 'e' || mark = 'E' then
      let (sign, more) := signPart more
      match someDigits 10 more with
      | some (read, rest) => ('e' :: sign ++ read, rest)
      | none => ([], cs)
    else ([], cs)
  | [] => ([], [])

def integer (sign digits : List Char) : Except Failure Value :=
  if Text.digitLimit < digits.length then .error (.tooLong digits.length)
  else .ok (.int (if sign = ['-'] then -(valueIn 10 digits : Int) else valueIn 10 digits))

/-- A number in decimal that starts with its digits. -/
def decimal (sign cs : List Char) : Except Failure (Value × List Char) := do
  let (whole, rest) ← Failure.lift (wholePart cs)
  let (fraction, rest) := fractionPart rest
  let (exponent, rest) := exponentPart rest
  if fraction.isEmpty && exponent.isEmpty then return (← integer sign whole, rest)
  else
    let x ← Failure.lift
      (Binary64.ofText? (String.ofList (sign ++ whole ++ fraction ++ exponent)))
    return (.float x, rest)

def number (cs : List Char) : Except Failure (Value × List Char) :=
  let (sign, unsigned) := signPart cs
  match based cs, unsigned with
  | some read, _ => .ok read
  | none, 'i' :: 'n' :: 'f' :: rest =>
    .ok (.float (if sign = ['-'] then -(1 / 0) else 1 / 0), rest)
  | none, 'n' :: 'a' :: 'n' :: rest => .ok (.float (0 / 0), rest)
  | none, unsigned => decimal sign unsigned

end OracleCatalog.Toml
