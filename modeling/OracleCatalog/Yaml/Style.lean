import OracleCatalog.Value.Printer
import OracleCatalog.Yaml.Plain
import OracleCatalog.Yaml.Scalar

/-!
# Styles of scalars

A text is written plain where it reads back as itself without quotes, else between single quotes
where these can hold it, else between double quotes.
-/

namespace OracleCatalog.Yaml

open OracleCatalog.Text

/-- How a text is written. -/
inductive Style where
  | plain | single | double
  deriving DecidableEq, Inhabited

/-! ### What a text is made of -/

/-- Whether the character needs an escape. The last code point of all counts as such. -/
def isSpecial (c : Char) : Bool :=
  let n := c.toNat
  !(n = 10 || (0x20 ≤ n && n ≤ 0x7E) || n = 0x85 || (0xA0 ≤ n && n ≤ 0xFFFD) ||
    (0x10000 ≤ n && n < 0x10FFFF)) || c = '\uFEFF'

/-- Whether a space and a line end stand side by side. -/
def hasSpaceAtBreak : List Char → Bool
  | c :: d :: cs =>
    (c = ' ' && isBreak d) || (isBreak c && d = ' ') || hasSpaceAtBreak (d :: cs)
  | _ => false

/-- Whether a colon before a blank or a comment stands behind the first character. -/
def hasMark : List Char → Bool
  | c :: d :: cs =>
    (d = ':' && isGap cs) || (d = '#' && isGap [c]) || hasMark (d :: cs)
  | _ => false

def startsOther (cs : List Char) : Bool :=
  "---".toList.isPrefixOf cs || "...".toList.isPrefixOf cs || !startsPlain false cs

/-- Whether single quotes can hold the characters. -/
def fitsSingle (cs : List Char) : Bool := !cs.any isSpecial && !hasSpaceAtBreak cs

/-- Whether the characters can stand without quotes. -/
def fitsPlain (cs : List Char) : Bool :=
  fitsSingle cs && !cs.any isBreak && cs.getLast? ≠ some ' ' && !startsOther cs && !hasMark cs

def Style.of (s : String) : Style :=
  if Kind.ofText s = .text && fitsPlain s.toList then .plain
  else if fitsSingle s.toList then .single
  else .double

/-! ### Escapes -/

/-- The escapes that are written; the others are read only. -/
def writtenEscapes : List (Char × Char) := [
  ('\x00', '0'), ('\x07', 'a'), ('\x08', 'b'), ('\t', 't'), ('\n', 'n'), ('\x0B', 'v'),
  ('\x0C', 'f'), ('\r', 'r'), ('\x1B', 'e'), ('"', '"'), ('\\', '\\'), ('\x85', 'N'),
  ('\xA0', '_'), ('\u2028', 'L'), ('\u2029', 'P')]

def isEscaped (c : Char) : Bool :=
  let n := c.toNat
  ['"', '\\', '\x85', '\u2028', '\u2029', '\uFEFF'].contains c ||
    !((0x20 ≤ n && n ≤ 0x7E) || (0xA0 ≤ n && n ≤ 0xFFFD))

def escapeText (c : Char) : String :=
  match writtenEscapes.lookup c with
  | some letter => String.ofList ['\\', letter]
  | none =>
    let hex (width : Nat) : List Char := (hexDigits width c.toNat).map Char.toUpper
    if c.toNat ≤ 0xFF then String.ofList ('\\' :: 'x' :: hex 2)
    else if c.toNat ≤ 0xFFFF then String.ofList ('\\' :: 'u' :: hex 4)
    else String.ofList ('\\' :: 'U' :: hex 8)

/-! ### Words and blanks -/

/-- A part of a text: a run of spaces, of line ends, or of other characters. -/
inductive Run where
  | spaces (count : Nat)
  | breaks (ends : List Char)
  | word (chars : List Char)
  deriving DecidableEq, Inhabited

/-- The runs of a text, `c` before them joined to the first one. -/
def Run.prepend (c : Char) (runs : List Run) : List Run :=
  if c = ' ' then
    match runs with
    | .spaces count :: runs => .spaces (count + 1) :: runs
    | runs => .spaces 1 :: runs
  else if isBreak c then
    match runs with
    | .breaks ends :: runs => .breaks (c :: ends) :: runs
    | runs => .breaks [c] :: runs
  else
    match runs with
    | .word chars :: runs => .word (c :: chars) :: runs
    | runs => .word [c] :: runs

def runs : List Char → List Run
  | [] => []
  | c :: cs => Run.prepend c (runs cs)

end OracleCatalog.Yaml
