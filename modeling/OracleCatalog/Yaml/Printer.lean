import OracleCatalog.Text.Base64
import OracleCatalog.Yaml.Style

/-!
# Writing YAML

Values are written in block style: an entry of a map or an item of a list on a line of its own,
members behind two spaces, lists at the place of their key. Empty collections stand on one line, and
long texts are broken at single spaces. A key that is long or has several lines stands behind a
question mark.
-/

namespace OracleCatalog.Yaml

open OracleCatalog.Text

/-! ### The pen -/

/-- The text so far, and what matters of it for what comes next. -/
structure Pen where
  text : String := ""
  column : Nat := 0
  /-- Whether the last thing needs no space behind it. -/
  spaced : Bool := true
  /-- Whether there is nothing on the line but its indentation and dashes. -/
  fresh : Bool := true
  /-- Whether the end of the document would not show. -/
  isOpen : Bool := false
  deriving Inhabited

namespace Pen

def width : Nat := 80

def write (s : String) (pen : Pen) : Pen :=
  { pen with text := pen.text ++ s, column := pen.column + s.length }

def endLine (c : Char) (pen : Pen) : Pen :=
  { pen with text := pen.text.push c, column := 0, spaced := true, fresh := true }

/-- Goes to a column of a line without anything else on it. -/
def indent (column : Nat) (pen : Pen) : Pen :=
  let pen :=
    if !pen.fresh || column < pen.column || (pen.column = column && !pen.spaced) then
      pen.endLine '\n'
    else pen
  if pen.column < column then
    { pen.write (String.ofList (List.replicate (column - pen.column) ' ')) with spaced := true }
  else pen

/-- Writes a mark, which may need a space before it. Behind it a new block collection can start on
the line only where `inner` says so. -/
def mark (s : String) (apart inner : Bool) (pen : Pen) : Pen :=
  let pen' := pen.write (if pen.spaced || !apart then s else " " ++ s)
  { pen' with spaced := false, fresh := pen.fresh && inner, isOpen := false }

/-- The pen behind a visible character. -/
def touched (pen : Pen) : Pen := { pen with spaced := false, fresh := false }

end Pen

/-! ### Scalars -/

/-- Where a scalar stands. -/
structure Spot where
  /-- The column of its further lines. -/
  column : Nat
  /-- Whether its line may be broken, which that of a key before its colon may not. -/
  breakable : Bool

/-- A run of spaces; a single space beyond the width becomes a line end. -/
def writeSpaces (spot : Spot) (inside : Bool) (count : Nat) (pen : Pen) : Pen :=
  if count = 1 && Pen.width < pen.column && spot.breakable && inside then pen.indent spot.column
  else pen.write (String.ofList (List.replicate count ' '))

/-- A plain text on one line. -/
def writePlain (spot : Spot) (s : String) (pen : Pen) : Pen :=
  let pen := (if pen.spaced then pen else pen.write " ").touched
  (runs s.toList).foldl (fun pen run =>
    match run with
    | .spaces count => (writeSpaces spot true count pen).touched
    | .breaks ends => pen.write (String.ofList ends)
    | .word chars => pen.write (String.ofList chars)) pen

/-- Line ends inside single quotes, where one alone would be folded to a space. -/
def writeBreaks (spot : Spot) (ends : List Char) (pen : Pen) : Pen :=
  let pen := if ends.head? = some '\n' then pen.endLine '\n' else pen
  (ends.foldl (fun pen c => pen.endLine c) pen).indent spot.column

/-- The runs of a text between single quotes; `first` says that nothing comes before them. -/
def writeSingleRuns (spot : Spot) : Bool → List Run → Pen → Pen
  | _, [], pen => pen
  | first, run :: rest, pen =>
    writeSingleRuns spot false rest <|
      match run with
      | .spaces count => writeSpaces spot (!first && !rest.isEmpty) count pen
      | .breaks ends => writeBreaks spot ends pen
      | .word chars => pen.write (String.ofList (double '\'' chars))

/-- A text between single quotes. -/
def writeSingle (spot : Spot) (s : String) (pen : Pen) : Pen :=
  (writeSingleRuns spot true (runs s.toList) (pen.mark "'" true false)).mark "'" false false

/-- A line end between double quotes, escaped so that it does not count. A space behind it would be
dropped and is escaped too. -/
def writeFold (spot : Spot) (spaceNext : Bool) (pen : Pen) : Pen :=
  let pen := ((pen.write "\\").indent spot.column).touched
  if spaceNext then pen.write "\\" else pen

/-- What stands before a character between double quotes. -/
inductive Before where
  | quote | escape | other
  deriving DecidableEq, Inhabited

/-- The characters of a text between double quotes. A line may end at a space or next to an escape,
but not next to a quote. -/
def writeDoubleChars (spot : Spot) : Before → List Char → Pen → Pen
  | _, [], pen => pen
  | before, c :: cs, pen =>
    let inside := before ≠ .quote && !cs.isEmpty && spot.breakable
    if isEscaped c then
      let pen := pen.write (escapeText c)
      let folds := inside && Pen.width + 1 < pen.column
      writeDoubleChars spot .escape cs
        (if folds then writeFold spot (cs.head? = some ' ') pen else pen)
    else
      let folds := (c = ' ' || before = .escape) && inside && Pen.width < pen.column
      let pen := if folds then writeFold spot (c = ' ') pen else pen
      writeDoubleChars spot .other cs (pen.write (String.singleton c))

/-- A text between double quotes. -/
def writeDouble (spot : Spot) (s : String) (pen : Pen) : Pen :=
  (writeDoubleChars spot .quote s.toList (pen.mark "\"" true false)).mark "\"" false false

def writeText (spot : Spot) (s : String) (pen : Pen) : Pen :=
  match Style.of s with
  | .plain => writePlain spot s pen
  | .single => writeSingle spot s pen
  | .double => writeDouble spot s pen

/-- Bytes in base sixty-four, one line below the other. -/
def writeBytes (spot : Spot) (bytes : List UInt8) (pen : Pen) : Pen :=
  let pen := pen.mark "!!binary" true false
  if bytes.isEmpty then writeDouble spot "" pen
  else
    (base64Lines bytes).foldl (fun pen line => ((pen.indent spot.column).write line).endLine '\n')
      ((pen.mark "|" true false).endLine '\n')

/-- A binary number as a scalar; an exponent is written behind a point. -/
def floatScalar (x : Float) : String :=
  let s := Binary64.toText x
  if s = "nan" || s = "inf" then "." ++ s
  else if s = "-inf" then "-.inf"
  else if s.toList.contains '.' then s
  else replace "e" ".0e" s

/-! ### Values -/

/-- What a value stands in. -/
inductive Surrounding where
  | document | item
  /-- A key before its colon on the same line. -/
  | simpleKey
  | member
  deriving DecidableEq, Inhabited

/-- Whether a value can be a key on one line with its colon: a text of one line that is not too long
together with its tag, another scalar, or an empty collection. -/
def isSimpleKey : Value → Bool
  | .text s => s ≠ "" && s.length + 5 < 128 && !s.toList.any isBreak
  | .int i => (intText i).length + 5 < 128
  | .bytes _ => false
  | .list items => items.isEmpty
  | .tuple items => items.isEmpty
  | .map entries => entries.isEmpty
  | _ => true

def writeScalar (around : Surrounding) (column : Nat) (v : Value) (pen : Pen) : Pen :=
  let spot : Spot := { column, breakable := around ≠ .simpleKey }
  let plain (s : String) : Pen :=
    { writePlain spot s pen with isOpen := pen.isOpen || around = .document }
  match v with
  | .null => plain "null"
  | .bool b => plain (if b then "true" else "false")
  | .int i => plain (intText i)
  | .float x => plain (floatScalar x)
  | .text s => if Style.of s = .plain then plain s else writeText spot s pen
  | .bytes bytes => writeBytes spot bytes pen
  | v => plain v.shown

mutual

/-- A value in a collection of which the members stand in a column, if there is one around. -/
def writeValue (around : Surrounding) (outer : Option Nat) : Value → Pen → Pen
  | .list items, pen => writeItems around outer items pen
  | .tuple items, pen => writeItems around outer items pen
  | .map entries, pen =>
    if entries.isEmpty then (pen.mark "\x7b" true false).mark "\x7d" false false
    else writeEach (outer.elim 0 (· + 2)) entries pen
  | v, pen => writeScalar around (outer.elim 2 (· + 2)) v pen

/-- A list, at the column of its key if it has one on the line above. -/
def writeItems (around : Surrounding) (outer : Option Nat) : List Value → Pen → Pen
  | [], pen => (pen.mark "[" true false).mark "]" false false
  | item :: items, pen =>
    let atMargin := (around = .member || around = .simpleKey) && !pen.fresh
    let column := if atMargin then outer.getD 0 else outer.elim 0 (· + 2)
    let pen := writeValue .item (some column) item ((pen.indent column).mark "-" true true)
    writeMore column items pen

/-- Further items of a list in a column. -/
def writeMore (column : Nat) : List Value → Pen → Pen
  | [], pen => pen
  | item :: items, pen =>
    let pen := writeValue .item (some column) item ((pen.indent column).mark "-" true true)
    writeMore column items pen

/-- The entries of a map in a column. -/
def writeEach (column : Nat) : List (Value × Value) → Pen → Pen
  | [], pen => pen
  | (key, v) :: entries, pen =>
    let pen := pen.indent column
    let pen :=
      if isSimpleKey key then
        (writeValue .simpleKey (some column) key pen).mark ":" false false
      else
        let pen := writeValue .member (some column) key (pen.mark "?" true true)
        (pen.indent column).mark ":" true true
    writeEach column entries (writeValue .member (some column) v pen)

end

/-- The document of a value. A plain scalar alone needs a mark behind it. -/
def print (v : Value) : String :=
  let pen := (writeValue .document none v {}).indent 0
  if pen.isOpen then ((pen.mark "..." true false).indent 0).text else pen.text

end OracleCatalog.Yaml
