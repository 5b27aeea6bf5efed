import OracleCatalog.Binary64.Reader
import OracleCatalog.Text.Case
import OracleCatalog.Text.Numeral
import OracleCatalog.Text.Split
import OracleCatalog.Value.Whole
import OracleCatalog.Yaml.Timestamp

/-!
# Scalars

What a plain scalar is shows in its form: a null, a truth value, an integer, a binary number, a
timestamp, or else a text. A tag can ask for a form; then the text has to be read in it. Numbers may
be grouped by underscores and written in parts of sixty.
-/

namespace OracleCatalog.Yaml

open OracleCatalog.Text

/-! ### Kinds of nodes -/

/-- What a node is. -/
inductive Kind where
  | null | bool | int | float | timestamp | binary | text
  | list | map | set
  /-- A list of pairs. -/
  | pairs
  /-- A key whose value is merged into the map around. -/
  | merge
  /-- A key whose value stands for the map around. -/
  | value
  | unknown
  deriving DecidableEq, Inhabited

/-- How the tags of the format itself begin. -/
def ownTags : String := "tag:yaml.org,2002:"

/-- The tags of the format, without their beginning. -/
def kindNames : List (String × Kind) := [
  ("null", .null), ("bool", .bool), ("int", .int), ("float", .float), ("timestamp", .timestamp),
  ("binary", .binary), ("str", .text), ("seq", .list), ("map", .map), ("set", .set),
  ("omap", .pairs), ("pairs", .pairs), ("merge", .merge), ("value", .value)]

def Kind.ofTag (tag : String) : Kind :=
  ((kindNames.map fun (name, kind) => (ownTags ++ name, kind)).lookup tag).getD .unknown

/-! ### Words -/

def nullWords : List String := ["~", "null", "Null", "NULL"]

/-- The truth values by their spellings in small letters. -/
def truthWords : List (String × Bool) := [
  ("yes", true), ("no", false), ("true", true), ("false", false), ("on", true), ("off", false)]

/-- The spellings of truth values in plain scalars: small, large, or large at the start. -/
def truthSpellings : List String := [
  "yes", "Yes", "YES", "no", "No", "NO", "true", "True", "TRUE", "false", "False", "FALSE", "on",
  "On", "ON", "off", "Off", "OFF"]

def infinityWords : List String := [".inf", ".Inf", ".INF"]

/-- The spellings of a number that is none. -/
def noNumberWords : List String := [".nan", ".NaN", ".NAN"]

/-! ### The form of a plain scalar -/

def isGrouped (c : Char) : Bool := c.isDigit || c = '_'

/-- Whether the characters are grouped digits, the first one a digit. -/
def isGroup : List Char → Bool
  | [] => false
  | c :: cs => c.isDigit && cs.all isGrouped

/-- The characters behind a sign, if there is one. -/
def unsigned : List Char → List Char
  | '-' :: cs => cs
  | '+' :: cs => cs
  | cs => cs

/-- Whether the characters are at most two digits of a number below sixty. -/
def isSixtieth : List Char → Bool
  | [c] => c.isDigit
  | [c, d] => '0' ≤ c && c ≤ '5' && d.isDigit
  | _ => false

/-- Whether the characters are parts of sixty behind a group. -/
def isSixties (cs : List Char) : Bool :=
  match cut ':' cs with
  | first :: part :: parts => isGroup first && (part :: parts).all isSixtieth
  | _ => false

/-- Whether the characters are an exponent with its sign, or nothing. -/
def isExponent : List Char → Bool
  | [] => true
  | mark :: sign :: cs =>
    (mark = 'e' || mark = 'E') && (sign = '+' || sign = '-') && !cs.isEmpty && cs.all Char.isDigit
  | _ => false

/-- Whether the characters, which have a point, write a binary number without a sign. -/
def hasPoint (cs : List Char) : Bool :=
  let before := cs.takeWhile (· ≠ '.')
  match cs.dropWhile (· ≠ '.') with
  | '.' :: rest =>
    let tail := rest.dropWhile isGrouped
    (isGroup before && isExponent tail) || (isSixties before && tail.isEmpty)
  | _ => false

/-- Whether the characters, which start with the point, write a binary number. -/
def startsWithPoint : List Char → Bool
  | '.' :: c :: cs => c.isDigit && isExponent (cs.dropWhile isGrouped)
  | _ => false

/-- Whether the characters write a binary number. -/
def isFloat (cs : List Char) : Bool :=
  hasPoint (unsigned cs) || startsWithPoint cs ||
    infinityWords.contains (String.ofList (unsigned cs)) ||
    noNumberWords.contains (String.ofList cs)

/-- Whether the characters are digits of a base, perhaps with underscores. -/
def areDigitsIn (base : Nat) (cs : List Char) : Bool :=
  !cs.isEmpty && cs.all fun c => c = '_' || isDigitIn base c

/-- Whether the characters write an integer without a sign. -/
def isMagnitude : List Char → Bool
  | ['0'] => true
  | '0' :: c :: cs =>
    if c = 'b' then areDigitsIn 2 cs
    else if c = 'x' then areDigitsIn 16 cs
    else areDigitsIn 8 (c :: cs)
  | cs => isGroup cs || isSixties cs

/-- The kind of a plain scalar without a line end behind it. -/
def Kind.ofLine (s : String) : Kind :=
  let cs := s.toList
  if truthSpellings.contains s then .bool
  else if isFloat cs then .float
  else if isMagnitude (unsigned cs) then .int
  else if s = "<<" then .merge
  else if nullWords.contains s then .null
  else if isTimestamp cs then .timestamp
  else if s = "=" then .value
  else if ["!", "&", "*"].contains s then .unknown
  else .text

/-- The kind of a plain scalar; a line end behind it does not count. -/
def Kind.ofText (s : String) : Kind :=
  if s = "" then .null
  else if s.toList.getLast? = some '\n' then .ofLine (String.ofList s.toList.dropLast)
  else .ofLine s

/-! ### Numbers -/

/-- A result that can be an error of its own. -/
def raising {α : Type} (result : Except Error α) : Reading α := result.mapError .raised

def integerOfBase (base : Nat) (cs : List Char) : Reading Int :=
  let s := String.ofList cs
  match integerIn base s with
  | some i => .ok i
  | none => .error (.refused (.numeral base (quoted s)))

def integerOfTen (cs : List Char) : Reading Int :=
  raising (Value.wholeOfText (quoted (String.ofList cs)) (String.ofList cs))

/-- The integer that is written behind its sign; there has to be something. -/
def integerOfMagnitude : List Char → Reading Int
  | [] => .error (.raised (.noPosition "string"))
  | ['0'] => .ok 0
  | '0' :: 'b' :: cs => integerOfBase 2 cs
  | '0' :: 'x' :: cs => integerOfBase 16 cs
  | '0' :: cs => integerOfBase 8 ('0' :: cs)
  | cs =>
    if cs.contains ':' then do
      let parts ← (cut ':' cs).mapM integerOfTen
      return parts.foldl (fun total part => total * 60 + part) 0
    else integerOfTen cs

/-- Whether a number has a sign that turns it around. -/
def isNegative (cs : List Char) : Bool := cs.head? = some '-'

def integerOf (s : String) : Reading Int := do
  let cs := s.toList.filter (· ≠ '_')
  if cs.isEmpty then throw (.raised (.noPosition "string"))
  let i ← integerOfMagnitude (unsigned cs)
  return if isNegative cs then -i else i

/-- The binary number that a numeral writes, with blanks around. -/
def floatNumeral? (s : String) : Option Float :=
  let cs := s.toList
  if cs.any fun c => isBlank c && !isNumeralBlank c then none
  else
    match Decimal.read? s with
    | some (.nan _ signaling _) =>
      if signaling || cs.any fun c => (decimalDigit? c).isSome then none else some (0 / 0)
    | some d => some (Binary64.ofDecimal d)
    | none => none

/-- The binary number that characters write. -/
def floatOfNumeral (cs : List Char) : Reading Float :=
  let s := String.ofList cs
  match floatNumeral? s with
  | some x => .ok x
  | none => .error (.refused (.floatNumeral (quoted s)))

/-- The sum of parts of sixty, the last part first; the next part counts `scale`. -/
def sumOfSixties (scale : Nat) (total : Float) : List Float → Reading Float
  | [] => .ok total
  | part :: parts => do
    let factor ← raising (Binary64.ofInteger scale)
    sumOfSixties (scale * 60) (total + part * factor) parts

/-- The binary number that is written behind its sign. -/
def floatOfMagnitude (cs : List Char) : Reading Float :=
  if cs = ".inf".toList then .ok (1 / 0)
  else if cs = ".nan".toList then .ok (0 / 0)
  else if cs.contains ':' then do
    let parts ← (cut ':' cs).mapM floatOfNumeral
    sumOfSixties 1 0 parts.reverse
  else floatOfNumeral cs

/-- The binary number that a scalar writes. -/
def floatOf (s : String) : Reading Float := do
  let cs := (lower (String.ofList (s.toList.filter (· ≠ '_')))).toList
  if cs.isEmpty then throw (.raised (.noPosition "string"))
  let x ← floatOfMagnitude (unsigned cs)
  return if isNegative cs then -x else x

/-! ### Values -/

def truthOf (s : String) : Reading Bool :=
  match truthWords.lookup (lower s) with
  | some b => .ok b
  | none => .error (.raised (.noField (lower s)))

end OracleCatalog.Yaml
