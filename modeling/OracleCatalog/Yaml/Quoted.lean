import OracleCatalog.Text.Numeral
import OracleCatalog.Yaml.Failure
import OracleCatalog.Yaml.Place

/-!
# Quoted scalars

Between single quotes only the quote has a special spelling, twice itself. Between double quotes a
backslash starts an escape. Line ends are folded, and the blanks around them are dropped; no line
inside may start with a mark between documents.
-/

namespace OracleCatalog.Yaml

open OracleCatalog.Text

/-! ### Space between visible characters -/

/-- What has been read since the last visible character. -/
structure Space where
  /-- Blanks, the last one first. -/
  blanks : List Char := []
  /-- Line ends, the last one first. -/
  breaks : List Char := []
  /-- Whether a line end before them was escaped, so that the others are kept. -/
  escaped : Bool := false

namespace Space

/-- The space after one more blank or line end. -/
def add (space : Space) (c : Char) : Space :=
  if isBreak c then { space with blanks := [], breaks := breakChar c :: space.breaks }
  else if space.breaks.isEmpty && !space.escaped then { space with blanks := c :: space.blanks }
  else space

def chars (space : Space) : List Char :=
  if space.escaped then space.breaks.reverse
  else if space.breaks.isEmpty then space.blanks.reverse
  else folded space.breaks

end Space

def isSpace (c : Char) : Bool := c = ' ' || c = '\t' || isBreak c

/-- Whether `c` ends a line before a mark between documents. -/
def isCut (c : Char) (rest : List Char) : Bool := isBreak c && isDocumentMark rest

/-- What has been read of a scalar and what follows it. -/
abbrev Quote := List Char × List Char

/-- A reading with characters in front. -/
def Quote.behind (cs : List Char) (quote : Quote) : Quote := (cs ++ quote.1, quote.2)

/-! ### Single quotes -/

/-- The characters up to a single quote, and what follows it. -/
def singleQuoted (space : Space) : List Char → Reading Quote
  | [] => .error .unreadable
  | ['\''] => .ok (space.chars, [])
  | '\'' :: c :: cs =>
    if c = '\'' then (singleQuoted {} cs).map (Quote.behind (space.chars ++ ['\'']))
    else .ok (space.chars, c :: cs)
  | c :: cs =>
    if isCut c cs then .error .unreadable
    else if isSpace c then singleQuoted (space.add c) cs
    else (singleQuoted {} cs).map (Quote.behind (space.chars ++ [c]))

/-! ### Double quotes -/

def letterEscapes : List (Char × Nat) := [
  ('0', 0), ('a', 7), ('b', 8), ('t', 9), ('\t', 9), ('n', 10), ('v', 11), ('f', 12), ('r', 13),
  ('e', 27), (' ', 32), ('"', 34), ('/', 47), ('\\', 92), ('N', 0x85), ('_', 0xA0), ('L', 0x2028),
  ('P', 0x2029)]

/-- How many hexadecimal digits an escape has. -/
def escapeWidth (c : Char) : Nat :=
  if c = 'x' then 2 else if c = 'u' then 4 else if c = 'U' then 8 else 0

/-- The code that hexadecimal digits write at the start of a text, and what follows them. -/
def codeOf (width : Nat) (cs : List Char) : Reading (Nat × List Char) :=
  let digits := cs.take width
  if width = 0 || digits.length < width || !digits.all (isDigitIn 16) then .error .unreadable
  else .ok (valueIn 16 digits, cs.drop width)

/-- The code of the second half of a pair, and what follows it. -/
def lowerHalf? : List Char → Option (Nat × List Char)
  | '\\' :: letter :: cs =>
    match codeOf (escapeWidth letter) cs with
    | .ok (code, rest) => if 0xDC00 ≤ code && code ≤ 0xDFFF then some (code, rest) else none
    | .error _ => none
  | _ => none

/-- The character that a code names; a code of the first half of a pair needs the second half behind
it. A code beyond all characters is an error of its own. -/
def charAt (code : Nat) (rest : List Char) : Reading (Char × List Char) :=
  if 0x80000000 ≤ code then .error (.raised (.codeTooLarge))
  else if 0x110000 ≤ code then .error (.refused .codeRange)
  else if 0xD800 ≤ code && code ≤ 0xDBFF then
    orUnreadable <| (lowerHalf? rest).map fun (lower, rest) =>
      (Char.ofNat (0x10000 + (code - 0xD800) * 0x400 + (lower - 0xDC00)), rest)
  else if Nat.isValidChar code then .ok (Char.ofNat code, rest)
  else .error .unreadable

/-- The character of an escape behind its backslash, and what follows it. -/
def escaped (letter : Char) (cs : List Char) : Reading (Char × List Char) :=
  match letterEscapes.lookup letter with
  | some code => .ok (Char.ofNat code, cs)
  | none => do
    let (code, rest) ← codeOf (escapeWidth letter) cs
    charAt code rest

/-- The characters up to a double quote, and what follows it; `fuel` bounds their number. -/
def doubleQuoted : Nat → Space → List Char → Reading Quote
  | 0, _, _ => .error .unreadable
  | _ + 1, _, [] => .error .unreadable
  | fuel + 1, space, c :: cs =>
    if c = '"' then .ok (space.chars, cs)
    else if isCut c cs then .error .unreadable
    else if isSpace c then doubleQuoted fuel (space.add c) cs
    else if c = '\\' then
      match cs with
      | [] => .error .unreadable
      | letter :: cs =>
        if isCut letter cs then .error .unreadable
        else if isBreak letter then
          (doubleQuoted fuel { escaped := true } cs).map (Quote.behind space.chars)
        else do
          let (d, cs) ← escaped letter cs
          (doubleQuoted fuel {} cs).map (Quote.behind (space.chars ++ [d]))
    else (doubleQuoted fuel {} cs).map (Quote.behind (space.chars ++ [c]))

/-- The text of a scalar that starts with a quote here, and the place behind it. -/
def quotedAt (place : Place) : Reading (String × Place) :=
  let text : Quote → String × Place := fun (cs, rest) => (String.ofList cs, place.upTo rest)
  match place.rest with
  | '\'' :: cs => (singleQuoted {} cs).map text
  | '"' :: cs => (doubleQuoted (cs.length + 1) {} cs).map text
  | _ => .error .unreadable

end OracleCatalog.Yaml
