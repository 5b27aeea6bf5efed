import OracleCatalog.Text.Numeral

/-!
# Texts in TOML

A basic text stands in double quotes and has escapes, a literal text stands in single quotes and has
none. Both have a form in tripled quotes that may hold line ends. Readers answer what they have read
and what follows it, and nothing on malformed input.
-/

namespace OracleCatalog.Toml

/-- A reader of a part of a document. -/
abbrev Reader (α : Type) := List Char → Option (α × List Char)

/-- Control characters other than the tab have to be escaped. -/
def isControl (c : Char) : Bool := (c.toNat < 0x20 || c.toNat = 0x7F) && c ≠ '\t'

def letterEscapes : List (Char × Nat) := [
  ('b', 8), ('t', 9), ('n', 10), ('f', 12), ('r', 13), ('"', 34), ('\\', 92)]

/-- The character of an escape by code, and what follows it. -/
def codeEscape (width : Nat) (cs : List Char) : Option (Char × List Char) :=
  if cs.length < width then none
  else (Text.charOfCode (cs.take width)).map fun c => (c, cs.drop width)

/-- The character of an escape behind its backslash, and what follows it. -/
def escape : Reader Char
  | [] => none
  | 'u' :: cs => codeEscape 4 cs
  | 'U' :: cs => codeEscape 8 cs
  | c :: cs => (letterEscapes.lookup c).map fun code => (Char.ofNat code, cs)

/-- The rest behind a backslash at the end of a line, if there is one: the first character that is
no blank. -/
def continuation (cs : List Char) : Option (List Char) :=
  match cs.dropWhile fun c => c = ' ' || c = '\t' with
  | '\n' :: rest => some (rest.dropWhile fun c => c = ' ' || c = '\t' || c = '\n')
  | _ => none

/-- The characters of a basic text up to its quote; `fuel` bounds their number. -/
def basic : Nat → Reader (List Char)
  | 0, _ => none
  | _ + 1, [] => none
  | fuel + 1, c :: cs =>
    if c = '"' then some ([], cs)
    else if c = '\\' then do
      let (d, cs) ← escape cs
      let (more, rest) ← basic fuel cs
      return (d :: more, rest)
    else if isControl c then none
    else (basic fuel cs).map fun (more, rest) => (c :: more, rest)

def literal : Reader (List Char)
  | [] => none
  | c :: cs =>
    if c = '\'' then some ([], cs)
    else if isControl c then none
    else (literal cs).map fun (more, rest) => (c :: more, rest)

/-- The quotes at the end of a text in tripled quotes that belong to the text: two at most. -/
def closing (quote : Char) (cs : List Char) : List Char × List Char :=
  let extra := min 2 (cs.takeWhile (· = quote)).length
  (List.replicate extra quote, cs.drop extra)

/-- The characters of a text up to its tripled quotes, with escapes if it is basic; `fuel` bounds
their number. -/
def tripled (quote : Char) (escapes : Bool) : Nat → Reader (List Char)
  | 0, _ => none
  | _ + 1, [] => none
  | fuel + 1, c :: cs =>
    if [quote, quote, quote].isPrefixOf (c :: cs) then some (closing quote (cs.drop 2))
    else if escapes && c = '\\' then
      match continuation cs with
      | some rest => tripled quote escapes fuel rest
      | none => do
        let (d, cs) ← escape cs
        let (more, rest) ← tripled quote escapes fuel cs
        return (d :: more, rest)
    else if isControl c && c ≠ '\n' then none
    else (tripled quote escapes fuel cs).map fun (more, rest) => (c :: more, rest)

/-- The rest behind a line end that follows opening quotes. -/
def pastLineEnd : List Char → List Char
  | '\n' :: cs => cs
  | cs => cs

def lineText : Reader String
  | '"' :: cs => (basic (cs.length + 1) cs).map fun (cs, rest) => (String.ofList cs, rest)
  | '\'' :: cs => (literal cs).map fun (cs, rest) => (String.ofList cs, rest)
  | _ => none

def text : Reader String
  | '"' :: '"' :: '"' :: cs =>
    (tripled '"' true (cs.length + 1) (pastLineEnd cs)).map fun (cs, rest) =>
      (String.ofList cs, rest)
  | '\'' :: '\'' :: '\'' :: cs =>
    (tripled '\'' false (cs.length + 1) (pastLineEnd cs)).map fun (cs, rest) =>
      (String.ofList cs, rest)
  | cs => lineText cs

end OracleCatalog.Toml
