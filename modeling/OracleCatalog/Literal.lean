import OracleCatalog.Value.Whole

/-!
# SQL literals

A text literal stands in apostrophes, and an apostrophe inside it is written twice. Numbers stand
for themselves, truth values are `1` and `0`, and null is `NULL`. Two renderings share these rules
and differ in what they do with every other kind of value: a literal of a definition quotes its
text, a literal of the statement log shows it bare.
-/

namespace OracleCatalog.Literal

open OracleCatalog.Text

/-! ### Text literals -/

/-- The characters of a text literal. -/
def encode (cs : List Char) : List Char := '\'' :: double '\'' cs ++ ['\'']

/-- The characters after the opening apostrophe up to the first single one, and what follows it. -/
def body : List Char → Option (List Char × List Char)
  | [] => none
  | '\'' :: '\'' :: rest => (body rest).map fun (text, after) => ('\'' :: text, after)
  | c :: rest =>
    if c = '\'' then some ([], rest) else (body rest).map fun (text, after) => (c :: text, after)

/-- Reads a text literal at the start: its text and what follows it. -/
def lex : List Char → Option (List Char × List Char)
  | '\'' :: rest => body rest
  | _ => none

def quote (s : String) : String := String.ofList (encode s.toList)

/-! ### Values -/

def ofValue : Value → String
  | .null => "NULL"
  | .bool b => if b then "1" else "0"
  | .int i => (Value.int i).toText
  | .float x => (Value.float x).toText
  | .decimal d => (Value.decimal d).toText
  | v => quote v.toText

def ofBound : Value → String
  | .null => "NULL"
  | .bool b => if b then "1" else "0"
  | .text s => quote s
  | v => v.toText

/-- A value that shows an integer of too many digits has no literal. -/
def writeAs (literal : Value → String) (v : Value) : Except Error String :=
  if v.writable then .ok (literal v) else .error (.refused .integerTooLong)

/-- The literal of a definition. -/
def write : Value → Except Error String := writeAs ofValue

/-- The literal of the statement log. -/
def writeBound : Value → Except Error String := writeAs ofBound

end OracleCatalog.Literal
