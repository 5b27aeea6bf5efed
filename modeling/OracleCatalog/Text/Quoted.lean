import OracleCatalog.Text.Numeral
import OracleCatalog.Text.Printable

/-!
# Quoted texts

A text shown inside a message stands in single quotes, or in double quotes when it has a single
quote and no double one. The quote in use and the backslash are escaped, line ends and tabs have
escapes of their own, and what is not printable is written by its code.
-/

namespace OracleCatalog.Text

/-- The quote that surrounds the characters. -/
def quoteFor (cs : List Char) : Char := if cs.contains '\'' && !cs.contains '"' then '"' else '\''

/-- An escape by code: two, four or eight hexadecimal digits. -/
def codeEscape (n : Nat) : List Char :=
  if n < 0x100 then '\\' :: 'x' :: hexDigits 2 n
  else if n < 0x10000 then '\\' :: 'u' :: hexDigits 4 n
  else '\\' :: 'U' :: hexDigits 8 n

/-- One character between quotes. -/
def escapeChar (quote : Char) (shown : Char → Bool) (c : Char) : List Char :=
  if c = quote || c = '\\' then ['\\', c]
  else if c = '\n' then ['\\', 'n']
  else if c = '\r' then ['\\', 'r']
  else if c = '\t' then ['\\', 't']
  else if shown c then [c]
  else codeEscape c.toNat

/-- The characters in quotes, where `shown` says which of them need no escape. -/
def quoteChars (shown : Char → Bool) (cs : List Char) : List Char :=
  let quote := quoteFor cs
  quote :: cs.flatMap (escapeChar quote shown) ++ [quote]

def quoted (s : String) : String := String.ofList (quoteChars isPrintable s.toList)

/-- Bytes in quotes behind a `b`; only visible characters of seven bits stand for themselves. -/
def quotedBytes (bytes : List UInt8) : String :=
  let visible (c : Char) : Bool := 0x20 ≤ c.toNat && c.toNat < 0x7F
  String.ofList ('b' :: quoteChars visible (bytes.map fun b => Char.ofNat b.toNat))

end OracleCatalog.Text
