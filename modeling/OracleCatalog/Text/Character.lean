/-!
# Classes of characters

A property of characters is a table of ranges of code points. A table is a list of ranges in
increasing order, both ends included.

Blanks separate words. Decimal digits of every script stand in blocks of ten that start with the
zero. Superscripts, circled numbers and the like are digits without being decimal: a text of them
looks like a number and cannot be read as one.
-/

namespace OracleCatalog.Text

/-! ### Ranges of code points -/

/-- Ranges of code points, both ends included. -/
abbrev Spans := List (Nat × Nat)

/-- Whether the character lies in one of the ranges. -/
def Spans.covers (spans : Spans) (c : Char) : Bool :=
  spans.any fun range => range.1 ≤ c.toNat && c.toNat ≤ range.2

/-! ### Blanks -/

/-- Blank characters: tabs, line ends, the information separators and every space of Unicode. -/
def blankSpans : Spans := [
  (0x9, 0xD), (0x1C, 0x20), (0x85, 0x85), (0xA0, 0xA0), (0x1680, 0x1680), (0x2000, 0x200A),
  (0x2028, 0x2029), (0x202F, 0x202F), (0x205F, 0x205F), (0x3000, 0x3000)]

def isBlank (c : Char) : Bool := blankSpans.covers c

/-- The characters without those at either end that satisfy `p`. -/
def trimBoth (p : Char → Bool) (cs : List Char) : List Char :=
  ((cs.dropWhile p).reverse.dropWhile p).reverse

/-- The text without the blanks at its ends. -/
def trim (s : String) : String := String.ofList (trimBoth isBlank s.toList)

def isBlankText (s : String) : Bool := s.toList.all isBlank

/-- The maximal runs of non-blank characters, where `word` holds the run being read in reverse. -/
def wordsFrom (word : List Char) : List Char → List (List Char)
  | [] => if word.isEmpty then [] else [word.reverse]
  | c :: cs =>
    if isBlank c then
      if word.isEmpty then wordsFrom [] cs else word.reverse :: wordsFrom [] cs
    else wordsFrom (c :: word) cs

def words (s : String) : List String := (wordsFrom [] s.toList).map String.ofList

/-! ### Digits -/

def decimalZeros : List Nat := [
  0x30, 0x660, 0x6F0, 0x7C0, 0x966, 0x9E6, 0xA66, 0xAE6, 0xB66, 0xBE6, 0xC66, 0xCE6, 0xD66,
  0xDE6, 0xE50, 0xED0, 0xF20, 0x1040, 0x1090, 0x17E0, 0x1810, 0x1946, 0x19D0, 0x1A80, 0x1A90,
  0x1B50, 0x1BB0, 0x1C40, 0x1C50, 0xA620, 0xA8D0, 0xA900, 0xA9D0, 0xA9F0, 0xAA50, 0xABF0,
  0xFF10, 0x104A0, 0x10D30, 0x11066, 0x110F0, 0x11136, 0x111D0, 0x112F0, 0x11450, 0x114D0,
  0x11650, 0x116C0, 0x11730, 0x118E0, 0x11950, 0x11C50, 0x11D50, 0x11DA0, 0x16A60, 0x16AC0,
  0x16B50, 0x1D7CE, 0x1D7D8, 0x1D7E2, 0x1D7EC, 0x1D7F6, 0x1E140, 0x1E2F0, 0x1E950, 0x1FBF0]

/-- Digits that have no decimal value. -/
def otherDigitSpans : Spans := [
  (0xB2, 0xB3), (0xB9, 0xB9), (0x1369, 0x1371), (0x19DA, 0x19DA), (0x2070, 0x2070),
  (0x2074, 0x2079), (0x2080, 0x2089), (0x2460, 0x2468), (0x2474, 0x247C), (0x2488, 0x2490),
  (0x24EA, 0x24EA), (0x24F5, 0x24FD), (0x24FF, 0x24FF), (0x2776, 0x277E), (0x2780, 0x2788),
  (0x278A, 0x2792), (0x10A40, 0x10A43), (0x10E60, 0x10E68), (0x11052, 0x1105A),
  (0x1F100, 0x1F10A)]

def decimalDigit? (c : Char) : Option Nat :=
  (decimalZeros.find? fun z => z ≤ c.toNat && c.toNat < z + 10).map fun z => c.toNat - z

def isDigit (c : Char) : Bool := (decimalDigit? c).isSome || otherDigitSpans.covers c

/-- Whether the text is one digit or more and nothing else. -/
def allDigits (s : String) : Bool := !s.isEmpty && s.toList.all isDigit

end OracleCatalog.Text
