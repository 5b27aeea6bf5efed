/-!
# Bytes in base sixty-four

Three bytes are written as four characters of six bits each; signs `=` fill the last group. Reading
passes over every character that is no digit, and the signs at the end of a group end the text.
-/

namespace OracleCatalog.Text

/-! ### Digits -/

/-- The digit of six bits. -/
def sextetChar (n : Nat) : Char :=
  if n < 26 then Char.ofNat (65 + n)
  else if n < 52 then Char.ofNat (71 + n)
  else if n < 62 then Char.ofNat (n - 4)
  else if n = 62 then '+' else '/'

/-- The six bits of a digit. -/
def sextet? (c : Char) : Option Nat :=
  if c.isUpper then some (c.toNat - 65)
  else if c.isLower then some (c.toNat - 71)
  else if c.isDigit then some (c.toNat + 4)
  else if c = '+' then some 62
  else if c = '/' then some 63
  else none

theorem sextet?_sextetChar : ∀ n < 64, sextet? (sextetChar n) = some n := by decide

/-! ### Writing -/

/-- The characters of bytes. -/
def base64Chars : List UInt8 → List Char
  | [] => []
  | [a] => [sextetChar (a.toNat / 4), sextetChar (a.toNat % 4 * 16), '=', '=']
  | [a, b] =>
    [sextetChar (a.toNat / 4), sextetChar (a.toNat % 4 * 16 + b.toNat / 16),
      sextetChar (b.toNat % 16 * 4), '=']
  | a :: b :: c :: rest =>
    sextetChar (a.toNat / 4) :: sextetChar (a.toNat % 4 * 16 + b.toNat / 16) ::
      sextetChar (b.toNat % 16 * 4 + c.toNat / 64) :: sextetChar (c.toNat % 64) ::
      base64Chars rest

/-- How many characters stand on a line. -/
def base64Width : Nat := 76

/-- Characters in lines of the width; `fuel` bounds the number of lines. -/
def base64LinesOf : Nat → List Char → List String
  | _, [] => []
  | 0, _ => []
  | fuel + 1, cs =>
    String.ofList (cs.take base64Width) :: base64LinesOf fuel (cs.drop base64Width)

def base64Lines (bytes : List UInt8) : List String :=
  base64LinesOf bytes.length.succ (base64Chars bytes)

/-! ### Reading -/

/-- The bytes of what follows `place` digits of a group, of which the bits `left` have not been used
yet; before it stand `signs` signs in a row. A group that is not full makes the text malformed. -/
def base64From (place signs left : Nat) : List Char → Option (List UInt8)
  | [] => if place = 0 then some [] else none
  | c :: cs =>
    if c = '=' then
      if place < 2 then base64From place signs left cs
      else if 4 ≤ place + signs + 1 then some []
      else base64From place (signs + 1) left cs
    else
      match sextet? c with
      | none => base64From place signs left cs
      | some n =>
        match place with
        | 0 => base64From 1 0 n cs
        | 1 => (base64From 2 0 (n % 16) cs).map (UInt8.ofNat (left * 4 + n / 16) :: ·)
        | 2 => (base64From 3 0 (n % 4) cs).map (UInt8.ofNat (left * 16 + n / 4) :: ·)
        | _ => (base64From 0 0 0 cs).map (UInt8.ofNat (left * 64 + n) :: ·)

/-- The bytes that characters write. -/
def base64Bytes (cs : List Char) : Option (List UInt8) := base64From 0 0 0 cs

end OracleCatalog.Text
