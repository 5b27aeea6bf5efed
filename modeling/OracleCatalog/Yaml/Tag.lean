import OracleCatalog.Text.Numeral
import OracleCatalog.Yaml.Failure
import OracleCatalog.Yaml.Place

/-!
# Anchors, tags and directives

`&name` names a node and `*name` repeats it. A tag behind `!` says what a node is: by a handle and a
suffix, or verbatim in angle brackets. Directives before a document give its version and its
handles.
-/

namespace OracleCatalog.Yaml

open OracleCatalog.Text

/-! ### Names -/

def isNameChar (c : Char) : Bool := c.isAlphanum || c = '-' || c = '_'

def nameOf (cs : List Char) : Reading (String × List Char) :=
  let name := cs.takeWhile isNameChar
  if name.isEmpty then .error .unreadable
  else .ok (String.ofList name, cs.dropWhile isNameChar)

/-- The name of an anchor behind its mark, and the place after it. -/
def anchorAt (place : Place) : Reading (String × Place) := do
  let (name, rest) ← nameOf (place.rest.drop 1)
  let closes (c : Char) : Bool := ['?', ':', ',', ']', '\x7d', '%', '@', '\x60'].contains c
  if isGap rest || (rest.head?.map closes).getD false then return (name, place.upTo rest)
  else throw .unreadable

/-! ### Tags -/

/-- A tag as it is written. -/
structure Tag where
  /-- The handle, none for a tag that stands for itself. -/
  handle : Option String
  suffix : String
  deriving DecidableEq, Inhabited

def isTagChar (c : Char) : Bool :=
  c.isAlphanum || "-;/?:@&=+$,_.!~*'()[]".toList.contains c

/-- The byte of the hexadecimal digits behind a percent sign, and what follows it. -/
def percentByte? : List Char → Option (UInt8 × List Char)
  | '%' :: a :: b :: cs =>
    if isDigitIn 16 a && isDigitIn 16 b then some (UInt8.ofNat (valueIn 16 [a, b]), cs) else none
  | _ => none

/-- The bytes of consecutive percent signs, and what follows them. A sign without two digits is
malformed. `fuel` bounds their number. -/
def percentBytes : Nat → List Char → Reading (List UInt8 × List Char)
  | 0, cs => .ok ([], cs)
  | fuel + 1, cs =>
    if cs.head? = some '%' then do
      let (byte, cs) ← orUnreadable (percentByte? cs)
      let (bytes, cs) ← percentBytes fuel cs
      return (byte :: bytes, cs)
    else .ok ([], cs)

/-- The characters of a part of a tag, and what follows it; `fuel` bounds their number. -/
def tagChars : Nat → List Char → Reading (List Char × List Char)
  | 0, cs => .ok ([], cs)
  | _ + 1, [] => .ok ([], [])
  | fuel + 1, c :: cs =>
    if c = '%' then do
      let (bytes, rest) ← percentBytes (cs.length + 1) (c :: cs)
      let text ← orUnreadable (String.fromUTF8? ⟨bytes.toArray⟩)
      let (more, rest) ← tagChars fuel rest
      return (text.toList ++ more, rest)
    else if isTagChar c then do
      let (more, rest) ← tagChars fuel cs
      return (c :: more, rest)
    else .ok ([], c :: cs)

/-- The part of a tag that starts here and what follows it; it cannot be empty. -/
def tagPart (cs : List Char) : Reading (String × List Char) := do
  let (part, rest) ← tagChars (cs.length + 1) cs
  if part.isEmpty && rest.length = cs.length then throw .unreadable
  else return (String.ofList part, rest)

/-- The handle that starts here, with its marks, and what follows it. -/
def handleOf : List Char → Reading (String × List Char)
  | '!' :: ' ' :: cs => .ok ("!", ' ' :: cs)
  | '!' :: cs =>
    let name := cs.takeWhile isNameChar
    match cs.dropWhile isNameChar with
    | '!' :: rest => .ok (String.ofList ('!' :: name ++ ['!']), rest)
    | _ => .error .unreadable
  | _ => .error .unreadable

/-- The tag of the next characters, its mark behind us, and what follows it. -/
def tagOf : List Char → Reading (Tag × List Char)
  | '<' :: cs => do
    let (suffix, rest) ← tagPart cs
    match rest with
    | '>' :: rest => return ({ handle := none, suffix }, rest)
    | _ => throw .unreadable
  | cs =>
    if isGap cs then .ok ({ handle := none, suffix := "!" }, cs)
    else if (cs.takeWhile fun c => !isSpaceOrEnd [c]).contains '!' then do
      let (handle, rest) ← handleOf ('!' :: cs)
      let (suffix, rest) ← tagPart rest
      return ({ handle := some handle, suffix }, rest)
    else do
      let (suffix, rest) ← tagPart cs
      return ({ handle := some "!", suffix }, rest)

/-- The tag that starts here and the place after it. -/
def tagAt (place : Place) : Reading (Tag × Place) := do
  let (tag, rest) ← tagOf (place.rest.drop 1)
  if isSpaceOrEnd rest then return (tag, place.upTo rest) else throw .unreadable

/-! ### Directives -/

/-- A line before a document that says how to read it. -/
inductive Directive where
  /-- The version of the format, by its first number. -/
  | version (major : Nat)
  /-- A handle and what it stands for. -/
  | handle (name stem : String)
  | unknown
  deriving DecidableEq, Inhabited

/-- The number that starts here and what follows it. -/
def versionNumber (cs : List Char) : Reading (Nat × List Char) :=
  let digits := cs.takeWhile Char.isDigit
  if digits.isEmpty then .error .unreadable
  else if digitLimit < digits.length then .error (.refused (.numeralTooLong digits.length))
  else .ok (valueIn 10 digits, cs.dropWhile Char.isDigit)

/-- The version behind its name, and what follows it. -/
def versionOf (cs : List Char) : Reading (Directive × List Char) := do
  let (major, rest) ← versionNumber (cs.dropWhile (· = ' '))
  match rest with
  | '.' :: rest =>
    let (_, rest) ← versionNumber rest
    if isSpaceOrEnd rest then return (.version major, rest) else throw .unreadable
  | _ => throw .unreadable

/-- The handle and its meaning behind the name of the directive, and what follows them. -/
def handleDirectiveOf (cs : List Char) : Reading (Directive × List Char) := do
  let (name, rest) ← handleOf (cs.dropWhile (· = ' '))
  if rest.head? ≠ some ' ' then throw .unreadable
  let (stem, rest) ← tagPart (rest.dropWhile (· = ' '))
  if isSpaceOrEnd rest then return (.handle name stem, rest) else throw .unreadable

/-- The directive that starts here, and the line below it. -/
def directiveAt (place : Place) : Reading (Directive × Place) := do
  let (name, rest) ← nameOf (place.rest.drop 1)
  if !isSpaceOrEnd rest then throw .unreadable
  let (directive, rest) ←
    if name = "YAML" then versionOf rest
    else if name = "TAG" then handleDirectiveOf rest
    else pure (.unknown, rest.dropWhile fun c => !isBreak c)
  return (directive, ← orUnreadable (place.upTo rest).nextLine?)

end OracleCatalog.Yaml
