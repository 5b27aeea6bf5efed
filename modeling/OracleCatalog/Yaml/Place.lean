/-!
# Places in a document

Indentation matters in a document, so what is left to read is kept with the position where it
starts. Lines end at a line feed, a next-line mark, or a line or paragraph separator.
-/

namespace OracleCatalog.Yaml

/-! ### Characters -/

/-- Whether a line ends with the character. -/
def isBreak (c : Char) : Bool := c = '\n' || c = '\x85' || c = '\u2028' || c = '\u2029'

/-- What a line end counts as in a text. -/
def breakChar (c : Char) : Char := if c = '\x85' then '\n' else c

/-- Whether nothing is left of the line. -/
def isLineEnd : List Char → Bool
  | [] => true
  | c :: _ => isBreak c

def isSpaceOrEnd : List Char → Bool
  | [] => true
  | c :: _ => c = ' ' || isBreak c

/-- Whether a mark may end here: at a blank, a line end or the end. -/
def isGap : List Char → Bool
  | [] => true
  | c :: _ => c = ' ' || c = '\t' || isBreak c

/-- Whether a mark between documents starts here, provided that a line does. -/
def isDocumentMark : List Char → Bool
  | '-' :: '-' :: '-' :: cs => isGap cs
  | '.' :: '.' :: '.' :: cs => isGap cs
  | _ => false

/-! ### Folding -/

/-- What consecutive line ends stand for, the last one first: one alone for a space, several for all
but the first. Only a plain first line end is dropped. -/
def folded (breaks : List Char) : List Char :=
  match breaks.reverse with
  | [] => []
  | c :: more => if c ≠ '\n' then c :: more else if more.isEmpty then [' '] else more

/-! ### Positions -/

/-- Where a character stands. -/
structure Position where
  index : Nat := 0
  line : Nat := 0
  column : Nat := 0
  deriving DecidableEq, Inhabited

/-- The position behind a character; a byte order mark takes no column. -/
def Position.after (position : Position) (c : Char) : Position :=
  let index := position.index + 1
  if isBreak c then { index, line := position.line + 1 }
  else if c = '\uFEFF' then { position with index }
  else { position with index, column := position.column + 1 }

/-- What is left to read, and where it starts. -/
structure Place extends Position where
  rest : List Char
  deriving DecidableEq, Inhabited

namespace Place

/-- The place behind the next `count` characters. -/
def forward : Nat → Place → Place
  | 0, place => place
  | count + 1, place =>
    match place.rest with
    | [] => place
    | c :: rest => forward count { place.toPosition.after c with rest }

/-- The place at which `rest` is left to read. -/
def upTo (place : Place) (rest : List Char) : Place :=
  place.forward (place.rest.length - rest.length)

/-- The place behind all characters of a kind. -/
def past (p : Char → Bool) (place : Place) : Place :=
  place.forward (place.rest.takeWhile p).length

def pastSpaces (place : Place) : Place := place.past (· = ' ')

def atLineEnd (place : Place) : Place := place.past fun c => !isBreak c

/-- The place behind a comment, if one starts here. -/
def pastComment (place : Place) : Place :=
  if place.rest.head? = some '#' then place.atLineEnd else place

/-- The next line, if nothing but a comment is left of this one. -/
def nextLine? (place : Place) : Option Place :=
  let place := place.pastSpaces.pastComment
  if isLineEnd place.rest then some (place.forward 1) else none

/-- The place behind spaces, comments and line ends; `fuel` bounds the number of lines. -/
def pastGap : Nat → Place → Place
  | 0, place => place
  | fuel + 1, place =>
    let place := place.pastSpaces.pastComment
    match place.rest with
    | [] => place
    | c :: _ => if isBreak c then pastGap fuel (place.forward 1) else place

/-- The place of the next token. A byte order mark may open the text. -/
def next (place : Place) : Place :=
  let place :=
    if place.index = 0 && place.rest.head? = some '\uFEFF' then place.forward 1 else place
  place.pastGap (place.rest.length + 1)

/-- Whether the line of a mark between documents starts here. -/
def atDocumentMark (place : Place) : Bool := place.column = 0 && isDocumentMark place.rest

end Place

end OracleCatalog.Yaml
