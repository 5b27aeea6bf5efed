import OracleCatalog.Yaml.Failure
import OracleCatalog.Yaml.Place

/-!
# Block scalars

A scalar behind `|` or `>` is given by the indented lines below. `|` keeps the line ends, `>` folds
those between lines that start with a visible character. The mark may be followed by an indentation
and by a sign that says what becomes of the line ends at the end of the scalar.
-/

namespace OracleCatalog.Yaml

/-! ### The first line -/

/-- What becomes of the line ends at the end of a scalar. -/
inductive Chomping where
  /-- One is kept. -/
  | clip
  | strip
  | keep
  deriving DecidableEq, Inhabited

/-- What stands behind the mark of a block scalar. -/
structure BlockHeader where
  chomping : Chomping := .clip
  /-- How much further right the lines stand, if that is given. -/
  indentation : Option Nat := none

def chomping? (c : Char) : Option Chomping :=
  if c = '+' then some .keep else if c = '-' then some .strip else none

/-- The header of the next characters; an indentation of zero is malformed. -/
def headerOf : List Char → Reading (BlockHeader × Nat)
  | [] => .ok ({}, 0)
  | c :: cs =>
    let digit (c : Char) : Nat := c.toNat - 48
    match chomping? c with
    | some chomping =>
      match cs with
      | d :: _ =>
        if d = '0' then .error .unreadable
        else if d.isDigit then .ok ({ chomping, indentation := some (digit d) }, 2)
        else .ok ({ chomping }, 1)
      | [] => .ok ({ chomping }, 1)
    | none =>
      if c = '0' then .error .unreadable
      else if c.isDigit then
        match cs.head?.bind chomping? with
        | some chomping => .ok ({ chomping, indentation := some (digit c) }, 2)
        | none => .ok ({ indentation := some (digit c) }, 1)
      else .ok ({}, 0)

/-- The header that starts here, and the first line below it. -/
def headerAt (place : Place) : Reading (BlockHeader × Place) := do
  let (header, length) ← headerOf place.rest
  let place := place.forward length
  if isSpaceOrEnd place.rest then return (header, ← orUnreadable place.nextLine?)
  else throw .unreadable

/-! ### Lines -/

/-- The empty lines that come next, and how far right their spaces reach. -/
structure EmptyLines where
  breaks : List Char
  widest : Nat
  /-- How many characters they have. -/
  length : Nat

/-- The empty lines at a column, and the spaces before the first line with something on it. -/
def emptyLines (column widest : Nat) : List Char → EmptyLines
  | [] => { breaks := [], widest, length := 0 }
  | c :: cs =>
    if c = ' ' then
      let lines := emptyLines (column + 1) (max widest (column + 1)) cs
      { lines with length := lines.length + 1 }
    else if isBreak c then
      let lines := emptyLines 0 widest cs
      { lines with breaks := breakChar c :: lines.breaks, length := lines.length + 1 }
    else { breaks := [], widest, length := 0 }

/-- The line ends of the lines that are empty up to column `indent`, and how many characters come
before the next line, its indentation included. -/
def breaksBefore (indent column : Nat) : List Char → List Char × Nat
  | [] => ([], 0)
  | c :: cs =>
    if c = ' ' && column < indent then
      let (breaks, length) := breaksBefore indent (column + 1) cs
      (breaks, length + 1)
    else if isBreak c then
      let (breaks, length) := breaksBefore indent 0 cs
      (breakChar c :: breaks, length + 1)
    else ([], 0)

def isBlockLine (indent : Nat) (place : Place) : Bool :=
  place.column = indent && !place.rest.isEmpty

def startsBlank (place : Place) : Bool :=
  place.rest.head? = some ' ' || place.rest.head? = some '\t'

/-- The line ends between two lines, of which `last` ends the first one. -/
def joint (foldable : Bool) (last : List Char) (breaks : List Char) : List Char :=
  if foldable && last = ['\n'] then if breaks.isEmpty then [' '] else breaks else last ++ breaks

/-- The line ends at the end of a scalar, of which `last` ends its last line. -/
def Chomping.ending (chomping : Chomping) (last breaks : List Char) : List Char :=
  match chomping with
  | .clip => last
  | .strip => []
  | .keep => last ++ breaks

/-- The lines of a block scalar from here on, and the place behind them; `fuel` bounds their
number. -/
def blockLines (folds : Bool) (chomping : Chomping) (indent : Nat) :
    Nat → Place → List Char × Place
  | 0, place => ([], place)
  | fuel + 1, place =>
    let line := place.rest.takeWhile fun c => !isBreak c
    let behind := place.forward line.length
    let last := (behind.rest.head?.map breakChar).toList
    let below := behind.forward 1
    let (breaks, length) := breaksBefore indent below.column below.rest
    let next := below.forward length
    if isBlockLine indent next then
      let foldable := folds && !startsBlank place && !startsBlank next
      let (more, place) := blockLines folds chomping indent fuel next
      (line ++ joint foldable last breaks ++ more, place)
    else (line ++ chomping.ending last breaks, next)

/-- The block scalar behind its mark, and the place after it. Its lines stand at `margin` or further
right; without a given indentation the first line with something on it decides. -/
def blockScalarAt (folds : Bool) (margin : Nat) (place : Place) : Reading (String × Place) := do
  let (header, place) ← headerAt place
  let least := max 1 margin
  let lines := emptyLines place.column 0 place.rest
  let indent := match header.indentation with
    | some more => least + more - 1
    | none => max least lines.widest
  let (breaks, start) := match header.indentation with
    | some _ =>
      let (breaks, length) := breaksBefore indent place.column place.rest
      (breaks, place.forward length)
    | none => (lines.breaks, place.forward lines.length)
  if isBlockLine indent start then
    let (cs, behind) := blockLines folds header.chomping indent (start.rest.length + 1) start
    return (String.ofList (breaks ++ cs), behind)
  else return (String.ofList (header.chomping.ending [] breaks), start)

end OracleCatalog.Yaml
