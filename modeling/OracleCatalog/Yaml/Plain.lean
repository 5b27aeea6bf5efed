import OracleCatalog.Yaml.Place

/-!
# Plain scalars

A scalar without quotes goes on until a colon or a comment, in flow style also until a mark of a
collection. It may go on over lines as long as they stand far enough to the right; the line ends are
folded.
-/

namespace OracleCatalog.Yaml

def flowMarks : List Char := [',', '[', ']', '\x7b', '\x7d']

/-- Characters that start something other than a plain scalar. -/
def indicators : List Char :=
  flowMarks ++ ['#', '&', '*', '!', '|', '>', '\'', '"', '%', '@', '\x60']

def startsPlain (flow : Bool) : List Char → Bool
  | [] => false
  | c :: cs =>
    if c = '-' then !isGap cs
    else if c = '?' || c = ':' then !flow && !isGap cs
    else !isGap (c :: cs) && !indicators.contains c

/-- Whether a plain scalar ends before `c`, which `rest` follows. -/
def endsPlain (flow : Bool) (c : Char) (rest : List Char) : Bool :=
  let beforeMark : Bool := flow && (rest.head?.map flowMarks.contains).getD false
  isGap [c] || (c = ':' && (isGap rest || beforeMark)) ||
    (flow && (c = '?' || flowMarks.contains c))

/-- The part of a plain scalar up to the next blank or its end. -/
def plainRun (flow : Bool) : List Char → List Char
  | [] => []
  | c :: cs => if endsPlain flow c cs then [] else c :: plainRun flow cs

/-- The line ends up to the next line with something on it, the last one first, and the place there;
`none` where a mark between documents comes before. `fuel` bounds the number of lines. -/
def blankLines : Nat → List Char → Place → Option (List Char) × Place
  | 0, breaks, place => (some breaks, place)
  | fuel + 1, breaks, place =>
    if place.atDocumentMark then (none, place)
    else
      let place := place.pastSpaces
      match place.rest with
      | [] => (some breaks, place)
      | c :: _ =>
        if isBreak c then blankLines fuel (breakChar c :: breaks) (place.forward 1)
        else (some breaks, place)

/-- What stands between two parts of a plain scalar. -/
structure PlainGap where
  /-- What the gap stands for; nothing where the scalar ends. -/
  chars : List Char
  place : Place
  /-- Whether a line ends in the gap. -/
  crossed : Bool

/-- The gap that starts here. -/
def plainGap (place : Place) : PlainGap :=
  let behind := place.pastSpaces
  if behind.rest.isEmpty || !isLineEnd behind.rest then
    { chars := place.rest.takeWhile (· = ' '), place := behind, crossed := false }
  else
    let first := (behind.rest.head?.map breakChar).toList
    let (breaks, below) := blankLines behind.rest.length first (behind.forward 1)
    { chars := (breaks.map folded).getD [], place := below, crossed := true }

/-- A plain scalar. -/
structure PlainScalar where
  chars : List Char
  /-- The place behind the scalar and the gap after it. -/
  place : Place
  /-- Whether a line ends in the gap after it. -/
  crossed : Bool

/-- The plain scalar that starts here; outside of flow style its lines stand at `margin` or further
right. `fuel` bounds the number of its parts. -/
def plainFrom (flow : Bool) (margin : Nat) : Nat → Place → PlainScalar
  | 0, place => { chars := [], place, crossed := false }
  | fuel + 1, place =>
    let run := plainRun flow place.rest
    let gap := plainGap (place.forward run.length)
    let rest := gap.place.rest
    if gap.chars.isEmpty || rest.head? = some '#' || (!flow && gap.place.column < margin) ||
        (plainRun flow rest).isEmpty then
      { chars := run, place := gap.place, crossed := gap.crossed }
    else
      let more := plainFrom flow margin fuel gap.place
      { more with chars := run ++ gap.chars ++ more.chars }

/-- The plain scalar that starts here. -/
def plainAt (flow : Bool) (margin : Nat) (place : Place) : PlainScalar :=
  plainFrom flow margin (place.rest.length + 1) place

end OracleCatalog.Yaml
