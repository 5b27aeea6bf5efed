import OracleCatalog.Toml.Number
import OracleCatalog.Toml.Tables

/-!
# Reading TOML

A document is a sequence of lines: headers, keys with values, and comments. Values are texts,
numbers, truth values, lists and tables in braces. Anything malformed, a key that is given twice and
a table that is opened twice make the whole document unreadable. An integer of too many digits is a
failure of its own kind.
-/

namespace OracleCatalog.Toml

/-! ### Blanks and comments -/

def pastBlanks (cs : List Char) : List Char := cs.dropWhile fun c => c = ' ' || c = '\t'

/-- The rest behind a comment, if one starts here; it may hold no control character. -/
def pastComment (cs : List Char) : Option (List Char) :=
  match cs with
  | '#' :: cs =>
    if (cs.takeWhile (· ≠ '\n')).any isControl then none else some (cs.dropWhile (· ≠ '\n'))
  | cs => some cs

/-- The rest behind blanks, line ends and comments; `fuel` bounds the number of comments. -/
def pastGap : Nat → List Char → Option (List Char)
  | 0, _ => none
  | fuel + 1, cs =>
    match cs.dropWhile fun c => c = ' ' || c = '\t' || c = '\n' with
    | '#' :: cs => (pastComment ('#' :: cs)).bind (pastGap fuel)
    | cs => some cs

/-! ### Keys -/

def isKeyChar (c : Char) : Bool := c.isAlphanum || c = '-' || c = '_'

/-- A key between dots. -/
def keyPart (cs : List Char) : Option (String × List Char) :=
  let bare := cs.takeWhile isKeyChar
  if bare.isEmpty then lineText cs else some (String.ofList bare, cs.dropWhile isKeyChar)

/-- A key with its dots; `fuel` bounds their number. -/
def key : Nat → Reader Path
  | 0, _ => none
  | fuel + 1, cs => do
    let (part, cs) ← keyPart cs
    match pastBlanks cs with
    | '.' :: cs => (key fuel (pastBlanks cs)).map fun (path, rest) => (part :: path, rest)
    | cs => return ([part], cs)

/-- The start of an entry: its key and what follows the equals sign. -/
def entryStart (cs : List Char) : Option (Path × List Char) := do
  let (path, cs) ← key (cs.length + 1) cs
  match cs with
  | '=' :: cs => return (path, pastBlanks cs)
  | _ => none

/-! ### Values -/

open Failure (lift)

mutual

/-- A value; `fuel` bounds its nesting and its length. -/
def value : Nat → List Char → Except Failure (Value × List Char)
  | 0, _ => .error .malformed
  | fuel + 1, cs =>
    match cs with
    | '"' :: _ => lift ((text cs).map fun (s, rest) => (.text s, rest))
    | '\'' :: _ => lift ((text cs).map fun (s, rest) => (.text s, rest))
    | 't' :: 'r' :: 'u' :: 'e' :: rest => .ok (.bool true, rest)
    | 'f' :: 'a' :: 'l' :: 's' :: 'e' :: rest => .ok (.bool false, rest)
    | '[' :: rest => do items fuel [] (← lift (pastGap (rest.length + 1) rest))
    | '\x7b' :: rest =>
      match pastBlanks rest with
      | '\x7d' :: rest => .ok (.map [], rest)
      | rest => entries fuel {} rest
    | cs => number cs

def items : Nat → List Value → List Char → Except Failure (Value × List Char)
  | 0, _, _ => .error .malformed
  | fuel + 1, read, cs =>
    match cs with
    | ']' :: rest => .ok (.list read.reverse, rest)
    | cs => do
      let (item, cs) ← value fuel cs
      match ← lift (pastGap (cs.length + 1) cs) with
      | ']' :: rest => return (.list (item :: read).reverse, rest)
      | ',' :: rest => items fuel (item :: read) (← lift (pastGap (rest.length + 1) rest))
      | _ => throw .malformed

def entries : Nat → Draft → List Char → Except Failure (Value × List Char)
  | 0, _, _ => .error .malformed
  | fuel + 1, draft, cs => do
    let (path, cs) ← lift (entryStart cs)
    let (item, cs) ← value fuel cs
    let draft ← lift ({ draft with opened := [] }.put [] path item)
    match pastBlanks cs with
    | '\x7d' :: rest => return (.map draft.root, rest)
    | ',' :: rest => entries fuel draft (pastBlanks rest)
    | _ => throw .malformed

end

/-! ### Documents -/

/-- The header of a table behind its brackets: the path and what follows the closing ones. -/
def header (closing : List Char) (cs : List Char) : Option (Path × List Char) := do
  let (path, cs) ← key (cs.length + 1) (pastBlanks cs)
  if closing.isPrefixOf cs then some (path, cs.drop closing.length) else none

/-- What one line does to the draft and to the header that it stands under, and what follows it. -/
def statement (draft : Draft) (under : Path) (cs : List Char) :
    Except Failure ((Draft × Path) × List Char) :=
  match cs with
  | '[' :: '[' :: rest => do
    let (path, rest) ← lift (header [']', ']'] rest)
    return ((← lift (draft.openItem path), path), rest)
  | '[' :: rest => do
    let (path, rest) ← lift (header [']'] rest)
    return ((← lift (draft.openTable path), path), rest)
  | '#' :: _ => .ok ((draft, under), cs)
  | '\n' :: _ => .ok ((draft, under), cs)
  | [] => .ok ((draft, under), cs)
  | cs => do
    let (path, rest) ← lift (entryStart cs)
    let (item, rest) ← value (rest.length + 1) rest
    return ((← lift (draft.put under path item), under), rest)

/-- The tables of a document; `fuel` bounds the number of its lines. -/
def lines : Nat → Draft → Path → List Char → Except Failure Entries
  | 0, _, _, _ => .error .malformed
  | fuel + 1, draft, under, cs => do
    let ((draft, under), rest) ← statement draft under (pastBlanks cs)
    match ← lift (pastComment (pastBlanks rest)) with
    | [] => return draft.root
    | '\n' :: rest => lines fuel draft under rest
    | _ => throw .malformed

/-- A line end in two characters becomes one in one. -/
def plainLineEnds : List Char → List Char
  | '\r' :: '\n' :: cs => '\n' :: plainLineEnds cs
  | c :: cs => c :: plainLineEnds cs
  | [] => []

/-- The tables of a document. -/
def read (s : String) : Except Failure Entries :=
  let cs := plainLineEnds s.toList
  lines (cs.length + 1) {} [] cs

end OracleCatalog.Toml
