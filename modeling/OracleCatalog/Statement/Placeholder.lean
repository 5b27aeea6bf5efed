import OracleCatalog.Literal
import OracleCatalog.Routine.Basic

/-!
# Placeholders in a statement

A statement is a sequence of tokens: question marks, names behind a colon, the pairs `::` and `:=`,
and single characters. Names are as long as they can be. Interpolation puts literals in the place of
question marks and names in one pass from left to right, and never looks at what it has written.
-/

namespace OracleCatalog

/-! ### Tokens -/

def isNameChar (c : Char) : Bool := c.isAlphanum || c = '_' || c = '$' || c = '#'

/-- A token of a statement. -/
inductive Token where
  | question
  /-- A name behind a colon. -/
  | named (name : List Char)
  /-- A colon and another colon or an equals sign. -/
  | pair (second : Char)
  | other (c : Char)
  deriving DecidableEq

namespace Token

def text : Token → List Char
  | .question => ['?']
  | .named name => ':' :: name
  | .pair second => [':', second]
  | .other c => [c]

/-- The first token of a statement that is not empty, and what follows it. -/
def next (c : Char) (cs : List Char) : Token × List Char :=
  if c = '?' then (.question, cs)
  else if c = ':' then
    match cs with
    | [] => (.other c, [])
    | d :: rest =>
      if isNameChar d then (.named (cs.takeWhile isNameChar), cs.dropWhile isNameChar)
      else if d = ':' || d = '=' then (.pair d, rest)
      else (.other c, cs)
  else (.other c, cs)

theorem length_dropWhile_le (p : Char → Bool) (cs : List Char) :
    (cs.dropWhile p).length ≤ cs.length := by
  induction cs with
  | nil => simp
  | cons c cs ih =>
    by_cases h : p c
    · simpa [h] using Nat.le_succ_of_le ih
    · simp [h]

theorem length_next_le (c : Char) (cs : List Char) : (next c cs).2.length ≤ cs.length := by
  unfold next
  split
  · simp
  · split
    · split
      · simp
      · split
        · exact length_dropWhile_le _ _
        · split <;> simp
    · simp

/-- Nothing is lost: a token and what follows it are the statement. -/
theorem text_next (c : Char) (cs : List Char) : (next c cs).1.text ++ (next c cs).2 = c :: cs := by
  unfold next
  split
  · simp_all [text]
  · split
    · split
      · simp [text]
      · split
        · simp_all [text, List.takeWhile_append_dropWhile]
        · split <;> simp_all [text]
    · simp [text]

def ofText : List Char → List Token
  | [] => []
  | c :: cs => (next c cs).1 :: ofText (next c cs).2
termination_by cs => cs.length
decreasing_by exact Nat.lt_succ_of_le (length_next_le c cs)

/-- The tokens of a statement make up the statement. -/
theorem text_ofText (cs : List Char) : (ofText cs).flatMap text = cs := by
  fun_induction ofText cs with
  | case1 => rfl
  | case2 c cs ih => rw [List.flatMap_cons, ih, text_next]

end Token

/-! ### Literals for placeholders -/

/-- The literals that are put into a statement. A question mark without one stays. -/
structure Substitution where
  /-- The literals of names, which start with a colon. -/
  named : OrderedMap String String := []
  /-- The literals of the question marks in order. -/
  positional : List (Option String) := []

namespace Substitution

/-- The name of a placeholder behind a colon, which may be given without. -/
def colonName (key : Value) : Except Error String :=
  (key.asText "startswith").map fun name =>
    if name.toList.head? = some ':' then name else ":" ++ name

/-- Takes up one bound value. Nulls and the result of a function keep their placeholders; a null
still takes up a question mark. -/
def add (substitution : Substitution) (key value : Value) : Except Error Substitution :=
  let literal := if value.isNull then none else some (Literal.ofBound value)
  match key with
  | .int _ | .bool _ =>
    .ok { substitution with positional := substitution.positional ++ [literal] }
  | key =>
    (colonName key).map fun name =>
      match literal with
      | some literal =>
        if name = resultName then substitution
        else { substitution with named := substitution.named.put name literal }
      | none => substitution

/-- The literals of bound values, in the order of the values. -/
def ofBound (bound : Entries) : Except Error Substitution :=
  bound.foldlM (fun substitution (key, value) => substitution.add key value) {}

/-- The characters for the question mark at `index`. -/
def forQuestion (substitution : Substitution) (index : Nat) : List Char :=
  match substitution.positional[index]? with
  | some (some literal) => literal.toList
  | _ => ['?']

def forName (substitution : Substitution) (name : List Char) : List Char :=
  match OrderedMap.get? (String.ofList (':' :: name)) substitution.named with
  | some literal => literal.toList
  | none => ':' :: name

/-! ### Interpolation -/

/-- A statement with its placeholders replaced, where `index` question marks stand before it. -/
def interpolateFrom (substitution : Substitution) : Nat → List Char → List Char
  | _, [] => []
  | index, c :: cs =>
    if c = '?' then substitution.forQuestion index ++ interpolateFrom substitution (index + 1) cs
    else if c = ':' then
      match cs with
      | [] => [':']
      | d :: rest =>
        if isNameChar d then
          substitution.forName (d :: rest.takeWhile isNameChar) ++
            interpolateFrom substitution index (rest.dropWhile isNameChar)
        else if d = ':' || d = '=' then ':' :: d :: interpolateFrom substitution index rest
        else ':' :: interpolateFrom substitution index (d :: rest)
    else c :: interpolateFrom substitution index cs
termination_by _ cs => cs.length
decreasing_by
  · simp
  · have := Token.length_dropWhile_le isNameChar rest
    simp only [List.length_cons]
    omega
  · simp only [List.length_cons]
    omega
  · simp
  · simp

def interpolate (substitution : Substitution) (statement : String) : String :=
  String.ofList (interpolateFrom substitution 0 statement.toList)

end Substitution

end OracleCatalog
