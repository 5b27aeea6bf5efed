import OracleCatalog.Statement.LogEntry

/-!
# Question marks in a statement

Values that are bound to positions show in the place of the question marks, one after the other. All
other characters of the statement stay, the names of placeholders among them.
-/

namespace OracleCatalog

/-! ### Filling question marks -/

/-- What stands for a question mark that has a value; null leaves it. -/
def questionText (v : Value) : List Char :=
  if v.isNull then ['?'] else (Literal.ofBound v).toList

/-- Texts in the place of question marks, one after the other, as far as there are any. -/
def fillQuestions : List (List Char) → List Char → List Char
  | _, [] => []
  | texts, c :: cs =>
    if c = '?' then texts.headD ['?'] ++ fillQuestions texts.tail cs
    else c :: fillQuestions texts cs

/-- A statement with values in the place of its question marks. -/
def filled (values : List Value) (statement : String) : String :=
  String.ofList (fillQuestions (values.map questionText) statement.toList)

theorem fillQuestions_nil (cs : List Char) : fillQuestions [] cs = cs := by
  induction cs with
  | nil => rfl
  | cons c cs ih =>
    simp only [fillQuestions]
    split
    · rename_i h
      rw [h]
      exact congrArg _ ih
    · rw [ih]

theorem fillQuestions_question (texts : List (List Char)) (cs : List Char) :
    fillQuestions texts ('?' :: cs) = texts.headD ['?'] ++ fillQuestions texts.tail cs := rfl

theorem fillQuestions_other {c : Char} (h : c ≠ '?') (texts : List (List Char)) (cs : List Char) :
    fillQuestions texts (c :: cs) = c :: fillQuestions texts cs := by
  rw [fillQuestions, if_neg h]

theorem fillQuestions_append {cs : List Char} (h : '?' ∉ cs) (texts : List (List Char))
    (rest : List Char) : fillQuestions texts (cs ++ rest) = cs ++ fillQuestions texts rest := by
  induction cs with
  | nil => rfl
  | cons c cs ih =>
    obtain ⟨hc, hcs⟩ := List.ne_and_not_mem_of_not_mem_cons h
    rw [List.cons_append, fillQuestions_other (Ne.symm hc), ih hcs]
    rfl

/-- Texts that fill as many question marks as there are in the same way are the same. -/
theorem eq_of_fillQuestions_eq {texts others : List (List Char)}
    (hlength : texts.length = others.length)
    (h : ∀ n, fillQuestions texts (List.replicate n '?') =
      fillQuestions others (List.replicate n '?')) : texts = others := by
  induction texts generalizing others with
  | nil => exact (List.eq_nil_of_length_eq_zero hlength.symm).symm
  | cons text texts ih =>
    cases others with
    | nil => cases hlength
    | cons other others =>
      have hone := h 1
      simp only [List.replicate_one, fillQuestions_question, List.headD_cons, fillQuestions,
        List.append_nil] at hone
      subst hone
      rw [ih (Nat.succ.inj hlength) fun n => ?_]
      have hnext := h (n + 1)
      rw [List.replicate_succ, fillQuestions_question, fillQuestions_question] at hnext
      exact List.append_cancel_left hnext

theorem not_mem_takeWhile_isNameChar (cs : List Char) : '?' ∉ cs.takeWhile isNameChar := by
  intro h
  have hall : (cs.takeWhile isNameChar).all isNameChar = true := List.all_takeWhile
  exact absurd (List.all_eq_true.1 hall '?' h) (by decide)

/-! ### Interpolation without names -/

namespace Substitution

def questionChars (text : Option String) : List Char := (text.map String.toList).getD ['?']

variable {positional : List (Option String)}

theorem forQuestion_eq (index : Nat) :
    forQuestion { positional } index =
      ((positional.drop index).map questionChars).headD ['?'] := by
  unfold forQuestion
  dsimp only
  cases hget : positional[index]? with
  | none =>
    rw [List.drop_eq_nil_of_le (List.getElem?_eq_none_iff.1 hget)]
    rfl
  | some text =>
    obtain ⟨hlt, rfl⟩ := List.getElem?_eq_some_iff.1 hget
    rw [List.drop_eq_getElem_cons hlt]
    cases positional[index] <;> rfl

theorem forName_eq (name : List Char) : forName { positional } name = ':' :: name := rfl

/-- Without names, interpolation fills question marks and changes nothing else. -/
theorem interpolateFrom_eq (index : Nat) (cs : List Char) :
    interpolateFrom { positional } index cs =
      fillQuestions ((positional.drop index).map questionChars) cs := by
  fun_induction interpolateFrom { positional } index cs with
  | case1 index => rfl
  | case2 index cs ih =>
    rw [forQuestion_eq, fillQuestions_question, ih, ← List.map_tail, List.tail_drop]
  | case3 index hc => rfl
  -- a colon before a name: the name stays, and has no question mark in it
  | case4 index d rest hname hcolon ih =>
    have hd : d ≠ '?' := by
      rintro rfl
      exact absurd hname (by decide)
    have hrest := fillQuestions_append (not_mem_takeWhile_isNameChar rest)
      ((positional.drop index).map questionChars) (rest.dropWhile isNameChar)
    rw [List.takeWhile_append_dropWhile] at hrest
    rw [ih, forName_eq, fillQuestions_other hcolon, fillQuestions_other hd, hrest]
    rfl
  -- two colons stay together
  | case5 index d rest hname hpair hcolon ih =>
    have hd : d ≠ '?' := by
      rintro rfl
      exact absurd hpair (by decide)
    rw [ih, fillQuestions_other hcolon, fillQuestions_other hd]
  | case6 index d rest hname hpair hcolon ih => rw [ih, fillQuestions_other hcolon]
  | case7 index c cs hquestion hcolon ih => rw [ih, fillQuestions_other hquestion]

/-- The literal of a value that is bound to a position. -/
def literal? (v : Value) : Option String := if v.isNull then none else some (Literal.ofBound v)

theorem questionChars_literal? (v : Value) : questionChars (literal? v) = questionText v := by
  unfold literal? questionText
  split <;> rfl

theorem add_position (i : Int) (v : Value) :
    add { positional } (.int i) v = .ok { positional := positional ++ [literal? v] } := rfl

theorem foldlM_add_positions {bound : Entries} (h : ∀ entry ∈ bound, ∃ i, entry.1 = .int i) :
    bound.foldlM (fun substitution (key, value) => add substitution key value) { positional } =
      .ok { positional := positional ++ (OrderedMap.values bound).map literal? } := by
  induction bound generalizing positional with
  | nil =>
    rw [OrderedMap.values, List.map_nil, List.map_nil, List.append_nil]
    rfl
  | cons entry rest ih =>
    obtain ⟨key, value⟩ := entry
    obtain ⟨i, rfl⟩ : ∃ i, key = .int i := h _ List.mem_cons_self
    rw [List.foldlM_cons]
    dsimp only
    rw [add_position]
    show rest.foldlM _ ({ positional := positional ++ [literal? value] } : Substitution) = _
    rw [ih fun entry hentry => h entry (List.mem_cons_of_mem _ hentry), List.append_assoc]
    rfl

end Substitution

namespace LogEntry

variable {entry : LogEntry}

theorem interpolated_of_positions (h : ∀ e ∈ entry.bound, ∃ i, e.1 = .int i) :
    entry.interpolated = .ok (filled (OrderedMap.values entry.bound) entry.statement) := by
  unfold interpolated Substitution.ofBound
  rw [Substitution.foldlM_add_positions h]
  show Except.ok (String.ofList _) = Except.ok (String.ofList _)
  rw [Substitution.interpolateFrom_eq, List.nil_append, List.drop_zero, List.map_map]
  have hchars : Substitution.questionChars ∘ Substitution.literal? = questionText :=
    funext Substitution.questionChars_literal?
  rw [hchars]

end LogEntry

end OracleCatalog
