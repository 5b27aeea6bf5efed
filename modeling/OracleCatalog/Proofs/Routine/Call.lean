import OracleCatalog.Call
import OracleCatalog.Proofs.Routine.Arguments
import OracleCatalog.Proofs.Statement.Interpolation

/-!
# Calls in the statement log

The call of a routine has a placeholder for the value of a function and then one for every argument,
in the order of the rows. The statement log finds these and no others, so it shows the call with the
values of its arguments, and the placeholder for the value of a function as it is.
-/

namespace OracleCatalog

open OracleCatalog.OrderedMap (KeysIn)
open OracleCatalog.Text

/-! ### The tokens of a call -/

namespace Token

/-- Whether a token can have a value in its place. -/
def isPlaceholder : Token → Bool
  | .question | .named _ => true
  | _ => false

/-- The tokens of a text without colons and question marks. -/
def others (s : String) : List Token := s.toList.map .other

def ofArguments : List String → List Token
  | [] => []
  | [name] => [.named name.toList]
  | name :: next :: rest =>
    .named name.toList :: .other ',' :: .other ' ' :: ofArguments (next :: rest)

/-- The tokens that assign the value of a function. -/
def assignment (function : Bool) : List Token :=
  if function then [.named "result".toList, .other ' ', .pair '=', .other ' '] else []

def ofCall (name : String) (function : Bool) (names : List String) : List Token :=
  others "BEGIN " ++ (assignment function ++ (others name ++
    .other '(' :: (ofArguments names ++ .other ')' :: others "; END;")))

theorem cut_other {c : Char} {rest : List Char} {tokens : List Token} (hquestion : c ≠ '?')
    (hcolon : c ≠ ':') (cut : Cut rest tokens) : Cut (c :: rest) (.other c :: tokens) := by
  have longest : (Token.other c).IsLongest rest := ⟨hquestion, fun h => absurd h hcolon⟩
  exact .cons longest cut

theorem cut_others {s : String} {rest : List Char} {tokens : List Token}
    (hquestion : '?' ∉ s.toList) (hcolon : ':' ∉ s.toList) (cut : Cut rest tokens) :
    Cut (s.toList ++ rest) (others s ++ tokens) := by
  unfold others
  generalize s.toList = chars at hquestion hcolon ⊢
  induction chars with
  | nil => exact cut
  | cons c cs ih =>
    obtain ⟨hq, hquestion⟩ := List.ne_and_not_mem_of_not_mem_cons hquestion
    obtain ⟨hc, hcolon⟩ := List.ne_and_not_mem_of_not_mem_cons hcolon
    exact cut_other hq.symm hc.symm (ih hquestion hcolon)

theorem cut_named {name : String} {c : Char} {rest : List Char} {tokens : List Token}
    (hne : name ≠ "") (hname : name.toList.all isNameChar = true) (hc : isNameChar c = false)
    (cut : Cut (c :: rest) tokens) :
    Cut (':' :: (name.toList ++ c :: rest)) (.named name.toList :: tokens) := by
  have hchars : name.toList ≠ [] := fun h => hne (String.toList_eq_nil_iff.1 h)
  have hrest : (c :: rest).takeWhile isNameChar = [] :=
    List.takeWhile_cons_of_neg (ne_true_of_eq_false hc)
  exact .cons (isLongest_named hchars hname hrest) cut

theorem toList_placeholder (name : String) : (":" ++ name).toList = ':' :: name.toList := by
  rw [String.toList_append]
  rfl

theorem cut_arguments {names : List String} {rest : List Char} {tokens : List Token}
    (words : ∀ name ∈ names, name ≠ "" ∧ name.toList.all isNameChar = true)
    (cut : Cut (')' :: rest) tokens) :
    Cut ((join ", " (names.map (":" ++ ·))).toList ++ ')' :: rest)
      (ofArguments names ++ tokens) := by
  induction names with
  | nil => exact cut
  | cons name others ih =>
    obtain ⟨⟨hne, hname⟩, hothers⟩ := List.forall_mem_cons.1 words
    cases others with
    | nil =>
      rw [List.map_singleton, toList_join_singleton, toList_placeholder]
      exact cut_named hne hname (by decide) cut
    | cons next rest =>
      rw [List.map_cons, List.map_cons, toList_join_cons, toList_placeholder, List.append_assoc]
      refine cut_named hne hname (by decide) ?_
      refine cut_other (by decide) (by decide) (cut_other (by decide) (by decide) ?_)
      exact ih hothers

theorem cut_assignment (function : Bool) {rest : List Char} {tokens : List Token}
    (cut : Cut rest tokens) :
    Cut ((if function then resultName ++ " := " else "").toList ++ rest)
      (assignment function ++ tokens) := by
  unfold assignment
  cases function with
  | false => exact cut
  | true =>
    have hpair : (Token.pair '=').IsLongest (' ' :: rest) := .inr rfl
    have hsign := Cut.cons hpair (cut_other (by decide) (by decide) cut)
    have hblank : Cut (' ' :: ':' :: '=' :: ' ' :: rest) _ :=
      cut_other (by decide) (by decide) hsign
    have hne : ("result" : String) ≠ "" := by decide
    have hname : ("result" : String).toList.all isNameChar = true := by decide
    exact cut_named hne hname (by decide) hblank

/-- The call of a routine by its parts. -/
def callText (name : String) (function : Bool) (arguments : List String) : String :=
  "BEGIN " ++ (if function then resultName ++ " := " else "") ++
    (name ++ "(" ++ join ", " arguments ++ ")") ++ "; END;"

theorem toList_callText (name : String) (function : Bool) (arguments : List String) :
    (callText name function arguments).toList =
      "BEGIN ".toList ++ ((if function then resultName ++ " := " else "").toList ++
        (name.toList ++ '(' :: ((join ", " arguments).toList ++ ')' :: "; END;".toList))) := by
  have hopen : ("(" : String).toList = ['('] := by decide
  have hclose : (")" : String).toList = [')'] := by decide
  unfold callText
  simp only [String.toList_append, hopen, hclose, List.append_assoc, List.cons_append,
    List.nil_append]

theorem cut_call {name : String} (function : Bool) {names : List String}
    (hquestion : '?' ∉ name.toList) (hcolon : ':' ∉ name.toList)
    (words : ∀ word ∈ names, word ≠ "" ∧ word.toList.all isNameChar = true) :
    Cut (callText name function (names.map (":" ++ ·))).toList (ofCall name function names) := by
  have hbeginQuestion : '?' ∉ ("BEGIN " : String).toList := by decide
  have hbeginColon : ':' ∉ ("BEGIN " : String).toList := by decide
  have hendQuestion : '?' ∉ ("; END;" : String).toList := by decide
  have hendColon : ':' ∉ ("; END;" : String).toList := by decide
  have hend := cut_others hendQuestion hendColon .nil
  rw [List.append_nil, List.append_nil] at hend
  have hclose : Cut (')' :: "; END;".toList) (.other ')' :: others "; END;") :=
    cut_other (by decide) (by decide) hend
  have hopen : Cut ('(' :: _) (.other '(' :: _) :=
    cut_other (by decide) (by decide) (cut_arguments words hclose)
  have hcall := cut_assignment function (cut_others hquestion hcolon hopen)
  rw [toList_callText]
  exact cut_others hbeginQuestion hbeginColon hcall

/-! ### Values in the place of tokens -/

theorem replacedFrom_eq_flatMap (bound : Entries) (index : Nat) {tokens : List Token}
    (h : .question ∉ tokens) :
    replacedFrom bound index tokens = tokens.flatMap (Token.replaced bound index) := by
  induction tokens with
  | nil => rfl
  | cons token rest ih =>
    obtain ⟨hne, hrest⟩ := List.ne_and_not_mem_of_not_mem_cons h
    rw [replacedFrom, if_neg hne.symm, ih hrest, List.flatMap_cons]

theorem question_not_mem_others (s : String) : .question ∉ others s := by
  intro h
  obtain ⟨c, -, hc⟩ := List.mem_map.1 h
  cases hc

theorem filter_others (s : String) : (others s).filter isPlaceholder = [] := by
  refine List.filter_eq_nil_iff.2 fun token htoken => ?_
  obtain ⟨c, -, rfl⟩ := List.mem_map.1 htoken
  exact Bool.false_ne_true

theorem flatMap_others (bound : Entries) (s : String) :
    (others s).flatMap (Token.replaced bound 0) = s.toList := by
  unfold others
  rw [List.flatMap_map]
  exact List.flatMap_singleton' s.toList

theorem filter_ofArguments (names : List String) :
    (ofArguments names).filter isPlaceholder = names.map (.named ·.toList) := by
  induction names with
  | nil => rfl
  | cons name rest ih =>
    cases rest with
    | nil => rfl
    | cons next rest => exact congrArg (.named name.toList :: ·) ih

theorem question_not_mem_ofArguments (names : List String) : .question ∉ ofArguments names := by
  induction names with
  | nil => exact List.not_mem_nil
  | cons name rest ih =>
    cases rest with
    | nil => exact List.not_mem_cons_of_ne_of_not_mem nofun List.not_mem_nil
    | cons next rest =>
      refine List.not_mem_cons_of_ne_of_not_mem nofun ?_
      exact List.not_mem_cons_of_ne_of_not_mem nofun
        (List.not_mem_cons_of_ne_of_not_mem nofun ih)

theorem question_not_mem_ofCall (name : String) (function : Bool) (names : List String) :
    .question ∉ ofCall name function names := by
  have hassignment : .question ∉ assignment function := by cases function <;> decide
  unfold ofCall
  simp only [List.mem_append, List.mem_cons, reduceCtorEq, false_or, not_or]
  exact ⟨question_not_mem_others _, hassignment, question_not_mem_others _,
    question_not_mem_ofArguments _, question_not_mem_others _⟩

/-- The placeholders of a call: first the value of a function, then the arguments. -/
theorem filter_ofCall (name : String) (function : Bool) (names : List String) :
    (ofCall name function names).filter isPlaceholder =
      (if function then [.named "result".toList] else []) ++ names.map (.named ·.toList) := by
  have hassignment : (assignment function).filter isPlaceholder =
      if function then [.named "result".toList] else [] := by
    cases function <;> rfl
  have hother (c : Char) : ¬ isPlaceholder (.other c) = true := Bool.false_ne_true
  unfold ofCall
  rw [List.filter_append, filter_others, List.filter_append, hassignment, List.filter_append,
    filter_others, List.filter_cons_of_neg (hother '('), List.filter_append, filter_ofArguments,
    List.filter_cons_of_neg (hother ')'), filter_others, List.append_nil]
  rfl

section Values

variable {bound : Entries} {literal : String → String}

theorem flatMap_ofArguments {names : List String}
    (values : ∀ name ∈ names, nameText bound name.toList = (literal name).toList) :
    (ofArguments names).flatMap (Token.replaced bound 0) =
      (join ", " (names.map literal)).toList := by
  induction names with
  | nil => rfl
  | cons name others ih =>
    obtain ⟨hname, hothers⟩ := List.forall_mem_cons.1 values
    cases others with
    | nil =>
      rw [List.map_singleton, toList_join_singleton, ← hname]
      exact List.append_nil _
    | cons next rest =>
      rw [List.map_cons, List.map_cons, toList_join_cons, ← hname]
      exact congrArg (nameText bound name.toList ++ ',' :: ' ' :: ·) (ih hothers)

theorem flatMap_assignment (bound : Entries) (function : Bool) :
    (assignment function).flatMap (Token.replaced bound 0) =
      (if function then resultName ++ " := " else "").toList := by
  cases function with
  | false => rfl
  | true =>
    have hresult : nameText bound "result".toList = ':' :: "result".toList := if_pos (by decide)
    show nameText bound "result".toList ++ [' ', ':', '=', ' '] = _
    rw [hresult]
    decide

/-- Values that are bound under the names of the arguments show in their places. -/
theorem flatMap_ofCall (name : String) (function : Bool) {names : List String}
    (values : ∀ name ∈ names, nameText bound name.toList = (literal name).toList) :
    (ofCall name function names).flatMap (Token.replaced bound 0) =
      (callText name function (names.map literal)).toList := by
  unfold ofCall
  rw [toList_callText, List.flatMap_append, flatMap_others, List.flatMap_append,
    flatMap_assignment, List.flatMap_append, flatMap_others, List.flatMap_cons,
    List.flatMap_append, flatMap_ofArguments values, List.flatMap_cons, flatMap_others]
  rfl

end Values

end Token

/-! ### Calls of the rows -/

theorem nameText_of_lastValue? {bound : Entries} {name : String} {value : Value}
    (hresult : name ≠ "result") (h : lastValue? bound name.toList = some value) :
    nameText bound name.toList = (Literal.ofBound value).toList := by
  have hne : String.ofList (':' :: name.toList) ≠ resultName := by
    intro heq
    have hlist := congrArg String.toList heq
    rw [String.toList_ofList] at hlist
    exact hresult (String.toList_inj.1 (List.cons.inj hlist).2)
  unfold nameText
  rw [if_neg hne, h]

namespace RoutineBuilder

variable {builder : RoutineBuilder} {names : List String} {function : Bool}

theorem HasArguments.call_eq (h : builder.HasArguments names function) {name : String}
    (hname : builder.name = .text name) :
    builder.build.call = Token.callText name function (names.map (":" ++ ·)) := by
  have hplaceholders : builder.build.arguments.map (·.placeholder) = names.map (":" ++ ·) := by
    have hmap : builder.build.arguments.map (·.placeholder) =
        (builder.build.arguments.map (·.name)).map fun v => ":" ++ v.toText := by
      rw [List.map_map]
      rfl
    rw [hmap, h.map_arguments, List.map_map]
    rfl
  unfold Routine.call
  rw [h.isFunction, hplaceholders]
  show "BEGIN " ++ _ ++ (builder.name.toText ++ "(" ++ _ ++ ")") ++ "; END;" = _
  rw [hname]
  rfl

theorem isResult_iff {row : Row} (argument : row.IsArgumentRow) :
    row.argumentName?.isNone = true ↔ row.IsResult := by
  unfold Row.argumentName?
  rcases argument.named with ⟨s, hs⟩ | hresult
  · refine iff_of_false ?_ fun hresult => ?_
    · rw [hs]
      exact Bool.false_ne_true
    · cases hs.symm.trans hresult.1
  · refine iff_of_true ?_ hresult
    rw [hresult.1]
    rfl

def argumentRow (name type direction : String) : Row :=
  [("name", .text name), ("type", .text type), ("data_length", .int 22),
    ("direction", .text direction)]

def resultRow : Row := [("type", .text "NUMBER"), ("direction", .text "out")]

/-- The rows of a function whose value stands between its arguments. -/
def paymentRows : List Row :=
  [argumentRow "EMP" "NUMBER" "IN", resultRow, argumentRow "SUM#" "VARCHAR2" "IN/OUT"]

def paymentValues : Entries :=
  [(.text "SUM#", .text ":EMP"), (.text ":EMP", .int 7), (.text "result", .int 1)]

theorem argumentRow_isArgumentRow (name type direction : String) :
    (argumentRow name type direction).IsArgumentRow :=
  ⟨⟨type, rfl⟩, .inr ⟨22, rfl⟩, .inl rfl, .inl rfl, .inl rfl, .inr ⟨direction, rfl⟩,
    .inl ⟨name, rfl⟩⟩

theorem resultRow_isResult : resultRow.IsResult := ⟨rfl, _, rfl, by decide⟩

theorem resultRow_isArgumentRow : resultRow.IsArgumentRow :=
  ⟨⟨"NUMBER", rfl⟩, .inl rfl, .inl rfl, .inl rfl, .inl rfl, .inr ⟨"out", rfl⟩,
    .inr resultRow_isResult⟩

end RoutineBuilder

end OracleCatalog
