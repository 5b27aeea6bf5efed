import OracleCatalog.Proofs.Statement.Cut
import OracleCatalog.Text.Split

/-!
# The names in a text

A character that neither stands in names nor belongs to a colon breaks a text: what stands before it
and what stands behind it are cut into tokens apart. So the names in a text are those in its lines.
-/

namespace OracleCatalog

namespace Token

/-- Whether tokens end in front of the character, whatever they are. -/
def IsBreak (c : Char) : Prop := isNameChar c = false ∧ c ≠ ':' ∧ c ≠ '='

variable {c : Char}

theorem takeWhile_append_break {p : Char → Bool} (hc : p c = false) (cs after : List Char) :
    (cs ++ c :: after).takeWhile p = cs.takeWhile p := by
  have hnot : ¬ p c = true := ne_true_of_eq_false hc
  induction cs with
  | nil => exact List.takeWhile_cons_of_neg hnot
  | cons d cs ih =>
    rw [List.cons_append, List.takeWhile_cons, List.takeWhile_cons, ih]

theorem dropWhile_append_break {p : Char → Bool} (hc : p c = false) (cs after : List Char) :
    (cs ++ c :: after).dropWhile p = cs.dropWhile p ++ c :: after := by
  have hnot : ¬ p c = true := ne_true_of_eq_false hc
  induction cs with
  | nil => exact List.dropWhile_cons_of_neg hnot
  | cons d cs ih =>
    rw [List.cons_append, List.dropWhile_cons, List.dropWhile_cons, ih]
    split <;> rfl

theorem next_append_break (hc : IsBreak c) (d : Char) (ds after : List Char) :
    next d (ds ++ c :: after) = ((next d ds).1, (next d ds).2 ++ c :: after) := by
  obtain ⟨hname, hcolon, hequals⟩ := hc
  unfold next
  by_cases hquestion : d = '?'
  · rw [if_pos hquestion, if_pos hquestion]
  rw [if_neg hquestion, if_neg hquestion]
  by_cases hd : d = ':'
  · rw [if_pos hd, if_pos hd]
    cases ds with
    | nil =>
      have hpair : ¬ (decide (c = ':') || decide (c = '=')) = true := by
        rw [decide_eq_false hcolon, decide_eq_false hequals]
        exact Bool.false_ne_true
      dsimp only [List.nil_append]
      rw [if_neg (ne_true_of_eq_false hname), if_neg hpair]
    | cons e es =>
      have htake := takeWhile_append_break hname (e :: es) after
      have hdrop := dropWhile_append_break hname (e :: es) after
      rw [List.cons_append] at htake hdrop
      dsimp only [List.cons_append]
      rw [htake, hdrop]
      split
      · rfl
      · split <;> rfl
  · rw [if_neg hd, if_neg hd]

theorem isBreak_blank : IsBreak ' ' := ⟨by decide, by decide, by decide⟩

/-- What stands before a break and what stands behind it are cut apart. -/
theorem ofText_append_break (hc : IsBreak c) (before after : List Char) :
    ofText (before ++ c :: after) = ofText before ++ ofText (c :: after) := by
  fun_induction ofText before with
  | case1 => rfl
  | case2 d ds ih =>
    rw [List.cons_append, ofText, next_append_break hc, ih]
    rfl

end Token

/-! ### Names -/

def Token.name? : Token → Option String
  | .named name => some (String.ofList name)
  | _ => none

/-- The names behind colons in a text, in their order. -/
def namesIn (cs : List Char) : List String := (Token.ofText cs).filterMap Token.name?

theorem mem_namesIn {cs name : List Char} :
    String.ofList name ∈ namesIn cs ↔ .named name ∈ Token.ofText cs := by
  unfold namesIn
  rw [List.mem_filterMap]
  constructor
  · rintro ⟨token, hmem, hname⟩
    cases token with
    | named other =>
      obtain rfl := String.ofList_injective (Option.some.inj hname)
      exact hmem
    | _ => cases hname
  · intro hmem
    exact ⟨_, hmem, rfl⟩

@[simp] theorem namesIn_nil : namesIn [] = [] := by
  rw [namesIn, Token.ofText]
  rfl

@[simp] theorem namesIn_cons_of_ne {c : Char} (hc : c ≠ ':') (cs : List Char) :
    namesIn (c :: cs) = namesIn cs := by
  have hnext : Token.next c cs = (if c = '?' then .question else .other c, cs) := by
    unfold Token.next
    split
    · rfl
    · rfl
  unfold namesIn
  rw [Token.ofText, hnext]
  split <;> rfl

@[simp] theorem namesIn_colon {d : Char} (hd : isNameChar d = true) (cs : List Char) :
    namesIn (':' :: d :: cs) =
      String.ofList (d :: cs.takeWhile isNameChar) :: namesIn (cs.dropWhile isNameChar) := by
  have hnext : Token.next ':' (d :: cs) =
      (.named (d :: cs.takeWhile isNameChar), cs.dropWhile isNameChar) := by
    simp [Token.next, hd]
  unfold namesIn
  rw [Token.ofText, hnext]
  rfl

theorem namesIn_append_of_no_colon {before : List Char} (h : ':' ∉ before) (after : List Char) :
    namesIn (before ++ after) = namesIn after := by
  induction before with
  | nil => rfl
  | cons c cs ih =>
    obtain ⟨hc, hcs⟩ := List.ne_and_not_mem_of_not_mem_cons h
    rw [List.cons_append, namesIn_cons_of_ne (Ne.symm hc), ih hcs]

theorem namesIn_of_no_colon {cs : List Char} (h : ':' ∉ cs) : namesIn cs = [] := by
  have happend := namesIn_append_of_no_colon h []
  rw [List.append_nil, namesIn_nil] at happend
  exact happend

theorem namesIn_append_break {c : Char} (hc : Token.IsBreak c) (before after : List Char) :
    namesIn (before ++ c :: after) = namesIn before ++ namesIn after := by
  rw [← namesIn_cons_of_ne hc.2.1 after]
  unfold namesIn
  rw [Token.ofText_append_break hc, List.filterMap_append]

/-! ### Names in texts -/

def placeholderNames (text : String) : List String := namesIn text.toList

/-- A text that is given by its characters is read by rewriting alone. -/
theorem placeholderNames_chars {text : String} {cs : List Char} (h : text = String.ofList cs) :
    placeholderNames text = namesIn cs := by
  rw [h, placeholderNames, String.toList_ofList]

theorem placeholderNames_of_no_colon {text : String} (h : ':' ∉ text.toList) :
    placeholderNames text = [] := namesIn_of_no_colon h

theorem placeholderNames_append {before : String} (h : ':' ∉ before.toList) (after : String) :
    placeholderNames (before ++ after) = placeholderNames after := by
  rw [placeholderNames, String.toList_append]
  exact namesIn_append_of_no_colon h after.toList

theorem placeholderNames_append_break {after : String} {c : Char} {cs : List Char}
    (hafter : after = String.ofList (c :: cs)) (hc : Token.IsBreak c) (before : String) :
    placeholderNames (before ++ after) = placeholderNames before ++ placeholderNames after := by
  rw [placeholderNames_chars hafter, namesIn_cons_of_ne hc.2.1, hafter, placeholderNames,
    String.toList_append, String.toList_ofList]
  exact namesIn_append_break hc before.toList cs

theorem placeholderNames_append_blank {before : String} {cs : List Char}
    (hbefore : before = String.ofList cs) (hlast : cs.getLast? = some ' ') (after : String) :
    placeholderNames (before ++ after) = placeholderNames before ++ placeholderNames after := by
  obtain ⟨front, rfl⟩ := List.getLast?_eq_some_iff.1 hlast
  rw [placeholderNames_chars hbefore, hbefore, placeholderNames, String.toList_append,
    String.toList_ofList, List.append_assoc, List.singleton_append,
    namesIn_append_break Token.isBreak_blank, namesIn_append_break Token.isBreak_blank,
    namesIn_nil, List.append_nil]
  rfl

theorem placeholderNames_join {sep : String} {c : Char} {cs : List Char}
    (hsep : sep.toList = c :: cs) (hc : Token.IsBreak c) (hcs : ':' ∉ cs) (texts : List String) :
    placeholderNames (Text.join sep texts) = texts.flatMap placeholderNames := by
  unfold Text.join
  induction texts with
  | nil => exact namesIn_nil
  | cons text texts ih =>
    cases texts with
    | nil => rw [String.intercalate_singleton, List.flatMap_cons, List.flatMap_nil, List.append_nil]
    | cons next rest =>
      have hrest : namesIn (cs ++ (sep.intercalate (next :: rest)).toList) =
          (next :: rest).flatMap placeholderNames :=
        (namesIn_append_of_no_colon hcs _).trans ih
      rw [String.intercalate_cons_cons, placeholderNames, String.append_assoc,
        String.toList_append, String.toList_append, hsep, List.cons_append,
        namesIn_append_break hc, hrest]
      rfl

theorem placeholderNames_lines (texts : List String) :
    placeholderNames (Text.lines texts) = texts.flatMap placeholderNames := by
  have hsep : ("\n" : String).toList = ['\n'] := by decide
  have hbreak : Token.IsBreak '\n' := ⟨by decide, by decide, by decide⟩
  exact placeholderNames_join hsep hbreak List.not_mem_nil texts

end OracleCatalog
