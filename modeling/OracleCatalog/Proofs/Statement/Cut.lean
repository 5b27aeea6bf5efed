import OracleCatalog.Proofs.Text.Segments
import OracleCatalog.Statement.Placeholder

/-!
# Cutting a statement

A text is cut into tokens from left to right. A token has to be as long as it can be in front of
what follows it, and then there is exactly one way to cut a text.
-/

namespace OracleCatalog.Token

/-- Whether a token cannot be longer, nor be another one, in front of the rest of a text. -/
def IsLongest : Token → List Char → Prop
  | .question, _ => True
  | .named name, rest =>
    name ≠ [] ∧ (∀ c ∈ name, isNameChar c = true) ∧ ∀ c ∈ rest.head?, isNameChar c = false
  | .pair second, _ => second = ':' ∨ second = '='
  | .other c, rest =>
    c ≠ '?' ∧ (c = ':' → ∀ d ∈ rest.head?, isNameChar d = false ∧ d ≠ ':' ∧ d ≠ '=')

/-- The tokens that a text is cut into. -/
inductive Cut : List Char → List Token → Prop
  | nil : Cut [] []
  | cons {token : Token} {rest : List Char} {tokens : List Token} (longest : token.IsLongest rest)
    (cut : Cut rest tokens) : Cut (token.text ++ rest) (token :: tokens)

/-! ### The first token -/

theorem isLongest_next (c : Char) (cs : List Char) : (next c cs).1.IsLongest (next c cs).2 := by
  unfold next
  split
  · trivial
  · rename_i hquestion
    split
    · split
      · exact ⟨hquestion, fun _ d hd => by cases hd⟩
      · rename_i d rest
        split
        · rename_i hname
          refine ⟨?_, fun c hc => List.all_eq_true.1 List.all_takeWhile c hc, fun c hc => ?_⟩
          · rw [List.takeWhile_cons_of_pos hname]
            exact List.cons_ne_nil _ _
          · have hhead := List.head?_dropWhile_not isNameChar (d :: rest)
            rw [Option.mem_def.1 hc] at hhead
            exact hhead
        · rename_i hname
          split
          · rename_i hpair
            simpa only [IsLongest, Bool.or_eq_true, decide_eq_true_eq] using hpair
          · rename_i hpair
            refine ⟨hquestion, fun _ e he => ?_⟩
            obtain rfl := Option.some.inj he
            simpa [hname] using hpair
    · rename_i hcolon
      exact ⟨hquestion, fun h => absurd h hcolon⟩

theorem isLongest_named {name rest : List Char} (hne : name ≠ [])
    (hname : name.all isNameChar = true) (hrest : rest.takeWhile isNameChar = []) :
    (named name).IsLongest rest := by
  refine ⟨hne, List.all_eq_true.1 hname, fun c hc => ?_⟩
  obtain ⟨rest, rfl⟩ := List.head?_eq_some_iff.1 hc
  cases hchar : isNameChar c with
  | false => rfl
  | true =>
    rw [List.takeWhile_cons_of_pos hchar] at hrest
    cases hrest

theorem text_ne_nil (token : Token) : token.text ≠ [] := by
  cases token <;> exact List.cons_ne_nil _ _

/-- A token that cannot be longer is the first one that the text is cut into. -/
theorem next_of_isLongest {token : Token} {rest cs : List Char} {c : Char}
    (h : token.IsLongest rest) (hcs : token.text ++ rest = c :: cs) :
    next c cs = (token, rest) := by
  cases token with
  | question =>
    cases hcs
    rfl
  | named name =>
    cases hcs
    obtain ⟨hne, hname, hrest⟩ := h
    obtain ⟨htake, hdrop⟩ := Text.takeWhile_dropWhile_append hname hrest
    obtain ⟨d, name, rfl⟩ := List.exists_cons_of_ne_nil hne
    unfold next
    rw [if_neg (by decide), if_pos rfl]
    show (if isNameChar d then _ else _) = _
    rw [if_pos (hname d List.mem_cons_self)]
    exact Prod.ext (congrArg named htake) hdrop
  | pair second =>
    cases hcs
    rcases h with rfl | rfl <;> rfl
  | other first =>
    cases hcs
    obtain ⟨hquestion, hcolon⟩ := h
    unfold next
    rw [if_neg hquestion]
    split
    · rename_i hc
      cases rest with
      | nil => rfl
      | cons d rest =>
        obtain ⟨hname, hnoColon, hnoEquals⟩ := hcolon hc d rfl
        simp [hname, hnoColon, hnoEquals]
    · rfl

/-! ### All tokens -/

theorem cut_ofText (cs : List Char) : Cut cs (ofText cs) := by
  fun_induction ofText cs with
  | case1 => exact .nil
  | case2 c cs ih =>
    have hcut := Cut.cons (isLongest_next c cs) ih
    rw [text_next] at hcut
    exact hcut

theorem eq_ofText_of_cut {cs : List Char} {tokens : List Token} (h : Cut cs tokens) :
    tokens = ofText cs := by
  induction h with
  | nil => simp [ofText]
  | @cons token rest tokens longest _ ih =>
    obtain ⟨c, cs, hcs⟩ := List.exists_cons_of_ne_nil
      (List.append_ne_nil_of_left_ne_nil (text_ne_nil token) rest)
    rw [hcs, ofText, next_of_isLongest longest hcs, ← ih]

theorem cut_iff {cs : List Char} {tokens : List Token} : Cut cs tokens ↔ tokens = ofText cs :=
  ⟨eq_ofText_of_cut, fun h => h ▸ cut_ofText cs⟩

theorem isLongest_of_mem {cs : List Char} {token : Token} (h : token ∈ ofText cs) :
    ∃ rest, token.IsLongest rest := by
  fun_induction ofText cs with
  | case1 => cases h
  | case2 c cs ih =>
    rcases List.mem_cons.1 h with rfl | hrest
    · exact ⟨_, isLongest_next c cs⟩
    · exact ih hrest

end OracleCatalog.Token
