import Mathlib.Data.List.TakeWhile
import OracleCatalog.Literal
import OracleCatalog.Proofs.Text.Segments

/-!
# Literals in a text

A text literal ends at the first single apostrophe. So reading one is the same as finding the text
with its apostrophes doubled, and a text that was put between apostrophes as it is reads as itself
exactly when it has no apostrophe.

The literal of a text is read back wherever no apostrophe follows it, and nowhere can reading end
inside it. Definitions and the statement log write the same literals, but for the values that have
none of their own.
-/

namespace OracleCatalog.Literal

open OracleCatalog.Text

/-! ### Reading a literal -/

theorem double_cons_self (c : Char) (cs : List Char) :
    double c (c :: cs) = c :: c :: double c cs := by
  unfold double
  rw [List.flatMap_cons, if_pos rfl]
  rfl

theorem double_cons_of_ne {c d : Char} (h : d ≠ c) (cs : List Char) :
    double c (d :: cs) = d :: double c cs := by
  unfold double
  rw [List.flatMap_cons, if_neg h]
  rfl

theorem body_cons_of_ne {c : Char} (h : c ≠ '\'') (cs : List Char) :
    body (c :: cs) = (body cs).map fun (text, after) => (c :: text, after) := by
  rw [body.eq_3 _ _ fun _ hc _ => h hc, if_neg h]

theorem body_apostrophes (cs : List Char) :
    body ('\'' :: '\'' :: cs) = (body cs).map fun (text, after) => ('\'' :: text, after) := rfl

theorem body_closed {after : List Char} (h : after.head? ≠ some '\'') :
    body ('\'' :: after) = some ([], after) := by
  cases after with
  | nil => rfl
  | cons c cs =>
    have hc : c ≠ '\'' := fun heq => h (congrArg some heq)
    rw [body.eq_3 _ _ fun _ _ hcs => hc (List.cons.inj hcs).1, if_pos rfl]

/-- No character with its apostrophe doubled ends the reading. -/
theorem body_double_append (text cs : List Char) :
    body (double '\'' text ++ cs) = (body cs).map fun (back, after) => (text ++ back, after) := by
  induction text with
  | nil => exact Option.map_id'.symm
  | cons c text ih =>
    have hstep : body (double '\'' (c :: text) ++ cs) =
        (body (double '\'' text ++ cs)).map fun (back, after) => (c :: back, after) := by
      by_cases hc : c = '\''
      · rw [hc, double_cons_self, List.cons_append, List.cons_append, body_apostrophes]
      · rw [double_cons_of_ne hc, List.cons_append, body_cons_of_ne hc]
    rw [hstep, ih, Option.map_map]
    rfl

/-- What a literal says is found with its apostrophes doubled, up to a single one. -/
theorem body_eq_some_iff {cs text after : List Char} :
    body cs = some (text, after) ↔
      cs = double '\'' text ++ '\'' :: after ∧ after.head? ≠ some '\'' := by
  constructor
  · intro h
    fun_induction body cs generalizing text with
    | case1 => cases h
    | case2 rest ih =>
      obtain ⟨⟨text', after'⟩, hrest, heq⟩ := Option.map_eq_some_iff.1 h
      obtain ⟨rfl, rfl⟩ := Prod.mk.inj heq
      obtain ⟨hcs, hafter⟩ := ih hrest
      rw [double_cons_self, hcs]
      exact ⟨rfl, hafter⟩
    | case3 rest hsingle =>
      obtain ⟨rfl, rfl⟩ := Prod.mk.inj (Option.some.inj h)
      refine ⟨rfl, fun hhead => ?_⟩
      obtain ⟨rest', rfl⟩ := List.head?_eq_some_iff.1 hhead
      exact hsingle rest' rfl rfl
    | case4 c rest hsingle hc ih =>
      obtain ⟨⟨text', after'⟩, hrest, heq⟩ := Option.map_eq_some_iff.1 h
      obtain ⟨rfl, rfl⟩ := Prod.mk.inj heq
      obtain ⟨hcs, hafter⟩ := ih hrest
      rw [double_cons_of_ne hc, hcs]
      exact ⟨rfl, hafter⟩
  · rintro ⟨rfl, hafter⟩
    rw [body_double_append, body_closed hafter]
    exact congrArg (fun read => some (read, after)) (List.append_nil text)

/-! ### Literals that are read back -/

theorem lex_eq_some_iff {cs text after : List Char} :
    lex cs = some (text, after) ↔ cs = encode text ++ after ∧ after.head? ≠ some '\'' := by
  have hencode : encode text ++ after = '\'' :: (double '\'' text ++ '\'' :: after) := by
    simp [encode]
  rw [hencode]
  constructor
  · intro h
    unfold lex at h
    split at h
    · obtain ⟨hrest, hafter⟩ := body_eq_some_iff.1 h
      rw [hrest]
      exact ⟨rfl, hafter⟩
    · cases h
  · rintro ⟨rfl, hafter⟩
    exact body_eq_some_iff.2 ⟨rfl, hafter⟩

theorem lex_encode_iff {text after : List Char} :
    lex (encode text ++ after) = some (text, after) ↔ after.head? ≠ some '\'' := by
  rw [lex_eq_some_iff, and_iff_right rfl]

/-- Texts with their literals in front are told apart. -/
theorem encode_append_inj {text text' after after' : List Char} (hafter : after.head? ≠ some '\'')
    (hafter' : after'.head? ≠ some '\'') (h : encode text ++ after = encode text' ++ after') :
    text = text' ∧ after = after' := by
  have hread : lex (encode text ++ after) = some (text, after) := lex_encode_iff.2 hafter
  rw [h, lex_encode_iff.2 hafter'] at hread
  obtain ⟨rfl, rfl⟩ := Prod.mk.inj (Option.some.inj hread)
  exact ⟨rfl, rfl⟩

/-- Reading goes on through the text of a literal and up to its last apostrophe at least. -/
theorem prefix_of_lex_encode {text tail read after : List Char}
    (h : lex (encode text ++ tail) = some (read, after)) : text <+: read ∧ after <:+ tail := by
  have hbody : lex (encode text ++ tail) = body (double '\'' text ++ '\'' :: tail) := by
    simp [encode, lex]
  rw [hbody, body_double_append] at h
  obtain ⟨⟨back, after'⟩, hback, heq⟩ := Option.map_eq_some_iff.1 h
  obtain ⟨rfl, rfl⟩ := Prod.mk.inj heq
  refine ⟨List.prefix_append text back, ?_⟩
  rcases List.cons_eq_append_iff.1 (body_eq_some_iff.1 hback).1 with ⟨-, hafter⟩ | ⟨front, -, htail⟩
  · obtain rfl := (List.cons.inj hafter).2
    exact List.suffix_rfl
  · exact ⟨front ++ ['\''], by rw [htail, List.append_assoc]; rfl⟩

theorem toList_quote_append (s t : String) :
    (quote s ++ t).toList = encode s.toList ++ t.toList := by
  rw [String.toList_append, quote, String.toList_ofList]

/-! ### Texts that are put between apostrophes as they are -/

/-- An apostrophe that is in front of the doubled text meets one more at every step. -/
theorem head?_of_apostrophes {front text after tail : List Char} (hfront : front ≠ [])
    (hall : ∀ c ∈ front, c = '\'')
    (h : front ++ (double '\'' text ++ '\'' :: after) = text ++ '\'' :: tail) :
    tail.head? = some '\'' := by
  induction text generalizing front with
  | nil =>
    obtain ⟨c, rest, rfl⟩ := List.exists_cons_of_ne_nil hfront
    have hrest : rest ++ '\'' :: after = tail := (List.cons.inj h).2
    cases rest with
    | nil => rw [← hrest]; rfl
    | cons d rest =>
      rw [← hrest, hall d (List.mem_cons_of_mem _ List.mem_cons_self)]
      rfl
  | cons d text ih =>
    obtain ⟨c, rest, rfl⟩ := List.exists_cons_of_ne_nil hfront
    obtain ⟨rfl, hrest⟩ := List.cons.inj h
    obtain rfl := hall c List.mem_cons_self
    have hfront : rest ++ ['\'', '\''] ≠ [] := by simp
    refine ih hfront (fun e he => ?_) ?_
    · rcases List.mem_append.1 he with he | he
      · exact hall e (List.mem_cons_of_mem _ he)
      · simpa using he
    · rw [double_cons_self] at hrest
      simpa using hrest

theorem double_of_not_mem {c : Char} {cs : List Char} (h : c ∉ cs) : double c cs = cs := by
  induction cs with
  | nil => rfl
  | cons d cs ih =>
    obtain ⟨hd, hcs⟩ := List.ne_and_not_mem_of_not_mem_cons h
    rw [double_cons_of_ne (Ne.symm hd), ih hcs]

theorem double_append_eq_iff {text after tail : List Char} (htail : tail.head? ≠ some '\'') :
    double '\'' text ++ '\'' :: after = text ++ '\'' :: tail ↔ '\'' ∉ text ∧ after = tail := by
  constructor
  · intro h
    induction text with
    | nil => exact ⟨List.not_mem_nil, (List.cons.inj h).2⟩
    | cons c text ih =>
      by_cases hc : c = '\''
      · rw [hc, double_cons_self] at h
        have hrest := (List.cons.inj h).2
        exact absurd (head?_of_apostrophes (List.cons_ne_nil '\'' []) (by simp) hrest) htail
      · rw [double_cons_of_ne hc] at h
        obtain ⟨htext, hafter⟩ := ih (List.cons.inj h).2
        exact ⟨List.not_mem_cons_of_ne_of_not_mem (Ne.symm hc) htext, hafter⟩
  · rintro ⟨htext, rfl⟩
    rw [double_of_not_mem htext]

/-- A text between apostrophes reads as itself exactly when it has none. -/
theorem body_bare_iff {text after tail : List Char} (htail : tail.head? ≠ some '\'') :
    body (text ++ '\'' :: tail) = some (text, after) ↔ '\'' ∉ text ∧ after = tail := by
  rw [body_eq_some_iff, eq_comm, double_append_eq_iff htail]
  refine and_iff_left_of_imp fun h => ?_
  rw [h.2]
  exact htail

/-! ### Code and its literals -/

/-- A part of a text of code. -/
inductive Part where
  | code (cs : List Char)
  /-- A literal, as the text that it stands for. -/
  | literal (text : List Char)
  deriving DecidableEq

/-- What follows the first literal of a text is shorter than the text. -/
theorem length_after_lt {cs rest text after : List Char} {c : Char}
    (hrest : cs.dropWhile (· ≠ '\'') = c :: rest) (hbody : body rest = some (text, after)) :
    after.length < cs.length := by
  have hle : (cs.dropWhile (· ≠ '\'')).length ≤ cs.length := (List.dropWhile_sublist _).length_le
  rw [hrest, (body_eq_some_iff.1 hbody).1] at hle
  simp only [List.length_cons, List.length_append] at hle
  omega

/-- The code and the literals of a text in turn, none where a literal is not closed. -/
def parts? (cs : List Char) : Option (List Part) :=
  match hrest : cs.dropWhile (· ≠ '\'') with
  | [] => some [.code cs]
  | _ :: rest =>
    match hbody : body rest with
    | none => none
    | some (text, after) =>
      have : after.length < cs.length := length_after_lt hrest hbody
      (parts? after).map fun parts =>
        .code (cs.takeWhile (· ≠ '\'')) :: .literal text :: parts
termination_by cs.length

theorem parts?_code {code : List Char} (h : '\'' ∉ code) : parts? code = some [.code code] := by
  have hdrop : code.dropWhile (· ≠ '\'') = [] := by
    refine List.dropWhile_eq_nil_iff.2 fun c hc => decide_eq_true fun heq => h (heq ▸ hc)
  rw [parts?]
  split
  · rfl
  · rename_i hrest
    rw [hdrop] at hrest
    cases hrest

theorem parts?_literal {code : List Char} (h : '\'' ∉ code) (cs : List Char) :
    parts? (code ++ '\'' :: cs) = (body cs).bind fun (text, after) =>
      (parts? after).map fun parts => .code code :: .literal text :: parts := by
  have hspan : ∀ c ∈ code, decide (c ≠ '\'') = true :=
    fun c hc => decide_eq_true fun heq => h (heq ▸ hc)
  have hstop : ∀ c ∈ ('\'' :: cs).head?, decide (c ≠ '\'') = false := by simp
  obtain ⟨htake, hdrop⟩ := takeWhile_dropWhile_append hspan hstop
  rw [parts?]
  split
  · rename_i hrest
    rw [hdrop] at hrest
    cases hrest
  · rename_i c rest hrest
    rw [hdrop] at hrest
    obtain ⟨-, rfl⟩ := List.cons.inj hrest
    split
    · rename_i hbody
      simp only [hbody, Option.bind_none]
    · rename_i text after hbody
      simp only [hbody, htake, Option.bind_some]

theorem parts?_bare {code text tail : List Char} (hcode : '\'' ∉ code) (htext : '\'' ∉ text)
    (htail : tail.head? ≠ some '\'') :
    parts? (code ++ '\'' :: (text ++ '\'' :: tail)) =
      (parts? tail).map fun parts => .code code :: .literal text :: parts := by
  rw [parts?_literal hcode, (body_bare_iff htail).2 ⟨htext, rfl⟩, Option.bind_some]

/-- The first literal of a text is what was put between apostrophes exactly when that has none. -/
theorem parts?_bare_iff {code text tail : List Char} {parts : List Part} (hcode : '\'' ∉ code)
    (htail : tail.head? ≠ some '\'') :
    parts? (code ++ '\'' :: (text ++ '\'' :: tail)) =
        some (.code code :: .literal text :: parts) ↔
      '\'' ∉ text ∧ parts? tail = some parts := by
  constructor
  · intro h
    rw [parts?_literal hcode] at h
    obtain ⟨⟨text', after⟩, hbody, hmap⟩ := Option.bind_eq_some_iff.1 h
    obtain ⟨parts', hafter, heq⟩ := Option.map_eq_some_iff.1 hmap
    obtain ⟨-, heq⟩ := List.cons.inj heq
    obtain ⟨htext, rfl⟩ := List.cons.inj heq
    obtain rfl := Part.literal.inj htext
    obtain ⟨hnot, rfl⟩ := (body_bare_iff htail).1 hbody
    exact ⟨hnot, hafter⟩
  · rintro ⟨hnot, hparts⟩
    rw [parts?_bare hcode hnot htail, hparts]
    rfl

/-! ### Two ways of writing -/

theorem length_le_double (c : Char) (cs : List Char) : cs.length ≤ (double c cs).length := by
  induction cs with
  | nil => exact Nat.zero_le _
  | cons a rest ih =>
    unfold double at ih ⊢
    rw [List.flatMap_cons, List.length_append, List.length_cons]
    split
    · simp only [List.length_cons, List.length_nil]
      omega
    · simp only [List.length_cons, List.length_nil]
      omega

theorem length_lt_quote (s : String) : s.toList.length < (quote s).toList.length := by
  have hdouble := length_le_double '\'' s.toList
  unfold quote encode
  simp only [String.toList_ofList, List.length_append, List.length_cons, List.length_nil]
  omega

/-- Nulls, truth values, numbers and texts have literals of their own. -/
def hasLiteral : Value → Bool
  | .null | .bool _ | .int _ | .float _ | .decimal _ | .text _ => true
  | _ => false

theorem ofBound_eq_ofValue {v : Value} (h : hasLiteral v = true) : ofBound v = ofValue v := by
  cases v with
  | null | bool | int | float | decimal | text => rfl
  | bytes | list | tuple | map | lob => cases h

/-- Any other value is shown bare in the one way, and in apostrophes in the other. -/
theorem ofBound_ne_ofValue {v : Value} (h : hasLiteral v = false) : ofBound v ≠ ofValue v := by
  have hlonger (s : String) : s ≠ quote s := fun heq => (length_lt_quote s).ne (by rw [← heq])
  cases v with
  | null | bool | int | float | decimal | text => cases h
  | bytes | list | tuple | map | lob => exact hlonger _

theorem writeBound_eq_write_iff (v : Value) :
    writeBound v = write v ↔ hasLiteral v = true ∨ v.writable = false := by
  unfold writeBound write writeAs
  cases hwritable : v.writable with
  | false => exact iff_of_true rfl (.inr rfl)
  | true =>
    rw [if_pos rfl, if_pos rfl, Except.ok.injEq, or_iff_left Bool.noConfusion]
    refine ⟨fun h => ?_, ofBound_eq_ofValue⟩
    by_contra hnone
    exact ofBound_ne_ofValue (Bool.not_eq_true _ ▸ hnone) h

theorem write_text_injective : Function.Injective fun s : String => write (.text s) := by
  intro s s' h
  have hquote : quote s ++ "" = quote s' ++ "" := congrArg (· ++ "") (Except.ok.inj h)
  have hencode := congrArg String.toList hquote
  rw [toList_quote_append, toList_quote_append] at hencode
  exact String.toList_injective (encode_append_inj (by decide) (by decide) hencode).1

/-- The literal of a text is read as that text and no further wherever no apostrophe follows it, and
reading never ends inside it. No two texts have the same literal. Both ways of writing agree on the
values that have literals of their own, and else only where neither writes anything. -/
theorem text_literals_read_back :
    (∀ s : String, write (.text s) = .ok (quote s) ∧ ∀ t : String,
      (lex (quote s ++ t).toList = some (s.toList, t.toList) ↔ t.toList.head? ≠ some '\'') ∧
      ∀ read after, lex (quote s ++ t).toList = some (read, after) →
        s.toList <+: read ∧ after <:+ t.toList) ∧
    (Function.Injective fun s : String => write (.text s)) ∧
    ∀ v, writeBound v = write v ↔ hasLiteral v = true ∨ v.writable = false := by
  refine ⟨fun s => ⟨rfl, fun t => ?_⟩, write_text_injective, writeBound_eq_write_iff⟩
  rw [toList_quote_append]
  exact ⟨lex_encode_iff, fun _ _ => prefix_of_lex_encode⟩

/-- Apostrophes at both ends and inside, and one more behind the literal. -/
theorem apostrophes_read_back :
    write (.text "'it's'") = .ok "'''it''s'''" ∧
      lex ("'''it''s'''" ++ ", x").toList = some ("'it's'".toList, ", x".toList) ∧
      lex ("'''it''s'''" ++ "', x'").toList = some ("'it's'', x".toList, []) ∧
      "'it's'".toList <+: "'it's'', x".toList := by
  have hquote : quote "'it's'" = "'''it''s'''" := by decide
  obtain ⟨hwrite, hread⟩ := text_literals_read_back.1 "'it's'"
  rw [hquote] at hwrite hread
  have hlonger : lex ("'''it''s'''" ++ "', x'").toList = some ("'it's'', x".toList, []) := by decide
  exact ⟨hwrite, (hread ", x").1.2 (by decide), hlonger, ((hread "', x'").2 _ _ hlonger).1⟩

end OracleCatalog.Literal
