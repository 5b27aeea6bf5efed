/-!
# Cutting and joining texts

Cutting a text at a separator and joining the pieces undo each other. Replacement of a part works
from left to right and never looks at what it has written.
-/

namespace OracleCatalog.Text

/-! ### Segments -/

/-- The pieces of the text between the separators; there is always at least one. -/
def cut (sep : Char) : List Char → List (List Char)
  | [] => [[]]
  | c :: cs =>
    if c = sep then [] :: cut sep cs
    else
      match cut sep cs with
      | [] => [[c]]
      | piece :: pieces => (c :: piece) :: pieces

theorem cut_ne_nil (sep : Char) (cs : List Char) : cut sep cs ≠ [] := by
  cases cs with
  | nil => simp [cut]
  | cons c cs =>
    unfold cut
    split
    · simp
    · split <;> simp

/-- The pieces with the separator between neighbours. -/
def paste (sep : Char) : List (List Char) → List Char
  | [] => []
  | [piece] => piece
  | piece :: pieces => piece ++ sep :: paste sep pieces

/-- Putting the separators back gives the text again. -/
theorem paste_cut (sep : Char) (cs : List Char) : paste sep (cut sep cs) = cs := by
  induction cs with
  | nil => rfl
  | cons c cs ih =>
    unfold cut
    cases h : cut sep cs with
    | nil => exact absurd h (cut_ne_nil sep cs)
    | cons piece pieces =>
      rw [h] at ih
      by_cases hc : c = sep
      · simp [hc, paste, ih]
      · cases pieces with
        | nil => simpa [hc, paste] using ih
        | cons next rest => simpa [hc, paste] using ih

def segments (sep : Char) (s : String) : List String := (cut sep s.toList).map String.ofList

/-- The texts with a separator between neighbours. -/
def join (sep : String) (texts : List String) : String := sep.intercalate texts

theorem toList_join_singleton (sep text : String) : (join sep [text]).toList = text.toList := by
  unfold join
  rw [String.intercalate_singleton]

theorem toList_join_cons (sep first next : String) (rest : List String) :
    (join sep (first :: next :: rest)).toList =
      first.toList ++ (sep.toList ++ (join sep (next :: rest)).toList) := by
  unfold join
  rw [String.intercalate_cons_cons, String.toList_append, String.toList_append, List.append_assoc]

def lines (texts : List String) : String := join "\n" texts

/-! ### Characters that a text does not have -/

section

variable {c : Char} {before after text : String}

/-- The characters of a text that is written out are read off it, without decoding the text. -/
theorem not_mem_chars {cs : List Char} (h : text = String.ofList cs) (hcs : c ∉ cs) :
    c ∉ text.toList := by
  rw [h, String.toList_ofList]
  exact hcs

theorem not_mem_append (hbefore : c ∉ before.toList) (hafter : c ∉ after.toList) :
    c ∉ (before ++ after).toList := by
  rw [String.toList_append, List.mem_append]
  exact not_or.2 ⟨hbefore, hafter⟩

theorem not_mem_join {sep : String} {texts : List String} (hsep : c ∉ sep.toList)
    (h : ∀ text ∈ texts, c ∉ text.toList) : c ∉ (join sep texts).toList := by
  induction texts with
  | nil => exact List.not_mem_nil
  | cons text rest ih =>
    obtain ⟨htext, hrest⟩ := List.forall_mem_cons.1 h
    cases rest with
    | nil => rwa [toList_join_singleton]
    | cons next rest =>
      rw [toList_join_cons, List.mem_append, List.mem_append]
      exact not_or.2 ⟨htext, not_or.2 ⟨hsep, ih hrest⟩⟩

/-- A text that is written out, cut in two. -/
theorem eq_append_chars {cs ds : List Char} (hbefore : before = String.ofList cs)
    (hafter : after = String.ofList ds) (h : text = String.ofList (cs ++ ds)) :
    text = before ++ after := by
  rw [hbefore, hafter, h, String.ofList_append]

end

/-! ### Replacement -/

/-- Every character `c` written twice. -/
def double (c : Char) (cs : List Char) : List Char :=
  cs.flatMap fun d => if d = c then [d, d] else [d]

/-- The text with every occurrence of `old` replaced, after `skip` characters that are dropped. -/
def replaceFrom (old new : List Char) : Nat → List Char → List Char
  | _, [] => []
  | skip + 1, _ :: cs => replaceFrom old new skip cs
  | 0, c :: cs =>
    if old.isPrefixOf (c :: cs) then new ++ replaceFrom old new (old.length - 1) cs
    else c :: replaceFrom old new 0 cs

def replace (old new s : String) : String :=
  String.ofList (replaceFrom old.toList new.toList 0 s.toList)

def contains (part : List Char) : List Char → Bool
  | [] => part.isEmpty
  | c :: cs => part.isPrefixOf (c :: cs) || contains part cs

end OracleCatalog.Text
