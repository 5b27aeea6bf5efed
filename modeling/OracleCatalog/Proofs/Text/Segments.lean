import Mathlib.Data.List.TakeWhile
import OracleCatalog.Proofs.Text.Case
import OracleCatalog.Text.Character

/-!
# Texts that are put together from segments and from words

Cutting a text at the separators undoes pasting, piece by piece: the pieces of a pasted text are the
pieces of its segments in turn, and a segment without a separator is a piece of its own.

Two texts of the same words differ in their blanks alone. Trimming a text keeps its words, and so
does putting single blanks between them.
-/

namespace OracleCatalog.Text

/-! ### Runs at the front of a text -/

/-- A run of characters is taken off in front of what does not go on with it. -/
theorem takeWhile_dropWhile_append {p : Char → Bool} {front rest : List Char}
    (hfront : ∀ c ∈ front, p c = true) (hrest : ∀ c ∈ rest.head?, p c = false) :
    (front ++ rest).takeWhile p = front ∧ (front ++ rest).dropWhile p = rest := by
  rw [List.takeWhile_append_of_pos hfront, List.dropWhile_append_of_pos hfront]
  cases rest with
  | nil => exact ⟨List.append_nil _, rfl⟩
  | cons c rest =>
    have hc : ¬p c = true := by
      rw [hrest c rfl]
      exact Bool.false_ne_true
    rw [List.takeWhile_cons_of_neg hc, List.dropWhile_cons_of_neg hc]
    exact ⟨List.append_nil _, rfl⟩

/-! ### Cutting what was pasted -/

variable {sep : Char}

theorem cut_append_cons (front cs : List Char) :
    cut sep (front ++ sep :: cs) = cut sep front ++ cut sep cs := by
  induction front with
  | nil => simp [cut]
  | cons c front ih =>
    rw [List.cons_append, cut, cut, ih]
    by_cases hc : c = sep
    · rw [if_pos hc, if_pos hc]
      rfl
    · rw [if_neg hc, if_neg hc]
      cases hcut : cut sep front with
      | nil => exact absurd hcut (cut_ne_nil sep front)
      | cons piece pieces => rfl

theorem cut_of_not_mem {cs : List Char} (h : sep ∉ cs) : cut sep cs = [cs] := by
  obtain ⟨piece, pieces, hcut, happend⟩ := cut_append h []
  obtain ⟨rfl, rfl⟩ := List.cons.inj hcut
  rwa [List.append_nil] at happend

theorem not_mem_of_mem_cut {cs piece : List Char} (h : piece ∈ cut sep cs) : sep ∉ piece := by
  induction cs generalizing piece with
  | nil =>
    obtain rfl := List.mem_singleton.1 h
    exact List.not_mem_nil
  | cons c cs ih =>
    obtain ⟨first, rest, hcut⟩ := List.exists_cons_of_ne_nil (cut_ne_nil sep cs)
    rw [cut, hcut] at h
    rw [hcut] at ih
    by_cases hc : c = sep
    · rw [if_pos hc] at h
      rcases List.mem_cons.1 h with rfl | hrest
      · exact List.not_mem_nil
      · exact ih hrest
    · rw [if_neg hc] at h
      rcases List.mem_cons.1 h with rfl | hrest
      · exact List.not_mem_cons_of_ne_of_not_mem (Ne.symm hc) (ih List.mem_cons_self)
      · exact ih (List.mem_cons_of_mem _ hrest)

theorem paste_cons {pieces : List (List Char)} (hne : pieces ≠ []) (piece : List Char) :
    paste sep (piece :: pieces) = piece ++ sep :: paste sep pieces := by
  cases pieces with
  | nil => exact absurd rfl hne
  | cons next rest => rfl

theorem paste_append {front back : List (List Char)} (hfront : front ≠ []) (hback : back ≠ []) :
    paste sep (front ++ back) = paste sep front ++ sep :: paste sep back := by
  induction front with
  | nil => exact absurd rfl hfront
  | cons piece rest ih =>
    cases rest with
    | nil => exact paste_cons hback piece
    | cons next rest =>
      have hmore : next :: rest ++ back ≠ [] := List.cons_ne_nil _ _
      rw [List.cons_append, paste_cons hmore, ih (List.cons_ne_nil _ _),
        paste_cons (List.cons_ne_nil _ _), List.append_assoc, List.cons_append]

theorem cut_paste {pieces : List (List Char)} (hne : pieces ≠ []) :
    cut sep (paste sep pieces) = pieces.flatMap (cut sep) := by
  induction pieces with
  | nil => exact absurd rfl hne
  | cons piece rest ih =>
    by_cases hrest : rest = []
    · rw [hrest, List.flatMap_singleton]
      rfl
    · rw [paste_cons hrest, cut_append_cons, ih hrest, List.flatMap_cons]

theorem flatMap_cut_of_not_mem {pieces : List (List Char)} (h : ∀ piece ∈ pieces, sep ∉ piece) :
    pieces.flatMap (cut sep) = pieces := by
  induction pieces with
  | nil => rfl
  | cons piece rest ih =>
    obtain ⟨hpiece, hrest⟩ := List.forall_mem_cons.1 h
    rw [List.flatMap_cons, cut_of_not_mem hpiece, ih hrest]
    rfl

/-! ### Joined texts -/

theorem toList_join {sepText : String} (hsep : sepText.toList = [sep]) (texts : List String) :
    (join sepText texts).toList = paste sep (texts.map String.toList) := by
  induction texts with
  | nil => rfl
  | cons text rest ih =>
    cases rest with
    | nil => exact toList_join_singleton sepText text
    | cons next rest =>
      rw [toList_join_cons, ih, hsep]
      rfl

theorem cut_join {sepText : String} (hsep : sepText.toList = [sep]) {texts : List String}
    (hne : texts ≠ []) (h : ∀ text ∈ texts, sep ∉ text.toList) :
    cut sep (join sepText texts).toList = texts.map String.toList := by
  have hpieces : texts.map String.toList ≠ [] := fun hnil => hne (List.map_eq_nil_iff.1 hnil)
  have hplain : ∀ piece ∈ texts.map String.toList, sep ∉ piece := List.forall_mem_map.2 h
  rw [toList_join hsep, cut_paste hpieces, flatMap_cut_of_not_mem hplain]

theorem segments_join {sepText : String} (hsep : sepText.toList = [sep]) {texts : List String}
    (hne : texts ≠ []) (h : ∀ text ∈ texts, sep ∉ text.toList) :
    segments sep (join sepText texts) = texts := by
  unfold segments
  rw [cut_join hsep hne h, List.map_map]
  exact List.map_id'' (fun text => String.ofList_toList) texts

/-! ### Capitals of segments -/

theorem upper_append (s t : String) : upper (s ++ t) = upper s ++ upper t := by
  unfold upper
  rw [String.toList_append, List.flatMap_append, String.ofList_append]

theorem segments_upper (s : String) : segments '.' (upper s) = (segments '.' s).map upper := by
  unfold segments upper
  rw [String.toList_ofList, cut_upper, List.map_map, List.map_map]
  refine List.map_congr_left fun piece _ => ?_
  simp only [Function.comp_apply, String.toList_ofList]

/-- What is put before a text belongs to its first segment. -/
theorem segments_append {front s first : String} {rest : List String} (h : sep ∉ front.toList)
    (hs : segments sep s = first :: rest) :
    segments sep (front ++ s) = (front ++ first) :: rest := by
  obtain ⟨piece, pieces, hcut, happend⟩ := cut_append h s.toList
  unfold segments at hs ⊢
  rw [hcut] at hs
  obtain ⟨rfl, rfl⟩ := List.cons.inj hs
  rw [String.toList_append, happend, List.map_cons, String.ofList_append, String.ofList_toList]

/-! ### Blanks around words -/

theorem wordsFrom_blank {c : Char} (h : isBlank c = true) (cs : List Char) :
    wordsFrom [] (c :: cs) = wordsFrom [] cs := by
  simp [wordsFrom, h]

theorem wordsFrom_dropWhile (cs : List Char) :
    wordsFrom [] (cs.dropWhile isBlank) = wordsFrom [] cs := by
  induction cs with
  | nil => rfl
  | cons c cs ih =>
    by_cases h : isBlank c = true
    · rw [List.dropWhile_cons_of_pos h, wordsFrom_blank h, ih]
    · rw [List.dropWhile_cons_of_neg h]

theorem wordsFrom_blanks {blanks : List Char} (h : ∀ c ∈ blanks, isBlank c = true) :
    wordsFrom [] blanks = [] := by
  have hdrop : blanks.dropWhile isBlank = [] := List.dropWhile_eq_nil_iff.2 h
  rw [← wordsFrom_dropWhile, hdrop]
  rfl

theorem wordsFrom_append_blanks (word cs : List Char) {blanks : List Char}
    (h : ∀ c ∈ blanks, isBlank c = true) :
    wordsFrom word (cs ++ blanks) = wordsFrom word cs := by
  induction cs generalizing word with
  | nil =>
    cases blanks with
    | nil => rfl
    | cons b blanks =>
      have hrest : wordsFrom [] blanks = [] :=
        wordsFrom_blanks fun c hc => h c (List.mem_cons_of_mem _ hc)
      simp [wordsFrom, h b List.mem_cons_self, hrest]
  | cons c cs ih => simp only [List.cons_append, wordsFrom, ih]

theorem words_trim (s : String) : words (trim s) = words s := by
  unfold words trim trimBoth
  rw [String.toList_ofList, ← wordsFrom_dropWhile s.toList]
  generalize s.toList.dropWhile isBlank = cs
  have hblanks : ∀ c ∈ (cs.reverse.takeWhile isBlank).reverse, isBlank c = true := by
    intro c hc
    exact List.mem_takeWhile_imp (List.mem_reverse.1 hc)
  have hsplit : (cs.reverse.dropWhile isBlank).reverse ++ (cs.reverse.takeWhile isBlank).reverse =
      cs := by
    rw [← List.reverse_append, List.takeWhile_append_dropWhile, List.reverse_reverse]
  rw [← wordsFrom_append_blanks [] (cs.reverse.dropWhile isBlank).reverse hblanks, hsplit]

/-! ### Single blanks between words -/

/-- A word is not empty and has no blanks. -/
def IsWord (word : List Char) : Prop := word ≠ [] ∧ ∀ c ∈ word, isBlank c = false

theorem isWord_of_mem_wordsFrom {reading cs word : List Char}
    (hreading : ∀ c ∈ reading, isBlank c = false) (h : word ∈ wordsFrom reading cs) :
    IsWord word := by
  have hread : reading.isEmpty = false → IsWord reading.reverse := by
    intro hne
    exact ⟨by simpa using hne, fun c hc => hreading c (List.mem_reverse.1 hc)⟩
  induction cs generalizing reading with
  | nil =>
    unfold wordsFrom at h
    cases hempty : reading.isEmpty with
    | true => simp [hempty] at h
    | false =>
      simp only [hempty, Bool.false_eq_true, if_false, List.mem_singleton] at h
      exact h ▸ hread hempty
  | cons c cs ih =>
    have hnone := @ih [] (List.forall_mem_nil _)
    unfold wordsFrom at h
    cases hblank : isBlank c with
    | true =>
      cases hempty : reading.isEmpty with
      | true =>
        simp only [hblank, hempty, if_true] at h
        exact hnone h (by simp)
      | false =>
        simp only [hblank, hempty, if_true, Bool.false_eq_true, if_false, List.mem_cons] at h
        obtain rfl | h := h
        · exact hread hempty
        · exact hnone h (by simp)
    | false =>
      simp only [hblank, Bool.false_eq_true, if_false] at h
      have hmore : ∀ d ∈ c :: reading, isBlank d = false :=
        List.forall_mem_cons.2 ⟨hblank, hreading⟩
      exact ih hmore h fun _ =>
        ⟨by simp, fun d hd => hmore d (List.mem_reverse.1 hd)⟩

theorem wordsFrom_append_word {word : List Char} (h : ∀ c ∈ word, isBlank c = false)
    (reading rest : List Char) :
    wordsFrom reading (word ++ rest) = wordsFrom (word.reverse ++ reading) rest := by
  induction word generalizing reading with
  | nil => rfl
  | cons c word ih =>
    obtain ⟨hc, hword⟩ := List.forall_mem_cons.1 h
    simp [wordsFrom, hc, ih hword]

theorem wordsFrom_paste {pieces : List (List Char)} (h : ∀ word ∈ pieces, IsWord word) :
    wordsFrom [] (paste ' ' pieces) = pieces := by
  have hblank : isBlank ' ' = true := by decide
  induction pieces with
  | nil => rfl
  | cons word pieces ih =>
    obtain ⟨⟨hne, hword⟩, hpieces⟩ := List.forall_mem_cons.1 h
    cases pieces with
    | nil =>
      have hread := wordsFrom_append_word hword [] []
      rw [List.append_nil] at hread
      simp [paste, hread, wordsFrom, hne]
    | cons next pieces =>
      have hrest := ih hpieces
      simp [paste, wordsFrom_append_word hword, wordsFrom, hblank, hne, hrest]

theorem toList_join_blank (pieces : List (List Char)) :
    (join " " (pieces.map String.ofList)).toList = paste ' ' pieces := by
  have hblank : " ".toList = [' '] := rfl
  rw [toList_join hblank, List.map_map]
  exact congrArg (paste ' ') (List.map_id'' (fun piece => String.toList_ofList) pieces)

theorem words_join_words (s : String) : words (join " " (words s)) = words s := by
  have hwords : ∀ word ∈ wordsFrom [] s.toList, IsWord word :=
    fun word => isWord_of_mem_wordsFrom (List.forall_mem_nil _)
  unfold words
  rw [toList_join_blank, wordsFrom_paste hwords]

end OracleCatalog.Text
