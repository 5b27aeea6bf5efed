import OracleCatalog.Text.Case
import OracleCatalog.Text.Split

/-!
# Segments of a text in capitals

A character before the capital letters is its own capital, and no other character has it among its
capitals. The dot is such a one: a text in capitals is cut at the dots of the text, and a segment of
it is empty where the segment of the text is.
-/

namespace OracleCatalog.Text

/-! ### Capitals of one character -/

theorem mem_of_lookup {table : List (Nat × List Nat)} {n : Nat} {codes : List Nat}
    (h : table.lookup n = some codes) : (n, codes) ∈ table := by
  induction table with
  | nil => cases h
  | cons entry rest ih =>
    obtain ⟨k, v⟩ := entry
    rw [List.lookup_cons] at h
    cases hk : n == k with
    | true =>
      rw [hk] at h
      obtain rfl := Option.some.inj h
      rw [beq_iff_eq.1 hk]
      exact List.mem_cons_self
    | false =>
      rw [hk] at h
      exact List.mem_cons_of_mem _ (ih h)

/-- The forms of a character with an image of its own are an expansion, a shifted one, or itself. -/
theorem mapCase_cases (expansions : List (Nat × List Nat)) (runs : List CaseRun) (c : Char) :
    (∃ entry ∈ expansions, entry.1 = c.toNat ∧
        mapCase expansions runs c = entry.2.map Char.ofNat) ∨
      (∃ run ∈ runs, run.maps c.toNat = true ∧
        mapCase expansions runs c = [Char.ofNat ((c.toNat : Int) + run.shift).toNat]) ∨
      mapCase expansions runs c = [c] := by
  unfold mapCase
  cases hlookup : expansions.lookup c.toNat with
  | some codes => exact .inl ⟨_, mem_of_lookup hlookup, rfl, rfl⟩
  | none =>
    cases hfind : runs.find? (·.maps c.toNat) with
    | some run =>
      have hmaps := List.find?_some (p := fun run : CaseRun => run.maps c.toNat) hfind
      exact .inr (.inl ⟨run, List.mem_of_find?_eq_some hfind, hmaps, rfl⟩)
    | none => exact .inr (.inr rfl)

/-- A number is the code point of the character it gives, or it gives the character of code zero. -/
theorem toNat_ofNat_cases (n : Nat) : (Char.ofNat n).toNat = n ∨ (Char.ofNat n).toNat = 0 := by
  by_cases hvalid : n.isValidChar
  · have hchar : Char.ofNat n = Char.ofNatAux n hvalid := dif_pos hvalid
    exact .inl (congrArg Char.toNat hchar)
  · have hchar : Char.ofNat n = Char.ofNatAux 0 (by decide) := dif_neg hvalid
    exact .inr (congrArg Char.toNat hchar)

/-- No code point before the small letters has an image, and no image is before the capitals. -/
theorem upperExpansions_spec :
    ∀ entry ∈ upperExpansions, 97 ≤ entry.1 ∧ entry.2 ≠ [] ∧ ∀ n ∈ entry.2, 65 ≤ n := by
  decide +kernel

theorem upperRuns_spec :
    ∀ run ∈ upperRuns, 97 ≤ run.first ∧ 65 ≤ (run.first : Int) + run.shift := by decide +kernel

theorem upperChar_ne_nil (c : Char) : upperChar c ≠ [] := by
  unfold upperChar
  rcases mapCase_cases upperExpansions upperRuns c with ⟨entry, hentry, -, h⟩ | ⟨run, -, -, h⟩ | h
  · rw [h]
    exact fun hnil => (upperExpansions_spec entry hentry).2.1 (List.map_eq_nil_iff.1 hnil)
  · rw [h]
    exact List.cons_ne_nil _ _
  · rw [h]
    exact List.cons_ne_nil _ _

/-- A character with other capitals is a small letter at least, and they are capitals at least. -/
theorem upperChar_cases (c : Char) :
    97 ≤ c.toNat ∧ (∀ d ∈ upperChar c, 65 ≤ d.toNat ∨ d.toNat = 0) ∨ upperChar c = [c] := by
  unfold upperChar
  rcases mapCase_cases upperExpansions upperRuns c with
    ⟨entry, hentry, hcode, h⟩ | ⟨run, hrun, hmaps, h⟩ | h
  · obtain ⟨hlow, -, hhigh⟩ := upperExpansions_spec entry hentry
    refine .inl ⟨hcode ▸ hlow, fun d hd => ?_⟩
    rw [h] at hd
    obtain ⟨n, hn, rfl⟩ := List.mem_map.1 hd
    refine (toNat_ofNat_cases n).imp_left fun htoNat => ?_
    rw [htoNat]
    exact hhigh n hn
  · obtain ⟨hlow, hhigh⟩ := upperRuns_spec run hrun
    unfold CaseRun.maps at hmaps
    simp only [Bool.and_eq_true, decide_eq_true_eq] at hmaps
    obtain ⟨⟨hfirst, -⟩, -⟩ := hmaps
    refine .inl ⟨Nat.le_trans hlow hfirst, fun d hd => ?_⟩
    rw [h] at hd
    obtain rfl := List.mem_singleton.1 hd
    refine (toNat_ofNat_cases _).imp_left fun htoNat => ?_
    rw [htoNat]
    omega
  · exact .inr h

/-- A character that is its own capital, and that no other character has among its capitals. -/
def IsOwnCapital (d : Char) : Prop := upperChar d = [d] ∧ ∀ c, d ∈ upperChar c → c = d

/-- The characters before the capital letters are their own capitals. -/
theorem isOwnCapital_of_lt {d : Char} (hpos : 0 < d.toNat) (hlt : d.toNat < 65) :
    IsOwnCapital d := by
  refine ⟨?_, fun c hc => ?_⟩
  · rcases upperChar_cases d with ⟨hlow, -⟩ | h
    · omega
    · exact h
  · rcases upperChar_cases c with ⟨-, hhigh⟩ | h
    · rcases hhigh d hc with h | h
      · omega
      · omega
    · rw [h] at hc
      exact (List.mem_singleton.1 hc).symm

theorem isOwnCapital_dot : IsOwnCapital '.' := isOwnCapital_of_lt (by decide) (by decide)

theorem IsOwnCapital.mem_upper_iff {d : Char} (h : IsOwnCapital d) (s : String) :
    d ∈ (upper s).toList ↔ d ∈ s.toList := by
  unfold upper
  rw [String.toList_ofList, List.mem_flatMap]
  constructor
  · rintro ⟨c, hc, hd⟩
    rwa [← h.2 c hd]
  · intro hd
    refine ⟨d, hd, ?_⟩
    rw [h.1]
    exact List.mem_singleton_self d

/-! ### Segments -/

theorem cut_append {sep : Char} {front : List Char} (h : sep ∉ front) (cs : List Char) :
    ∃ piece pieces, cut sep cs = piece :: pieces ∧
      cut sep (front ++ cs) = (front ++ piece) :: pieces := by
  induction front with
  | nil =>
    obtain ⟨piece, pieces, hcut⟩ := List.exists_cons_of_ne_nil (cut_ne_nil sep cs)
    exact ⟨piece, pieces, hcut, hcut⟩
  | cons c front ih =>
    obtain ⟨hc, hfront⟩ := List.ne_and_not_mem_of_not_mem_cons h
    obtain ⟨piece, pieces, hcut, happend⟩ := ih hfront
    refine ⟨piece, pieces, hcut, ?_⟩
    rw [List.cons_append, cut, if_neg (Ne.symm hc), happend]
    rfl

theorem cut_upper (cs : List Char) :
    cut '.' (cs.flatMap upperChar) = (cut '.' cs).map fun piece => piece.flatMap upperChar := by
  induction cs with
  | nil => rfl
  | cons c cs ih =>
    rw [List.flatMap_cons, cut]
    by_cases hc : c = '.'
    · rw [hc, isOwnCapital_dot.1, if_pos rfl, List.map_cons, ← ih]
      rfl
    · have hdot : '.' ∉ upperChar c := fun h => hc (isOwnCapital_dot.2 c h)
      obtain ⟨piece, pieces, hcut, happend⟩ := cut_append hdot (cs.flatMap upperChar)
      rw [if_neg hc, happend]
      rw [hcut] at ih
      cases hpieces : cut '.' cs with
      | nil => exact absurd hpieces (cut_ne_nil '.' cs)
      | cons first rest =>
        rw [hpieces] at ih
        obtain ⟨rfl, rfl⟩ := List.cons.inj ih
        rfl

theorem flatMap_upperChar_isEmpty (cs : List Char) :
    (cs.flatMap upperChar).isEmpty = cs.isEmpty := by
  cases cs with
  | nil => rfl
  | cons c cs =>
    rw [List.flatMap_cons]
    cases hc : upperChar c with
    | nil => exact absurd hc (upperChar_ne_nil c)
    | cons d ds => rfl

/-- Which segments of a text are not empty. -/
def presentSegments (s : String) : List Bool := (cut '.' s.toList).map fun piece => !piece.isEmpty

theorem presentSegments_upper (s : String) : presentSegments (upper s) = presentSegments s := by
  unfold presentSegments upper
  rw [String.toList_ofList, cut_upper, List.map_map]
  exact congrArg (List.map · _) (funext fun piece =>
    congrArg (!·) (flatMap_upperChar_isEmpty piece))

theorem segments_present (s : String) :
    (segments '.' s).map (fun segment => segment != "") = presentSegments s := by
  unfold segments presentSegments
  rw [List.map_map]
  refine List.map_congr_left fun piece _ => ?_
  cases piece with
  | nil => rfl
  | cons c cs =>
    rw [List.isEmpty_cons, Bool.not_false, Function.comp_apply, bne_iff_ne]
    intro hempty
    have hlist := congrArg String.toList hempty
    rw [String.toList_ofList] at hlist
    cases hlist

theorem upper_eq_empty_iff (s : String) : upper s = "" ↔ s = "" := by
  have hempty : ∀ t : String, t = "" ↔ t.toList.isEmpty = true := by
    intro t
    rw [List.isEmpty_iff, String.toList_eq_nil_iff]
  rw [hempty, hempty, upper, String.toList_ofList, flatMap_upperChar_isEmpty]

end OracleCatalog.Text
