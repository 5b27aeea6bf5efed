import Mathlib.Data.List.Basic
import Mathlib.Data.List.TakeWhile
import OracleCatalog.Name
import OracleCatalog.Proofs.Text.Segments

/-!
# The segments of a routine name

A routine name of up to three segments is taken apart at its dots, and its text is found again from
what it is taken apart into. A qualifier that is missing reads as an empty segment, and so do empty
segments in front of a name: a name with all three segments stands for those that leave out some of
the front ones.
-/

namespace OracleCatalog

open OracleCatalog.Text

/-! ### Segments and separators -/

namespace Text

theorem length_cut (sep : Char) (cs : List Char) : (cut sep cs).length = cs.count sep + 1 := by
  induction cs with
  | nil => rfl
  | cons c cs ih =>
    obtain ⟨piece, pieces, hcut⟩ := List.exists_cons_of_ne_nil (cut_ne_nil sep cs)
    rw [cut, hcut]
    rw [hcut] at ih
    by_cases hc : c = sep
    · rw [if_pos hc, List.length_cons, ih, hc, List.count_cons_self]
    · rw [if_neg hc, List.count_cons_of_ne hc]
      exact ih

theorem join_segments {sep : Char} {sepText : String} (hsep : sepText.toList = [sep]) (s : String) :
    join sepText (segments sep s) = s := by
  have hpieces : (segments sep s).map String.toList = cut sep s.toList := by
    unfold segments
    rw [List.map_map]
    exact List.map_id'' (fun piece => String.toList_ofList) _
  refine String.toList_inj.1 ?_
  rw [toList_join hsep, hpieces, paste_cut]

/-- Separators in front of a text are so many empty segments. -/
theorem segments_replicate (sep : Char) (n : Nat) (s : String) :
    segments sep (String.ofList (List.replicate n sep) ++ s) =
      List.replicate n "" ++ segments sep s := by
  unfold segments
  rw [String.toList_append, String.toList_ofList]
  induction n with
  | zero => rfl
  | succ n ih =>
    rw [List.replicate_succ, List.cons_append, cut, if_pos rfl, List.map_cons, ih]
    rfl

end Text

/-! ### Names by their dots -/

namespace RoutineName

def dots (name : String) : Nat := name.toList.count '.'

/-- A name without the dots in front of it. -/
def bare (name : String) : List Char := name.toList.dropWhile (· == '.')

variable {name other : String}

theorem length_segments (name : String) : (segments '.' name).length = dots name + 1 := by
  unfold segments dots
  rw [List.length_map, length_cut]

theorem join_segments_dot (name : String) : join "." (segments '.' name) = name :=
  join_segments rfl name

theorem getD_nonEmpty (qualifier : String) : (nonEmpty qualifier).getD "" = qualifier := by
  unfold nonEmpty
  by_cases h : qualifier = ""
  · rw [if_pos h, h]
    rfl
  · rw [if_neg h]
    rfl

theorem nonEmpty_ne_some_empty (qualifier : String) : nonEmpty qualifier ≠ some "" := by
  unfold nonEmpty
  by_cases h : qualifier = ""
  · rw [if_pos h]
    exact nofun
  · rw [if_neg h]
    exact fun heq => h (Option.some.inj heq)

theorem segments_one (h : dots name = 1) :
    ∃ package object, segments '.' name = [package, object] :=
  List.length_eq_two.1 ((length_segments name).trans (congrArg (· + 1) h))

theorem segments_two (h : dots name = 2) :
    ∃ schema package object, segments '.' name = [schema, package, object] :=
  List.length_eq_three.1 ((length_segments name).trans (congrArg (· + 1) h))

theorem ofText_other (hone : dots name ≠ 1) (htwo : dots name ≠ 2) :
    ofText name = { object := name } := by
  have hlength := length_segments name
  unfold ofText
  split
  · rename_i hsegments
    rw [hsegments] at hlength
    exact absurd (Nat.succ.inj hlength).symm hone
  · rename_i hsegments
    rw [hsegments] at hlength
    exact absurd (Nat.succ.inj hlength).symm htwo
  · rfl

/-- A name of two segments is its package and its object, and it has no schema. -/
theorem text_of_one (h : dots name = 1) :
    (ofText name).schema = none ∧
      name = (ofText name).package.getD "" ++ "." ++ (ofText name).object := by
  obtain ⟨package, object, hsegments⟩ := segments_one h
  have hname := join_segments_dot name
  unfold ofText
  rw [hsegments] at hname ⊢
  refine ⟨rfl, ?_⟩
  dsimp only
  rw [getD_nonEmpty]
  exact hname.symm

theorem text_of_two (h : dots name = 2) :
    name = (ofText name).schema.getD "" ++ "." ++ (ofText name).package.getD "" ++ "." ++
      (ofText name).object := by
  obtain ⟨schema, package, object, hsegments⟩ := segments_two h
  have hname := join_segments_dot name
  unfold ofText
  rw [hsegments] at hname ⊢
  dsimp only
  rw [getD_nonEmpty, getD_nonEmpty]
  exact hname.symm

theorem qualifiers_ne_empty (name : String) :
    (ofText name).package ≠ some "" ∧ (ofText name).schema ≠ some "" := by
  unfold ofText
  split
  · exact ⟨nonEmpty_ne_some_empty _, nofun⟩
  · exact ⟨nonEmpty_ne_some_empty _, nonEmpty_ne_some_empty _⟩
  · exact ⟨nofun, nofun⟩

/-! ### Names with all three segments -/

/-- The name with an empty segment in front for each of the three that it leaves out. -/
def spelledOut (name : String) : String :=
  String.ofList (List.replicate (2 - dots name) '.') ++ name

theorem dots_spelledOut (h : dots name ≤ 2) : dots (spelledOut name) = 2 := by
  have hcount : dots (spelledOut name) = 2 - dots name + dots name := by
    unfold dots spelledOut
    rw [String.toList_append, String.toList_ofList, List.count_append, List.count_replicate_self]
    rfl
  omega

theorem ofText_spelledOut (h : dots name ≤ 2) : ofText (spelledOut name) = ofText name := by
  have hlength := length_segments name
  have hsegments := segments_replicate '.' (2 - dots name) name
  unfold ofText spelledOut
  rw [hsegments]
  rcases Nat.le_iff_lt_or_eq.1 h with hlt | htwo
  · rcases Nat.le_one_iff_eq_zero_or_eq_one.1 (Nat.le_of_lt_succ hlt) with hzero | hone
    · rw [hzero] at hlength ⊢
      obtain ⟨object, hobject⟩ := List.length_eq_one_iff.1 hlength
      have hname := join_segments_dot name
      rw [hobject] at hname ⊢
      obtain rfl : object = name := hname
      rfl
    · obtain ⟨package, object, hparts⟩ := segments_one hone
      rw [hone, hparts]
      rfl
  · rw [htwo]
    rfl

theorem spelledOut_eq (h : dots name ≤ 2) :
    spelledOut name =
      String.ofList (List.replicate (2 - (bare name).count '.') '.' ++ bare name) := by
  have hfront : ∀ c ∈ name.toList.takeWhile (· == '.'), c = '.' := by
    intro c hc
    have hdot : (c == '.') = true := List.mem_takeWhile_imp (p := (· == '.')) hc
    exact eq_of_beq hdot
  have hname : name.toList =
      List.replicate (name.toList.takeWhile (· == '.')).length '.' ++ bare name := by
    rw [← List.eq_replicate_of_mem hfront]
    exact List.takeWhile_append_dropWhile.symm
  generalize (name.toList.takeWhile (· == '.')).length = n at hname
  have hdots : dots name = n + (bare name).count '.' := by
    unfold dots
    rw [hname, List.count_append, List.count_replicate_self]
  have hsum : 2 - dots name + n = 2 - (bare name).count '.' := by omega
  refine String.toList_inj.1 ?_
  unfold spelledOut
  rw [String.toList_append, String.toList_ofList, String.toList_ofList, ← hsum,
    ← List.replicate_append_replicate, List.append_assoc, ← hname]

theorem bare_spelledOut (name : String) : bare (spelledOut name) = bare name := by
  have hdots : ∀ c ∈ List.replicate (2 - dots name) '.', (c == '.') = true := by
    intro c hc
    rw [List.eq_of_mem_replicate hc]
    rfl
  unfold spelledOut
  unfold bare
  rw [String.toList_append, String.toList_ofList, List.dropWhile_append_of_pos hdots]

/-! ### Names that are taken apart alike -/

theorem ofText_eq_iff_of_two (h : dots name = 2) (hother : dots other = 2) :
    ofText name = ofText other ↔ name = other := by
  refine ⟨fun heq => ?_, congrArg ofText⟩
  rw [text_of_two h, text_of_two hother, heq]

theorem ofText_eq_iff_of_le (h : dots name ≤ 2) (hother : dots other ≤ 2) :
    ofText name = ofText other ↔ bare name = bare other := by
  rw [← ofText_spelledOut h, ← ofText_spelledOut hother,
    ofText_eq_iff_of_two (dots_spelledOut h) (dots_spelledOut hother)]
  constructor
  · intro heq
    rw [← bare_spelledOut name, heq, bare_spelledOut]
  · intro heq
    rw [spelledOut_eq h, spelledOut_eq hother, heq]

/-- Only a name of more than three segments keeps a dot in its object. -/
theorem dots_object_of_le (h : dots name ≤ 2) : dots (ofText name).object = 0 := by
  have hpieces : ∀ piece ∈ segments '.' (spelledOut name), dots piece = 0 := by
    intro piece hpiece
    obtain ⟨cs, hcs, rfl⟩ := List.mem_map.1 hpiece
    unfold dots
    rw [String.toList_ofList]
    exact List.count_eq_zero.2 (not_mem_of_mem_cut hcs)
  obtain ⟨schema, package, object, hsegments⟩ := segments_two (dots_spelledOut h)
  rw [← ofText_spelledOut h]
  unfold ofText
  rw [hsegments] at hpieces ⊢
  exact hpieces object (List.mem_cons_of_mem _ (List.mem_cons_of_mem _ List.mem_cons_self))

/-- Two names that differ in empty qualifiers at most: behind the dots in front of them they are one
text, and neither has more dots than a schema and a package take. -/
def DifferInEmptyQualifiers (name other : String) : Prop :=
  dots name ≤ 2 ∧ dots other ≤ 2 ∧ bare name = bare other

theorem ofText_eq_iff (name other : String) :
    ofText name = ofText other ↔ name = other ∨ DifferInEmptyQualifiers name other := by
  unfold DifferInEmptyQualifiers
  have hlong {long : String} (h : ¬dots long ≤ 2) : ofText long = { object := long } :=
    ofText_other (by omega) (by omega)
  by_cases hname : dots name ≤ 2
  · by_cases hother : dots other ≤ 2
    · rw [ofText_eq_iff_of_le hname hother]
      constructor
      · exact fun heq => .inr ⟨hname, hother, heq⟩
      · rintro (rfl | ⟨-, -, heq⟩)
        · rfl
        · exact heq
    · constructor
      · intro heq
        have hobject := dots_object_of_le hname
        rw [heq, hlong hother] at hobject
        exact absurd (hobject.trans_le (Nat.zero_le 2)) hother
      · rintro (rfl | ⟨-, hle, -⟩)
        · rfl
        · exact absurd hle hother
  · constructor
    · intro heq
      rw [hlong hname] at heq
      by_cases hother : dots other ≤ 2
      · have hobject := dots_object_of_le hother
        rw [← heq] at hobject
        exact absurd (hobject.trans_le (Nat.zero_le 2)) hname
      · rw [hlong hother] at heq
        exact .inl (congrArg RoutineName.object heq)
    · rintro (rfl | ⟨hle, -, -⟩)
      · rfl
      · exact absurd hle hname

/-- Taking a routine name apart loses none of its text: its segments give the name again, none of
its qualifiers is empty, and only names that differ in empty qualifiers are taken apart alike. -/
theorem ofText_keeps_text (name : String) :
    (match dots name with
      | 1 => (ofText name).schema = none ∧
          name = (ofText name).package.getD "" ++ "." ++ (ofText name).object
      | 2 => name = (ofText name).schema.getD "" ++ "." ++ (ofText name).package.getD "" ++ "." ++
          (ofText name).object
      | _ => ofText name = { object := name, package := none, schema := none }) ∧
    (ofText name).package ≠ some "" ∧ (ofText name).schema ≠ some "" ∧
    ∀ other, ofText name = ofText other ↔ name = other ∨ DifferInEmptyQualifiers name other := by
  obtain ⟨hpackage, hschema⟩ := qualifiers_ne_empty name
  refine ⟨?_, hpackage, hschema, ofText_eq_iff name⟩
  split
  · rename_i hone
    exact text_of_one hone
  · rename_i htwo
    exact text_of_two htwo
  · rename_i hone htwo
    exact ofText_other hone htwo

example : ofText "HR..CALC" = { object := "CALC", schema := some "HR" } ∧
    ofText "..CALC" = ofText "CALC" ∧ ofText "A.B.C.D" = { object := "A.B.C.D" } := by decide

end RoutineName

end OracleCatalog
