import OracleCatalog.Proofs.Query.Comparisons
import OracleCatalog.Proofs.Query.Shape
import OracleCatalog.Proofs.Text.Capitals

/-!
# Names in the letter case of their query

Where a query puts a column into one letter case, a value that is not in that case is found in no
row. Names of tables are always put into capitals. Names of routines are bound as they are written,
so their queries can only find what is written in the case of the query.
-/

namespace OracleCatalog

open OracleCatalog.Text (lower upper)

/-- Whatever a column in one letter case is compared with is bound to a value in that case. -/
def Query.ComparesInCase (query : Query) : Prop :=
  ∀ comparison ∈ comparisons query.text, ∃ v,
    OrderedMap.get? comparison.placeholder query.binds = some v ∧
      comparison.letters.ofValue v = .ok v

def LetterCase.ofText : LetterCase → String → String
  | .upper => Text.upper
  | .lower => Text.lower

theorem Query.bound_in_case_iff {query : Query} {placeholder s : String}
    (h : OrderedMap.get? placeholder query.binds = some (.text s)) (letters : LetterCase) :
    (∃ v, OrderedMap.get? placeholder query.binds = some v ∧ letters.ofValue v = .ok v) ↔
      letters.ofText s = s := by
  have hvalue : letters.ofValue (.text s) = .ok (.text (letters.ofText s)) := by
    cases letters <;> rfl
  rw [h]
  constructor
  · rintro ⟨v, hv, hcase⟩
    obtain rfl := Option.some.inj hv
    rw [hvalue] at hcase
    exact Value.text.inj (Except.ok.inj hcase)
  · intro hs
    rw [hs] at hvalue
    exact ⟨_, rfl, hvalue⟩

theorem Query.comparesInCase_of_no_comparison {query : Query} (h : comparisons query.text = []) :
    query.ComparesInCase := by
  intro comparison hmem
  rw [h] at hmem
  cases hmem

/-! ### Tables -/

theorem Text.upper_of_mem_segments {s piece : String} (h : piece ∈ segments '.' (upper s)) :
    upper piece = piece := by
  unfold segments at h
  obtain ⟨chars, hchars, rfl⟩ := List.mem_map.1 h
  rw [upper, String.toList_ofList, cut_upper] at hchars
  obtain ⟨before, -, rfl⟩ := List.mem_map.1 hchars
  rw [upper, String.toList_ofList, flatMap_upperChar_flatMap]

theorem TableName.upper_table {name : String} {defaultSchema : Value} {table : TableName}
    (h : ofText name defaultSchema = .ok table) : upper table.table = table.table := by
  unfold ofText at h
  split at h
  · rename_i last schema rest hsegments
    obtain rfl := Except.ok.inj h
    have hmem : last ∈ (Text.segments '.' (upper name)).reverse := by
      rw [hsegments]
      exact List.mem_cons_self
    exact Text.upper_of_mem_segments (List.mem_reverse.1 hmem)
  · split at h
    · obtain ⟨schema, -, rfl⟩ := Error.ok_of_map h
      exact Text.upper_upper name
    · obtain rfl := Except.ok.inj h
      exact Text.upper_upper name

theorem Query.comparesInCase_of_table {query : Query} {table : TableName}
    (hcomparisons : comparisons query.text = [⟨.upper, "tableParam"⟩])
    (hbinds : query.binds = table.binds) (hupper : upper table.table = table.table) :
    query.ComparesInCase := by
  have hbound : OrderedMap.get? "tableParam" query.binds = some (.text table.table) := by
    rw [hbinds]
    rfl
  unfold ComparesInCase
  rw [hcomparisons, List.forall_mem_singleton]
  exact (bound_in_case_iff hbound .upper).2 hupper

/-! ### Routines -/

namespace RoutineName

def InSmallLetters (name : RoutineName) : Prop :=
  lower name.object = name.object ∧ ∀ package ∈ name.package, lower package = package

theorem bind_nonEmpty_nonEmpty (s : String) : (nonEmpty s).bind nonEmpty = nonEmpty s := by
  unfold nonEmpty
  by_cases hs : s = ""
  · rw [if_pos hs]
    rfl
  · rw [if_neg hs, Option.bind_some, if_neg hs]

/-- A name that is split has no empty package. -/
theorem bind_package_ofText (name : String) :
    (ofText name).package.bind nonEmpty = (ofText name).package := by
  unfold ofText
  split
  · exact bind_nonEmpty_nonEmpty _
  · exact bind_nonEmpty_nonEmpty _
  · rfl

theorem inSmallLetters_ofText_empty : (ofText "").InSmallLetters := by
  refine ⟨by decide +kernel, ?_⟩
  intro package hmem
  cases hmem

end RoutineName

namespace Query

theorem comparesInCase_parameters_iff (name : RoutineName) :
    (parameters name).ComparesInCase ↔ upper name.object = name.object := by
  have hobject : OrderedMap.get? "objectParam" (parameters name).binds =
      some (.text name.object) := rfl
  have htext : comparisons (parameters name).text = [⟨.upper, "objectParam"⟩] :=
    comparisons_parametersText name.qualification
  unfold ComparesInCase
  rw [htext, List.forall_mem_singleton]
  exact bound_in_case_iff hobject .upper

theorem comparesInCase_routine_iff (folding : CaseFolding) {name : RoutineName}
    (hpackage : name.package.bind nonEmpty = name.package) :
    (routine folding name).ComparesInCase ↔ (folding = .lower → name.InSmallLetters) := by
  have htext : comparisons (routine folding name).text =
      listingComparisons folding name.qualification := comparisons_routineText folding _
  cases folding with
  | asIs =>
    refine iff_of_true (comparesInCase_of_no_comparison htext) ?_
    intro h
    cases h
  | lower =>
    have hobject : OrderedMap.get? "objectParam" (routine .lower name).binds =
        some (.text name.object) := rfl
    rw [forall_prop_of_true rfl]
    unfold ComparesInCase RoutineName.InSmallLetters
    rw [htext]
    cases hname : name.package with
    | none =>
      have hlisting : listingComparisons .lower name.qualification = [⟨.lower, "objectParam"⟩] := by
        unfold RoutineName.qualification
        rw [hname]
        cases name.schema.bind nonEmpty <;> rfl
      have hpackage : ∀ package ∈ (none : Option String), Text.lower package = package := by
        intro package hmem
        cases hmem
      rw [hlisting, List.forall_mem_singleton, and_iff_left hpackage]
      exact bound_in_case_iff hobject .lower
    | some package =>
      rw [hname] at hpackage
      have hlisting : listingComparisons .lower name.qualification =
          [⟨.lower, "packageParam"⟩, ⟨.lower, "objectParam"⟩] := by
        unfold RoutineName.qualification
        rw [hname, hpackage]
        cases name.schema.bind nonEmpty <;> rfl
      have hbound : OrderedMap.get? "packageParam" (routine .lower name).binds =
          some (.text package) := by
        show OrderedMap.get? "packageParam" name.binds = _
        unfold RoutineName.binds RoutineName.qualification
        rw [hname, hpackage]
        cases name.schema.bind nonEmpty <;> rfl
      rw [hlisting, List.forall_mem_cons, List.forall_mem_singleton,
        bound_in_case_iff hobject .lower, bound_in_case_iff hbound .lower, and_comm]
      refine and_congr_right fun _ => ⟨?_, fun h => h package rfl⟩
      rintro hlower _ ⟨⟩
      exact hlower

end Query

/-! ### Questions -/

namespace CatalogQuestion

variable {folding : CaseFolding} {settings : Settings} {query : Query}

/-- The name of a routine is written in the case of the query that looks for it. -/
def NamedInCase (folding : CaseFolding) (settings : Settings) : CatalogQuestion String → Prop
  | .parameters routine =>
    upper (RoutineName.ofText routine).object = (RoutineName.ofText routine).object
  | .routines =>
    folding = .lower →
      ∀ name, settings.objectName = .text name → (RoutineName.ofText name).InSmallLetters
  | _ => True

/-- A query for tables or for one table always compares in the case of its values; a query for a
routine does when the name of the routine is written in that case. -/
theorem compares_in_case_iff (question : CatalogQuestion String)
    (h : question.query folding settings = .ok query) :
    query.ComparesInCase ↔ question.NamedInCase folding settings := by
  cases question with
  | tables =>
    refine iff_of_true (Query.comparesInCase_of_no_comparison ?_) trivial
    rw [text_eq h]
    exact Query.comparisons_tablesText folding _
  | routines =>
    have hunnamed : settings.objectName.presentSegments = [false] →
        routines.NamedInCase folding settings := by
      intro hnone _ name hname
      rw [hname] at hnone
      rw [(presentSegments_eq_iff name).1 hnone]
      exact RoutineName.inSmallLetters_ofText_empty
    rcases routines_cases h with ⟨name, hname, -, rfl⟩ | ⟨hnone, -, owner, rfl⟩ | ⟨hnone, -, rfl⟩
    · rw [Query.comparesInCase_routine_iff folding (RoutineName.bind_package_ofText name)]
      unfold NamedInCase
      rw [hname]
      refine forall_congr' fun _ => ⟨?_, fun h => h name rfl⟩
      rintro hletters _ ⟨⟩
      exact hletters
    · exact iff_of_true (Query.comparesInCase_of_no_comparison
        (Query.comparisons_ownedRoutinesText folding)) (hunnamed hnone)
    · exact iff_of_true (Query.comparesInCase_of_no_comparison
        (Query.comparisons_userRoutinesText folding)) (hunnamed hnone)
  | columns name =>
    rw [CatalogQuestion.query] at h
    obtain ⟨table, htable, rfl⟩ := ok_of_table h
    exact iff_of_true (Query.comparesInCase_of_table (Query.comparisons_columnsText _) rfl
      (TableName.upper_table htable)) trivial
  | indexes name =>
    rw [CatalogQuestion.query] at h
    obtain ⟨table, htable, rfl⟩ := ok_of_table h
    exact iff_of_true (Query.comparesInCase_of_table (Query.comparisons_indexesText _) rfl
      (TableName.upper_table htable)) trivial
  | foreignKeys name =>
    rw [CatalogQuestion.query] at h
    obtain ⟨table, htable, rfl⟩ := ok_of_table h
    exact iff_of_true (Query.comparesInCase_of_table (Query.comparisons_foreignKeysText _) rfl
      (TableName.upper_table htable)) trivial
  | parameters name =>
    obtain rfl := Except.ok.inj h
    exact Query.comparesInCase_parameters_iff _

theorem compares_in_case_capitals :
    (parameters "HR.PKG.CALC").query .lower {} =
        .ok (Query.parameters (RoutineName.ofText "HR.PKG.CALC")) ∧
      (Query.parameters (RoutineName.ofText "HR.PKG.CALC")).ComparesInCase := by
  have hname : (parameters "HR.PKG.CALC").NamedInCase .lower {} := by
    show upper (RoutineName.ofText "HR.PKG.CALC").object = _
    decide +kernel
  exact ⟨rfl, (compares_in_case_iff (parameters "HR.PKG.CALC") rfl).2 hname⟩

/-- The arguments of a routine in small letters are looked up in capitals, and a routine in capitals
is listed in small letters. -/
theorem not_compares_in_case_as_written :
    (∃ query, (parameters "calc").query .asIs {} = .ok query ∧ ¬query.ComparesInCase) ∧
      ∃ query, routines.query .lower { objectName := .text "CALC" } = .ok query ∧
        ¬query.ComparesInCase := by
  have hsmall : upper (RoutineName.ofText "calc").object ≠ (RoutineName.ofText "calc").object := by
    decide +kernel
  have hcapitals : lower (RoutineName.ofText "CALC").object ≠
      (RoutineName.ofText "CALC").object := by
    decide +kernel
  constructor
  · refine ⟨_, rfl, fun h => ?_⟩
    exact hsmall ((Query.comparesInCase_parameters_iff _).1 h)
  · refine ⟨Query.routine .lower (RoutineName.ofText "CALC"), rfl, fun h => ?_⟩
    have hpackage := RoutineName.bind_package_ofText "CALC"
    exact hcapitals ((Query.comparesInCase_routine_iff .lower hpackage).1 h rfl).1

end CatalogQuestion

end OracleCatalog
