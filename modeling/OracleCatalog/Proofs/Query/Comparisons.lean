import OracleCatalog.Proofs.Query.Placeholders

/-!
# Comparisons in one letter case

A catalog query can put a column into capitals or into small letters and compare it with a
placeholder. The comparisons of this kind are read off the lines of the query.
-/

namespace OracleCatalog

open OracleCatalog.RoutineName (Qualification)
open OracleCatalog.Text (not_mem_append not_mem_chars)

/-! ### Comparisons in a text -/

/-- A letter case that a query puts a column into. -/
inductive LetterCase where
  | upper
  | lower
  deriving DecidableEq

namespace LetterCase

/-- The function of the case and its bracket, in small letters. -/
def opening : LetterCase → List Char
  | .upper => ['u', 'p', 'p', 'e', 'r', '(']
  | .lower => ['l', 'o', 'w', 'e', 'r', '(']

def ofValue : LetterCase → Value → Except Error Value
  | .upper => Value.toUpper
  | .lower => Value.toLower

end LetterCase

/-- A column in one letter case is compared with a placeholder. -/
structure Comparison where
  letters : LetterCase
  placeholder : String
  deriving DecidableEq

namespace Comparison

def isColumnChar (c : Char) : Bool := isNameChar c || c = '.'

/-- What stands between the column and the name of the placeholder. -/
def closing : List Char := [')', ' ', '=', ' ', ':']

/-- The characters behind `function(column) = :` at the start of a text. The function may be written
in any letters. -/
def behindColumn? (letters : LetterCase) (cs : List Char) : Option (List Char) :=
  if letters.opening.isPrefixOf (cs.map Char.toLower) then
    let rest := (cs.drop letters.opening.length).dropWhile isColumnChar
    if closing.isPrefixOf rest then some (rest.drop closing.length) else none
  else none

def startOf? (letters : LetterCase) (cs : List Char) : Option Comparison :=
  match (behindColumn? letters cs).map (·.takeWhile isNameChar) with
  | some (c :: name) => some { letters, placeholder := String.ofList (c :: name) }
  | _ => none

def allIn : List Char → List Comparison
  | [] => []
  | c :: cs =>
    (startOf? .upper (c :: cs)).toList ++ (startOf? .lower (c :: cs)).toList ++ allIn cs

end Comparison

def comparisons (text : String) : List Comparison := Comparison.allIn text.toList

/-! ### Comparisons and placeholders -/

namespace Comparison

variable {letters : LetterCase} {cs : List Char} {comparison : Comparison}

theorem startOf?_some (h : startOf? letters cs = some comparison) :
    ∃ front c rest, cs = front ++ ' ' :: ':' :: c :: rest ∧ isNameChar c = true ∧
      comparison = { letters, placeholder := String.ofList (c :: rest.takeWhile isNameChar) } := by
  unfold startOf? behindColumn? at h
  split at h
  · rename_i c name hname
    obtain ⟨behind, hbehind, htake⟩ := Option.map_eq_some_iff.1 hname
    dsimp only at hbehind
    split at hbehind
    · split at hbehind
      · rename_i hclosing
        obtain ⟨after, hafter⟩ := List.isPrefixOf_iff_prefix.1 hclosing
        rw [← hafter, List.drop_left, Option.some.injEq] at hbehind
        subst hbehind
        cases after with
        | nil => cases htake
        | cons d after =>
          rw [List.takeWhile_cons] at htake
          split at htake
          · rename_i hd
            obtain ⟨rfl, rfl⟩ := List.cons.inj htake
            refine ⟨cs.take letters.opening.length ++
              (cs.drop letters.opening.length).takeWhile isColumnChar ++ [')', ' ', '='], d, after,
              ?_, hd, (Option.some.inj h).symm⟩
            have hcs := List.take_append_drop letters.opening.length cs
            rw [← List.takeWhile_append_dropWhile (p := isColumnChar)
              (l := cs.drop letters.opening.length), ← hafter] at hcs
            rw [closing] at hcs
            simp only [List.append_assoc, List.cons_append, List.nil_append] at hcs ⊢
            exact hcs.symm
          · cases htake
      · cases hbehind
    · cases hbehind
  · cases h

theorem mem_allIn (h : comparison ∈ allIn cs) :
    ∃ before after letters, cs = before ++ after ∧ startOf? letters after = some comparison := by
  induction cs with
  | nil => cases h
  | cons c cs ih =>
    rcases List.mem_append.1 h with hhere | hlater
    · rcases List.mem_append.1 hhere with hupper | hlower
      · exact ⟨[], c :: cs, .upper, rfl, Option.mem_toList.1 hupper⟩
      · exact ⟨[], c :: cs, .lower, rfl, Option.mem_toList.1 hlower⟩
    · obtain ⟨before, after, letters, rfl, hstart⟩ := ih hlater
      exact ⟨c :: before, after, letters, rfl, hstart⟩

theorem placeholder_mem_namesIn (h : comparison ∈ allIn cs) :
    comparison.placeholder ∈ namesIn cs := by
  obtain ⟨before, after, letters, rfl, hstart⟩ := mem_allIn h
  obtain ⟨front, c, rest, rfl, hc, rfl⟩ := startOf?_some hstart
  rw [← List.append_assoc, namesIn_append_break Token.isBreak_blank, namesIn_colon hc]
  exact List.mem_append_right _ List.mem_cons_self

end Comparison

theorem comparisons_of_no_placeholder {text : String} (h : placeholderNames text = []) :
    comparisons text = [] := by
  refine List.eq_nil_iff_forall_not_mem.2 fun comparison hmem => ?_
  have hname := Comparison.placeholder_mem_namesIn hmem
  rw [← placeholderNames, h] at hname
  cases hname

theorem comparisons_of_no_colon {text : String} (h : ':' ∉ text.toList) : comparisons text = [] :=
  comparisons_of_no_placeholder (placeholderNames_of_no_colon h)

/-! ### Lines -/

namespace Comparison

theorem isPrefixOf_append_break {front : List Char} {c : Char} (hc : c ∉ front)
    (cs after : List Char) : front.isPrefixOf (cs ++ c :: after) = front.isPrefixOf cs := by
  induction front generalizing cs with
  | nil => cases cs <;> rfl
  | cons d front ih =>
    obtain ⟨hd, hfront⟩ := List.ne_and_not_mem_of_not_mem_cons hc
    cases cs with
    | nil =>
      show (d == c && _) = false
      rw [beq_eq_false_iff_ne.2 (Ne.symm hd), Bool.false_and]
    | cons e cs =>
      rw [List.cons_append, List.isPrefixOf, List.isPrefixOf, ih hfront]

theorem newline_not_mem_opening (letters : LetterCase) : '\n' ∉ letters.opening := by
  cases letters <;> decide

theorem behindColumn?_append_newline (letters : LetterCase) (cs after : List Char) :
    behindColumn? letters (cs ++ '\n' :: after) =
      (behindColumn? letters cs).map (· ++ '\n' :: after) := by
  have hlower : Char.toLower '\n' = '\n' := by decide
  have hcolumn : isColumnChar '\n' = false := by decide
  have hclosing : '\n' ∉ closing := by decide
  unfold behindColumn?
  rw [List.map_append, List.map_cons, hlower,
    isPrefixOf_append_break (newline_not_mem_opening letters)]
  split
  · rename_i hopening
    have hlength : letters.opening.length ≤ cs.length := by
      have hle := (List.isPrefixOf_iff_prefix.1 hopening).length_le
      rw [List.length_map] at hle
      exact hle
    dsimp only
    rw [List.drop_append_of_le_length hlength, Token.dropWhile_append_break hcolumn,
      isPrefixOf_append_break hclosing]
    split
    · rename_i hprefix
      rw [List.drop_append_of_le_length (List.isPrefixOf_iff_prefix.1 hprefix).length_le]
      rfl
    · rfl
  · rfl

/-- No comparison goes over the end of a line. -/
theorem startOf?_append_newline (letters : LetterCase) (cs after : List Char) :
    startOf? letters (cs ++ '\n' :: after) = startOf? letters cs := by
  have hname : isNameChar '\n' = false := by decide
  have htake : (fun behind : List Char => behind.takeWhile isNameChar) ∘ (· ++ '\n' :: after) =
      fun behind => behind.takeWhile isNameChar :=
    funext fun behind => Token.takeWhile_append_break hname behind after
  unfold startOf?
  rw [behindColumn?_append_newline, Option.map_map, htake]

theorem startOf?_nil (letters : LetterCase) : startOf? letters [] = none := by
  cases letters <;> rfl

theorem allIn_append_newline (cs after : List Char) :
    allIn (cs ++ '\n' :: after) = allIn cs ++ allIn after := by
  induction cs with
  | nil =>
    have hstart : ∀ letters, startOf? letters ('\n' :: after) = none := fun letters =>
      (startOf?_append_newline letters [] after).trans (startOf?_nil letters)
    show (startOf? .upper _).toList ++ (startOf? .lower _).toList ++ allIn after = allIn after
    rw [hstart, hstart]
    rfl
  | cons c cs ih =>
    have hstart := fun letters => startOf?_append_newline letters (c :: cs) after
    rw [List.cons_append] at hstart ⊢
    rw [allIn, allIn, hstart, hstart, ih, List.append_assoc, List.append_assoc, List.append_assoc]

theorem allIn_blanks (width : Nat) (cs : List Char) :
    allIn (List.replicate width ' ' ++ cs) = allIn cs := by
  have hblank : ∀ letters cs, startOf? letters (' ' :: cs) = none := by
    intro letters cs
    cases letters <;> rfl
  induction width with
  | zero => rfl
  | succ width ih =>
    rw [List.replicate_succ, List.cons_append, allIn, hblank, hblank, ih]
    rfl

end Comparison

theorem comparisons_lines (texts : List String) :
    comparisons (Text.lines texts) = texts.flatMap comparisons := by
  have hnewline : ("\n" : String).toList = ['\n'] := by decide
  unfold Text.lines Text.join
  induction texts with
  | nil => rfl
  | cons text texts ih =>
    cases texts with
    | nil => rw [String.intercalate_singleton, List.flatMap_cons, List.flatMap_nil, List.append_nil]
    | cons next rest =>
      rw [String.intercalate_cons_cons, comparisons, String.append_assoc, String.toList_append,
        String.toList_append, hnewline, List.singleton_append, Comparison.allIn_append_newline]
      exact congrArg (comparisons text ++ ·) ih

theorem comparisons_indented (width : Nat) (line : String) :
    comparisons (indented width line) = comparisons line := by
  unfold comparisons indented
  rw [String.toList_append, String.toList_ofList, Comparison.allIn_blanks]

theorem comparisons_whenOwned (owned : Bool) (text : String) :
    comparisons (whenOwned owned text) = if owned then comparisons text else [] := by
  cases owned with
  | true => rfl
  | false => rfl

theorem comparisons_chars {text : String} {cs : List Char} (h : text = String.ofList cs) :
    comparisons text = Comparison.allIn cs := by
  rw [h, comparisons, String.toList_ofList]

theorem comparisons_view {before view after : String} (hbefore : ':' ∉ before.toList)
    (hview : ':' ∉ view.toList) (hafter : ':' ∉ after.toList) (owned : Bool) :
    comparisons (before ++ viewName owned view ++ after) = [] :=
  comparisons_of_no_placeholder (placeholderNames_view hbefore hview hafter owned)

theorem comparisons_fieldLines {fields : List String} (h : fields.flatMap placeholderNames = [])
    (width : Nat) : comparisons (fieldLines width fields) = [] :=
  comparisons_of_no_placeholder ((placeholderNames_fieldLines width fields).trans h)

theorem flatMap_comparisons_of_no_placeholder {texts : List String}
    (h : texts.flatMap placeholderNames = []) : texts.flatMap comparisons = [] :=
  List.flatMap_eq_nil_iff.2 fun text hmem =>
    comparisons_of_no_placeholder (List.flatMap_eq_nil_iff.1 h text hmem)

namespace Query

/-! ### Queries for one table -/

theorem comparisons_columnsText (owned : Bool) :
    comparisons (columnsText owned) = [⟨.upper, "tableParam"⟩] := by
  have htable : comparisons "WHERE UPPER(utc.table_name) = :tableParam" =
      [⟨.upper, "tableParam"⟩] := by
    rw [comparisons_chars rfl]
    decide
  have howner : comparisons "AND utc.OWNER = :ownerParam" = [] := by
    rw [comparisons_chars rfl]
    decide
  have hfields : [
      "utc.table_name as \"table\"", "utc.column_name AS name", "utc.data_type AS type",
      "utc.data_length AS char_length", "utc.data_precision", "utc.data_scale",
      "utc.nullable AS \"null\"", "utc.data_default AS \"default\"",
      "ucc.comments AS \"comment\"", "utc.column_id AS ordinal_position"].flatMap
        placeholderNames = [] := by
    simp (disch := (refine not_mem_chars rfl ?_; decide)) only [List.flatMap_cons,
      List.flatMap_nil, List.append_nil, placeholderNames_of_no_colon]
  unfold columnsText
  rw [comparisons_lines]
  simp (disch := (refine not_mem_chars rfl ?_; decide)) only [List.flatMap_cons, List.flatMap_nil,
    List.nil_append, List.append_nil, comparisons_indented, comparisons_whenOwned,
    comparisons_fieldLines hfields, comparisons_view, htable, howner, comparisons_of_no_colon,
    ite_self]

theorem comparisons_indexesText (owned : Bool) :
    comparisons (indexesText owned) = [⟨.upper, "tableParam"⟩] := by
  have hlookup : ∀ width {field : String}, ':' ∉ field.toList →
      (indexLookup owned width field).flatMap comparisons = [] := fun width _ hfield =>
    flatMap_comparisons_of_no_placeholder (placeholderNames_indexLookup owned width hfield)
  have hjoin : comparisons ("WHERE  c.constraint_name = ic.index_name" ++
      whenOwned owned " AND c.owner = ic.index_owner") = [] := by
    refine comparisons_of_no_colon (not_mem_append (not_mem_chars rfl (by decide)) ?_)
    cases owned with
    | false => exact List.not_mem_nil
    | true => exact not_mem_chars (by rfl) (by decide)
  have hcondition : comparisons ("WHERE upper(ic.table_name) = :tableParam" ++
      whenOwned owned " AND ic.table_owner = :ownerParam") = [⟨.upper, "tableParam"⟩] := by
    cases owned with
    | false =>
      show comparisons ("WHERE upper(ic.table_name) = :tableParam" ++ "") = _
      rw [String.append_empty, comparisons_chars rfl]
      decide
    | true =>
      show comparisons ("WHERE upper(ic.table_name) = :tableParam" ++
        " AND ic.table_owner = :ownerParam") = _
      rw [comparisons, String.toList_append]
      decide
  unfold indexesText
  rw [comparisons_lines]
  simp (disch := (refine not_mem_chars rfl ?_; decide)) only [List.flatMap_append,
    List.flatMap_cons, List.flatMap_nil, List.nil_append, List.append_nil, comparisons_indented,
    comparisons_view, hlookup, hjoin, hcondition, comparisons_of_no_colon]

theorem comparisons_foreignKeysText (owned : Bool) :
    comparisons (foreignKeysText owned) = [⟨.upper, "tableParam"⟩] := by
  have htable : comparisons "AND upper(cc.table_name) = :tableParam" =
      [⟨.upper, "tableParam"⟩] := by
    rw [comparisons_chars rfl]
    decide
  have howner : comparisons "AND cc.owner = :ownerParam" = [] := by
    rw [comparisons_chars rfl]
    decide
  cases owned with
  | false =>
    show comparisons userForeignKeysText = _
    unfold userForeignKeysText
    rw [comparisons_lines]
    simp (disch := (refine not_mem_chars rfl ?_; decide)) only [List.flatMap_cons,
      List.flatMap_nil, List.nil_append, List.append_nil, comparisons_indented,
      comparisons_fieldLines placeholderNames_foreignKeyFields, htable, comparisons_of_no_colon]
  | true =>
    show comparisons allForeignKeysText = _
    unfold allForeignKeysText
    rw [comparisons_lines]
    simp (disch := (refine not_mem_chars rfl ?_; decide)) only [List.flatMap_cons,
      List.flatMap_nil, List.nil_append, List.append_nil, comparisons_indented,
      comparisons_fieldLines placeholderNames_foreignKeyFields, htable, howner,
      comparisons_of_no_colon]

/-! ### The query for arguments -/

theorem comparisons_argumentOwner (qualification : Qualification) :
    comparisons (whenOwned (OwnerCondition.argument qualification).usesOwner
      (OwnerCondition.argument qualification).owner) = [] := by
  have howner : comparisons (OwnerCondition.argument qualification).owner = [] := by
    cases qualification <;>
    · dsimp only [OwnerCondition.argument]
      rw [comparisons_chars rfl]
      decide
  rw [comparisons_whenOwned, howner, ite_self]

theorem comparisons_parametersText (qualification : Qualification) :
    comparisons (parametersText qualification) = [⟨.upper, "objectParam"⟩] := by
  have hobject : comparisons "WHERE UPPER(args.object_name) = :objectParam" =
      [⟨.upper, "objectParam"⟩] := by
    rw [comparisons_chars rfl]
    decide
  have hview := no_colon_argumentView qualification
  have hfrom : comparisons
      ("FROM " ++ (OwnerCondition.argument qualification).view ++ " args") = [] :=
    comparisons_of_no_colon (not_mem_append
      (not_mem_append (not_mem_chars rfl (by decide)) hview) (not_mem_chars rfl (by decide)))
  have hfields : [
      "args.object_name as \"object\"", "args.package_name AS package",
      "args.argument_name AS name", "args.data_type AS type", "args.pls_type AS pls_type",
      "args.in_out AS direction", "args.data_length", "args.data_precision", "args.data_scale",
      "args.position AS ordinal_position"].flatMap placeholderNames = [] := by
    simp (disch := (refine not_mem_chars rfl ?_; decide)) only [List.flatMap_cons,
      List.flatMap_nil, List.append_nil, placeholderNames_of_no_colon]
  unfold parametersText
  dsimp only
  rw [comparisons_lines]
  simp (disch := (refine not_mem_chars rfl ?_; decide)) only [List.flatMap_cons, List.flatMap_nil,
    List.nil_append, List.append_nil, comparisons_indented, comparisons_fieldLines hfields,
    comparisons_argumentOwner, hobject, hfrom, comparisons_of_no_colon]

/-! ### Listings -/

/-- The fields of a listing stand on a line of their own, before its conditions. -/
theorem comparisons_routinesText (folding : CaseFolding) {view : String}
    (hview : ':' ∉ view.toList) (conditions : String) :
    comparisons (routinesText folding view conditions) =
      comparisons ("WHERE 1=1 " ++ conditions ++ " ORDER BY object, name") := by
  have hobject : ':' ∉ (foldedField folding "OBJECT_NAME").toList :=
    no_colon_foldedField (not_mem_chars rfl (by decide)) folding
  have hprocedure : ':' ∉ (foldedField folding "PROCEDURE_NAME").toList :=
    no_colon_foldedField (not_mem_chars rfl (by decide)) folding
  have hfields : comparisons ("SELECT " ++ foldedField folding "OBJECT_NAME" ++ " as object, " ++
      foldedField folding "PROCEDURE_NAME" ++ " as name, OBJECT_TYPE FROM " ++ view) = [] := by
    refine comparisons_of_no_colon (not_mem_append (not_mem_append (not_mem_append
      (not_mem_append (not_mem_append ?_ hobject) ?_) hprocedure) ?_) hview)
    · exact not_mem_chars rfl (by decide)
    · exact not_mem_chars rfl (by decide)
    · exact not_mem_chars rfl (by decide)
  have hline : routinesText folding view conditions = Text.lines [
      "SELECT " ++ foldedField folding "OBJECT_NAME" ++ " as object, " ++
        foldedField folding "PROCEDURE_NAME" ++ " as name, OBJECT_TYPE FROM " ++ view,
      "WHERE 1=1 " ++ conditions ++ " ORDER BY object, name"] := by
    have hnewline : ("\nWHERE 1=1 " : String) = "\n" ++ "WHERE 1=1 " := rfl
    unfold routinesText Text.lines Text.join
    rw [String.intercalate_cons_cons, String.intercalate_singleton, hnewline]
    simp only [String.append_assoc]
  rw [hline, comparisons_lines, List.flatMap_cons, List.flatMap_cons, List.flatMap_nil, hfields,
    List.nil_append, List.append_nil]

/-- What a listing compares in one letter case: with names as they are nothing, else all it looks
for in a field. -/
def listingComparisons : CaseFolding → Qualification → List Comparison
  | .asIs, _ => []
  | .lower, .none | .lower, .schema => [⟨.lower, "objectParam"⟩]
  | .lower, .package | .lower, .schemaAndPackage =>
    [⟨.lower, "packageParam"⟩, ⟨.lower, "objectParam"⟩]

theorem comparisons_routineText (folding : CaseFolding) (qualification : Qualification) :
    comparisons (routineText folding qualification) =
      listingComparisons folding qualification := by
  unfold routineText
  dsimp only
  rw [comparisons_routinesText folding (no_colon_listingView qualification)]
  cases folding <;> cases qualification <;>
  · simp only [comparisons, OwnerCondition.listing, foldedField, String.toList_append,
      String.reduceToList]
    decide

theorem comparisons_tablesText (folding : CaseFolding) (owned : Bool) :
    comparisons (tablesText folding owned) = [] := by
  unfold tablesText
  cases folding <;> cases owned <;>
  · simp only [comparisons, foldedField, viewName, whenOwned, String.toList_append]
    decide

theorem comparisons_ownedRoutinesText (folding : CaseFolding) :
    comparisons (routinesText folding "all_procedures" " AND OWNER = :ownerParam ") = [] := by
  rw [comparisons_routinesText folding (not_mem_chars rfl (by decide)), comparisons,
    String.toList_append, String.toList_append]
  decide

theorem comparisons_userRoutinesText (folding : CaseFolding) :
    comparisons (routinesText folding "user_procedures" "") = [] := by
  rw [comparisons_routinesText folding (not_mem_chars rfl (by decide)), comparisons,
    String.toList_append, String.toList_append]
  decide

end Query

end OracleCatalog
