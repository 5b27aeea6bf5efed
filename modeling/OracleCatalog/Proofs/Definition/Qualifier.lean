import OracleCatalog.Proofs.Definition.Blocks
import OracleCatalog.Proofs.Definition.Creation
import OracleCatalog.Proofs.Text.Segments

/-!
# What is generated for a table of another schema

The name of a table of another schema has qualifiers before its last segment. The sequence and the
trigger of a table are named by a mark and the whole name, so that the mark belongs to the first
segment. They are in the schema of the table only where the name has no qualifier.
-/

namespace OracleCatalog

open OracleCatalog.Text

/-! ### Qualified names -/

/-- A name of one segment or more. -/
structure QualifiedName where
  qualifier : List String
  last : String
  plain : ∀ segment ∈ qualifier ++ [last], segment ≠ "" ∧ '.' ∉ segment.toList

namespace QualifiedName

variable (name : QualifiedName)

def text : String := join "." (name.qualifier ++ [name.last])

/-- The segments with a mark before the first of them. -/
def frontMarked (mark : String) : List String :=
  match name.qualifier with
  | [] => [mark ++ name.last]
  | first :: rest => (mark ++ first) :: rest ++ [name.last]

/-- Up to letter case, what was generated has the qualifier of the name, and a mark stands before
the last segment. -/
def KeepsQualifier (mark generated : String) : Prop :=
  (segments '.' generated).map upper = (name.qualifier ++ [mark ++ name.last]).map upper

variable {mark : String}

theorem segments_text : segments '.' name.text = name.qualifier ++ [name.last] :=
  segments_join rfl (List.append_ne_nil_of_right_ne_nil _ (List.cons_ne_nil _ _))
    fun segment hsegment => (name.plain segment hsegment).2

theorem segments_mark (hmark : '.' ∉ mark.toList) :
    segments '.' (mark ++ name.text) = name.frontMarked mark := by
  have hsegments := name.segments_text
  unfold frontMarked
  cases hqualifier : name.qualifier with
  | nil =>
    rw [hqualifier] at hsegments
    exact segments_append hmark hsegments
  | cons first rest =>
    rw [hqualifier] at hsegments
    exact segments_append hmark hsegments

theorem keepsQualifier_upper (generated : String) :
    name.KeepsQualifier mark (upper generated) ↔ name.KeepsQualifier mark generated := by
  have htwice : (upper ∘ upper) = upper := funext upper_upper
  unfold KeepsQualifier
  rw [segments_upper, List.map_map, htwice]

/-- A mark before the whole name is before the last segment only if that is the whole name. -/
theorem keepsQualifier_mark_iff (hmark : '.' ∉ mark.toList) (hne : mark ≠ "") :
    name.KeepsQualifier mark (mark ++ name.text) ↔ name.qualifier = [] := by
  unfold KeepsQualifier
  rw [name.segments_mark hmark, frontMarked]
  cases hqualifier : name.qualifier with
  | nil => exact iff_of_true rfl rfl
  | cons first rest =>
    refine iff_of_false (fun h => hne ?_) (List.cons_ne_nil _ _)
    have hfirst : upper (mark ++ first) = upper first := (List.cons.inj h).1
    rw [upper_append, String.append_eq_right_iff] at hfirst
    exact (upper_eq_empty_iff mark).1 hfirst

end QualifiedName

namespace Definition

variable {dialect : Dialect} {table : Table}

/-! ### The statements -/

/-- How a table starts the keys of a column anew that generates them itself. -/
def restart (dialect : Dialect) (table : Table) : List String :=
  match table.integerKey? with
  | some column =>
    if dialect.usesIdentity then
      ["ALTER TABLE " ++ dialect.written table.name ++ " MODIFY(" ++ dialect.written column.name ++
        " GENERATED AS IDENTITY (START WITH 1))"]
    else []
  | none => []

theorem truncate_eq (typed : table.IsTyped) :
    truncate dialect table = .ok (["TRUNCATE TABLE " ++ dialect.written table.name,
      sequenceBlock (sequenceName table.name) (dropSequence (.text (sequenceName table.name))) 1,
      sequenceBlock (sequenceName table.name) (createSequence (.text (sequenceName table.name))) 0]
        ++ restart dialect table) := by
  have hdrop := sequenceBlockFor_eq (sequenceName table.name) none dropSequence 1
  have hcreate := sequenceBlockFor_eq (sequenceName table.name) none createSequence 0
  rw [upper_sequenceName] at hdrop hcreate
  unfold truncate restart
  rw [dialect.quoted_eq typed.name, Error.ok_bind]
  dsimp only
  rw [show dropSequenceIfPresent (.text (sequenceName table.name)) .null = _ from hdrop,
    Error.ok_bind, show createSequenceIfAbsent (.text (sequenceName table.name)) .null = _ from
      hcreate, Error.ok_bind]
  cases hkey : table.integerKey? with
  | none => rfl
  | some column =>
    have hcolumn := (typed.columns column (mem_of_integerKey? hkey)).name
    cases dialect.usesIdentity with
    | false => rfl
    | true =>
      dsimp only
      rw [dialect.quoted_eq hcolumn]
      rfl

/-- A statement that creates a trigger names it in its first line. -/
def CreatesTrigger (statement trigger : String) : Prop :=
  ∃ quotedTable rest, statement =
    lines (["CREATE TRIGGER " ++ trigger, "   BEFORE INSERT", "   ON " ++ quotedTable] ++ rest)

theorem createsTrigger_keyTrigger (tableName quotedTable sequence column : String) :
    CreatesTrigger (keyTrigger tableName quotedTable sequence column) ("t_" ++ tableName) := by
  have hcreate : "CREATE TRIGGER t_" = "CREATE TRIGGER " ++ "t_" := eq_append_chars rfl rfl rfl
  unfold CreatesTrigger keyTrigger
  rw [hcreate, String.append_assoc]
  exact ⟨quotedTable, _, rfl⟩

/-! ### The names in the statements -/

/-- The sequence and the trigger of a table keep its qualifier only if there is none: else their
marks are before the first segment of its name. -/
theorem generated_names_keep_qualifier_iff (dialect : Dialect) (name : QualifiedName)
    (typed : table.IsTyped) (named : table.name = .text name.text) (column : String)
    (start : Int) :
    ∃ sequence trigger, sequenceName table.name = sequence ∧
      truncate dialect table = .ok (["TRUNCATE TABLE " ++ dialect.written table.name,
        sequenceBlock sequence (dropSequence (.text sequence)) 1,
        sequenceBlock sequence (createSequence (.text sequence)) 0] ++ restart dialect table) ∧
      keyGeneration dialect (.text column) table.name (.int start) =
        (if dialect.usesIdentity then .ok []
        else (createSequenceFrom sequence start).map fun command =>
          [sequenceBlock sequence command 0, keyTrigger name.text (dialect.written table.name)
            sequence (dialect.written (.text column))]) ∧
      CreatesTrigger (keyTrigger name.text (dialect.written table.name) sequence
        (dialect.written (.text column))) trigger ∧
      segments '.' sequence = (name.frontMarked "SEQ_").map upper ∧
      segments '.' trigger = name.frontMarked "t_" ∧
      (name.KeepsQualifier "SEQ_" sequence ↔ name.qualifier = []) ∧
      (name.KeepsQualifier "t_" trigger ↔ name.qualifier = []) := by
  have hsequence : '.' ∉ "SEQ_".toList := by decide
  have htrigger : '.' ∉ "t_".toList := by decide
  have hname : sequenceName table.name = upper ("SEQ_" ++ name.text) := by
    rw [named]
    rfl
  have htext : table.name.toText = name.text := by
    rw [named]
    rfl
  have hgeneration : keyGeneration dialect (.text column) table.name (.int start) = _ :=
    keyGeneration_ofStart (Value.isText_text column) typed.name start
  rw [htext] at hgeneration
  refine ⟨sequenceName table.name, "t_" ++ name.text, rfl, truncate_eq typed, hgeneration,
    createsTrigger_keyTrigger _ _ _ _, ?_, name.segments_mark htrigger, ?_,
    name.keepsQualifier_mark_iff htrigger (by decide)⟩
  · rw [hname, segments_upper, name.segments_mark hsequence]
  · rw [hname, name.keepsQualifier_upper]
    exact name.keepsQualifier_mark_iff hsequence (by decide)

/-- The name of a table in another schema of another database. -/
def remoteName : QualifiedName := {
  qualifier := ["prod", "hr"]
  last := "emp"
  plain := by decide }

def remoteEmployees : Table := { employees with name := .text "prod.hr.emp" }

theorem remoteEmployees_typed : remoteEmployees.IsTyped :=
  { employees_typed with name := Value.isText_text "prod.hr.emp" }

theorem remoteEmployees_lose_qualifier :
    ∃ sequence trigger, sequenceName remoteEmployees.name = sequence ∧
      segments '.' sequence = ["SEQ_PROD", "HR", "EMP"] ∧
      segments '.' trigger = ["t_prod", "hr", "emp"] ∧
      ¬remoteName.KeepsQualifier "SEQ_" sequence ∧ ¬remoteName.KeepsQualifier "t_" trigger := by
  have hnamed : remoteEmployees.name = .text remoteName.text := rfl
  have hcapitals : (remoteName.frontMarked "SEQ_").map upper = ["SEQ_PROD", "HR", "EMP"] := by
    decide +kernel
  obtain ⟨sequence, trigger, hsequence, -, -, -, hfront, htrigger, hkeeps, hkeeps'⟩ :=
    generated_names_keep_qualifier_iff {} remoteName remoteEmployees_typed hnamed "ID" 1
  refine ⟨sequence, trigger, hsequence, hfront.trans hcapitals, htrigger, fun h => ?_, fun h => ?_⟩
  · exact absurd (hkeeps.1 h) (List.cons_ne_nil _ _)
  · exact absurd (hkeeps'.1 h) (List.cons_ne_nil _ _)

/-- The sequence of a table in a schema would be in a schema of another name. -/
theorem sequence_loses_qualifier :
    ∃ name : QualifiedName, name.text = "HR.EMP" ∧
      sequenceName (.text name.text) = "SEQ_HR.EMP" ∧
      ¬name.KeepsQualifier "SEQ_" "SEQ_HR.EMP" ∧ name.KeepsQualifier "SEQ_" "HR.SEQ_EMP" := by
  have hsequence : sequenceName (.text "HR.EMP") = "SEQ_HR.EMP" := by decide +kernel
  have hsegments : segments '.' "HR.SEQ_EMP" = ["HR", "SEQ_" ++ "EMP"] := by decide
  refine ⟨{ qualifier := ["HR"], last := "EMP", plain := by decide }, rfl, hsequence, fun h => ?_,
    congrArg (List.map upper) hsegments⟩
  rw [← hsequence] at h
  have hmark := (QualifiedName.keepsQualifier_upper _ _).1 h
  have hnone := (QualifiedName.keepsQualifier_mark_iff _ (by decide) (by decide)).1 hmark
  exact absurd hnone (List.cons_ne_nil _ _)

end Definition

end OracleCatalog
