import OracleCatalog.Proofs.Name
import OracleCatalog.Proofs.Query.Placeholders
import OracleCatalog.Proofs.Success
import OracleCatalog.Proofs.Text.Case

/-!
# Catalog queries and the shape of what they are asked

A catalog query is made for names and settings. Its text goes by their shape alone: which segments
of a name are there, and whether there is a schema. What they say is bound.
-/

namespace OracleCatalog

open OracleCatalog.RoutineName (Qualification)
open OracleCatalog.Text (not_mem_chars presentSegments presentSegments_upper segments_present)

/-! ### Questions -/

/-- What is asked of the catalog. A listing of routines goes by the name in the settings. -/
inductive CatalogQuestion (ν : Type) where
  | tables
  | routines
  | columns (table : ν)
  | indexes (table : ν)
  | foreignKeys (table : ν)
  | parameters (routine : ν)
  deriving DecidableEq

namespace CatalogQuestion

def map {ν μ : Type} (f : ν → μ) : CatalogQuestion ν → CatalogQuestion μ
  | .tables => .tables
  | .routines => .routines
  | .columns table => .columns (f table)
  | .indexes table => .indexes (f table)
  | .foreignKeys table => .foreignKeys (f table)
  | .parameters routine => .parameters (f routine)

def query (folding : CaseFolding) (settings : Settings) :
    CatalogQuestion String → Except Error Query
  | .tables => Query.tables folding settings
  | .routines => Query.routines folding settings
  | .columns table => (TableName.ofValue (.text table) settings).map Query.columns
  | .indexes table => (TableName.ofValue (.text table) settings).map Query.indexes
  | .foreignKeys table => (TableName.ofValue (.text table) settings).map Query.foreignKeys
  | .parameters routine => .ok (Query.parameters (RoutineName.ofText routine))

def listed (settings : Settings) : CatalogQuestion String → Value
  | .routines => settings.objectName
  | _ => .null

end CatalogQuestion

/-- The shape of a question: segments that are there, and whether there is a schema. -/
structure CatalogShape where
  question : CatalogQuestion (List Bool)
  listed : List Bool
  schema : Bool
  deriving DecidableEq

/-- Which segments of a name are there; a value that is no text is one segment. -/
def Value.presentSegments : Value → List Bool
  | .text s => Text.presentSegments s
  | v => [v.truthy]

def CatalogQuestion.shape (settings : Settings) (question : CatalogQuestion String) :
    CatalogShape :=
  { question := question.map Text.presentSegments
    listed := (question.listed settings).presentSegments
    schema := settings.schema.truthy }

/-! ### The text for a shape -/

/-- The qualifiers of a routine whose name has these segments. -/
def qualificationOf : List Bool → Qualification
  | [package, _] => if package then .package else .none
  | [schema, package, _] =>
    if schema then if package then .schemaAndPackage else .schema
    else if package then .package else .none
  | _ => .none

/-- Whether a table whose name has these segments is looked up in a schema. -/
def ownedBy (present : List Bool) (schema : Bool) : Bool :=
  match present.reverse with
  | _ :: qualifier :: _ => qualifier
  | _ => schema

def CatalogShape.text (folding : CaseFolding) (shape : CatalogShape) : String :=
  match shape.question with
  | .tables => Query.tablesText folding shape.schema
  | .routines =>
    if shape.listed = [false] then
      if shape.schema then Query.routinesText folding "all_procedures" " AND OWNER = :ownerParam "
      else Query.routinesText folding "user_procedures" ""
    else Query.routineText folding (qualificationOf shape.listed)
  | .columns present => Query.columnsText (ownedBy present shape.schema)
  | .indexes present => Query.indexesText (ownedBy present shape.schema)
  | .foreignKeys present => Query.foreignKeysText (ownedBy present shape.schema)
  | .parameters present => Query.parametersText (qualificationOf present)

theorem presentSegments_eq_iff (s : String) : presentSegments s = [false] ↔ s = "" := by
  constructor
  · intro h
    have hpaste := Text.paste_cut '.' s.toList
    unfold presentSegments at h
    obtain ⟨piece, hcut, hpiece⟩ := List.map_eq_singleton_iff.1 h
    rw [Bool.not_eq_false', List.isEmpty_iff] at hpiece
    rw [hcut, hpiece] at hpaste
    exact String.toList_eq_nil_iff.1 hpaste.symm
  · rintro rfl
    rfl

theorem Value.truthy_iff_presentSegments (v : Value) :
    v.truthy = true ↔ v.presentSegments ≠ [false] := by
  have hsingle : ∀ b : Bool, b = true ↔ [b] ≠ [false] := by decide
  cases v with
  | text s =>
    show (s != "") = true ↔ Text.presentSegments s ≠ [false]
    rw [bne_iff_ne, ne_eq, ne_eq, presentSegments_eq_iff]
  | _ => exact hsingle _

theorem Value.truthy_toUpper {v w : Value} (h : v.toUpper = .ok w) : w.truthy = v.truthy := by
  cases v with
  | text s =>
    obtain rfl := Except.ok.inj h
    show (Text.upper s != "") = (s != "")
    rw [Bool.eq_iff_iff, bne_iff_ne, bne_iff_ne, ne_eq, ne_eq, Text.upper_eq_empty_iff]
  | bytes b =>
    obtain rfl := Except.ok.inj h
    cases b <;> rfl
  | _ => cases h

theorem RoutineName.qualification_ofText (name : String) :
    (ofText name).qualification = qualificationOf (presentSegments name) := by
  have hnonEmpty : ∀ s : String, (nonEmpty s).bind nonEmpty = if s != "" then some s else none := by
    intro s
    unfold nonEmpty
    by_cases hs : s = ""
    · rw [hs]
      rfl
    · rw [if_neg hs, Option.bind_some, if_neg hs, if_pos (bne_iff_ne.2 hs)]
  rw [← segments_present]
  unfold ofText
  match Text.segments '.' name with
  | [] => rfl
  | [_] => rfl
  | [package, object] =>
    rw [List.map_cons, List.map_cons, List.map_nil]
    dsimp only [qualification, qualificationOf, Option.bind_none]
    rw [hnonEmpty]
    cases package != "" <;> rfl
  | [schema, package, object] =>
    rw [List.map_cons, List.map_cons, List.map_cons, List.map_nil]
    dsimp only [qualification, qualificationOf]
    rw [hnonEmpty, hnonEmpty]
    cases schema != "" <;> cases package != "" <;> rfl
  | _ :: _ :: _ :: _ :: _ => rfl

theorem TableName.hasSchema_ofText {name : String} {defaultSchema : Value} {table : TableName}
    (h : ofText name defaultSchema = .ok table) :
    table.hasSchema = ownedBy (presentSegments name) defaultSchema.truthy := by
  have hdefault : ∀ {table : TableName}, (if defaultSchema.truthy then
      defaultSchema.toUpper.map fun schema => { schema, table := Text.upper name }
      else .ok { table := Text.upper name }) = Except.ok table →
      table.hasSchema = defaultSchema.truthy := by
    intro table h
    split at h
    · obtain ⟨schema, hschema, rfl⟩ := Error.ok_of_map h
      exact Value.truthy_toUpper hschema
    · rename_i hnone
      obtain rfl := Except.ok.inj h
      exact (Bool.eq_false_iff.2 hnone).symm
  rw [← presentSegments_upper, ← segments_present, ownedBy, ← List.map_reverse]
  unfold ofText at h
  cases hsegments : (Text.segments '.' (Text.upper name)).reverse with
  | nil =>
    rw [hsegments] at h
    exact hdefault h
  | cons last rest =>
    rw [hsegments] at h
    cases rest with
    | nil => exact hdefault h
    | cons schema rest =>
      obtain rfl := Except.ok.inj h
      rfl

namespace CatalogQuestion

variable {folding : CaseFolding} {settings : Settings} {query : Query}

theorem ok_of_table {name : String} {make : TableName → Query}
    (h : (TableName.ofValue (.text name) settings).map make = .ok query) :
    ∃ table, TableName.ofText name settings.schema = .ok table ∧ make table = query :=
  Error.ok_of_map h

theorem routines_cases (h : Query.routines folding settings = .ok query) :
    (∃ name, settings.objectName = .text name ∧ name ≠ "" ∧
        query = Query.routine folding (RoutineName.ofText name)) ∨
      settings.objectName.presentSegments = [false] ∧ settings.schema.truthy = true ∧
        (∃ owner, query =
          { text := Query.routinesText folding "all_procedures" " AND OWNER = :ownerParam "
            binds := [("ownerParam", owner)] }) ∨
      settings.objectName.presentSegments = [false] ∧ settings.schema.truthy = false ∧
        query = { text := Query.routinesText folding "user_procedures" "" } := by
  unfold Query.routines at h
  split at h
  · rename_i htruthy
    obtain ⟨name, hname, rfl⟩ := Error.ok_of_map h
    cases hobject : settings.objectName with
    | text s =>
      rw [hobject] at hname htruthy
      obtain rfl := Except.ok.inj hname
      exact .inl ⟨s, rfl, bne_iff_ne.1 htruthy, rfl⟩
    | _ =>
      rw [hobject] at hname
      cases hname
  · rename_i hfalse
    have hnone : settings.objectName.presentSegments = [false] :=
      Decidable.not_not.1 fun hne => hfalse ((Value.truthy_iff_presentSegments _).2 hne)
    split at h
    · rename_i hschema
      obtain ⟨owner, -, rfl⟩ := Error.ok_of_map h
      exact .inr (.inl ⟨hnone, hschema, owner, rfl⟩)
    · rename_i hschema
      obtain rfl := Except.ok.inj h
      exact .inr (.inr ⟨hnone, Bool.eq_false_iff.2 hschema, rfl⟩)

theorem text_eq {question : CatalogQuestion String}
    (h : question.query folding settings = .ok query) :
    query.text = (question.shape settings).text folding := by
  cases question with
  | tables =>
    show query.text = Query.tablesText folding settings.schema.truthy
    rw [CatalogQuestion.query, Query.tables] at h
    split at h
    · rename_i hschema
      obtain ⟨owner, -, rfl⟩ := Error.ok_of_map h
      rw [hschema]
    · rename_i hschema
      obtain rfl := Except.ok.inj h
      rw [Bool.eq_false_iff.2 hschema]
  | routines =>
    unfold CatalogShape.text shape map listed
    dsimp only
    rcases routines_cases h with ⟨name, hname, hne, rfl⟩ | ⟨hnone, hschema, owner, rfl⟩ |
      ⟨hnone, hschema, rfl⟩
    · have hpresent : settings.objectName.presentSegments = presentSegments name := by
        rw [hname]
        rfl
      rw [hpresent, if_neg fun hempty => hne ((presentSegments_eq_iff name).1 hempty),
        ← RoutineName.qualification_ofText]
      rfl
    · rw [hnone, if_pos rfl, if_pos hschema]
    · rw [hnone, if_pos rfl, if_neg (Bool.eq_false_iff.1 hschema)]
  | columns name =>
    rw [CatalogQuestion.query] at h
    obtain ⟨table, htable, rfl⟩ := ok_of_table h
    exact congrArg Query.columnsText (TableName.hasSchema_ofText htable)
  | indexes name =>
    rw [CatalogQuestion.query] at h
    obtain ⟨table, htable, rfl⟩ := ok_of_table h
    exact congrArg Query.indexesText (TableName.hasSchema_ofText htable)
  | foreignKeys name =>
    rw [CatalogQuestion.query] at h
    obtain ⟨table, htable, rfl⟩ := ok_of_table h
    exact congrArg Query.foreignKeysText (TableName.hasSchema_ofText htable)
  | parameters name =>
    obtain rfl := Except.ok.inj h
    exact congrArg Query.parametersText (RoutineName.qualification_ofText name)

/-! ### What is bound -/

theorem keys_binds_table (table : TableName) :
    OrderedMap.keys table.binds = Query.tableNames table.hasSchema := by
  unfold TableName.binds Query.tableNames
  cases table.hasSchema <;> rfl

theorem mem_keys_binds_routine (routine : RoutineName) (name : String) :
    name ∈ OrderedMap.keys routine.binds ↔
      name = "objectParam" ∨ name ∈ Query.qualifierNames routine.qualification := by
  unfold RoutineName.binds OrderedMap.keys
  cases routine.qualification <;> simp [Query.qualifierNames, or_comm]

theorem mem_placeholderNames_iff {question : CatalogQuestion String}
    (h : question.query folding settings = .ok query) (name : String) :
    name ∈ placeholderNames query.text ↔ name ∈ OrderedMap.keys query.binds := by
  cases question with
  | tables =>
    rw [CatalogQuestion.query, Query.tables] at h
    split at h
    · obtain ⟨owner, -, rfl⟩ := Error.ok_of_map h
      rw [Query.placeholderNames_tablesText]
      rfl
    · obtain rfl := Except.ok.inj h
      rw [Query.placeholderNames_tablesText]
      rfl
  | routines =>
    rcases routines_cases h with ⟨routine, -, -, rfl⟩ | ⟨-, -, owner, rfl⟩ | ⟨-, -, rfl⟩
    · show name ∈ placeholderNames (Query.routineText folding _) ↔ name ∈ OrderedMap.keys _
      rw [Query.placeholderNames_routineText, Query.routine, mem_keys_binds_routine,
        List.mem_append, List.mem_singleton, or_comm]
    · rw [Query.placeholderNames_routinesText folding (not_mem_chars rfl (by decide)),
        Query.placeholderNames_ownedRoutines]
      rfl
    · rw [Query.placeholderNames_routinesText folding (not_mem_chars rfl (by decide)),
        placeholderNames_of_no_colon List.not_mem_nil]
      rfl
  | columns table =>
    rw [CatalogQuestion.query] at h
    obtain ⟨table, -, rfl⟩ := ok_of_table h
    rw [Query.columns, Query.placeholderNames_columnsText, keys_binds_table]
  | indexes table =>
    rw [CatalogQuestion.query] at h
    obtain ⟨table, -, rfl⟩ := ok_of_table h
    rw [Query.indexes, Query.placeholderNames_indexesText, keys_binds_table]
  | foreignKeys table =>
    rw [CatalogQuestion.query] at h
    obtain ⟨table, -, rfl⟩ := ok_of_table h
    rw [Query.foreignKeys, Query.placeholderNames_foreignKeysText, keys_binds_table,
      List.mem_reverse]
  | parameters routine =>
    obtain rfl := Except.ok.inj h
    rw [Query.parameters, Query.placeholderNames_parametersText, mem_keys_binds_routine,
      List.mem_cons]

theorem exists_upper_of_isName {v : Value} (hv : v.IsName) (htruthy : v.truthy = true) :
    ∃ upper, v.toUpper = .ok upper := by
  rcases hv.cases with rfl | ⟨s, rfl⟩
  · cases htruthy
  · exact ⟨_, rfl⟩

theorem exists_table (hschema : settings.schema.IsName) (name : String) :
    ∃ table, TableName.ofValue (.text name) settings = .ok table := by
  show ∃ table, TableName.ofText name settings.schema = .ok table
  unfold TableName.ofText
  split
  · exact ⟨_, rfl⟩
  · split
    · rename_i htruthy
      obtain ⟨schema, h⟩ := exists_upper_of_isName hschema htruthy
      rw [h]
      exact ⟨_, rfl⟩
    · exact ⟨_, rfl⟩

theorem exists_query (hschema : settings.schema.IsName) (hobject : settings.objectName.IsName)
    (question : CatalogQuestion String) : ∃ query, question.query folding settings = .ok query := by
  cases question with
  | tables =>
    rw [CatalogQuestion.query, Query.tables]
    split
    · rename_i htruthy
      obtain ⟨owner, h⟩ := exists_upper_of_isName hschema htruthy
      rw [h]
      exact ⟨_, rfl⟩
    · exact ⟨_, rfl⟩
  | routines =>
    rw [CatalogQuestion.query, Query.routines]
    split
    · rename_i htruthy
      rcases hobject.cases with h | ⟨name, h⟩
      · rw [h] at htruthy
        cases htruthy
      · rw [h]
        exact ⟨_, rfl⟩
    · split
      · rename_i htruthy
        obtain ⟨owner, h⟩ := exists_upper_of_isName hschema htruthy
        rw [h]
        exact ⟨_, rfl⟩
      · exact ⟨_, rfl⟩
  | columns name | indexes name | foreignKeys name =>
    obtain ⟨table, h⟩ := exists_table hschema name
    rw [CatalogQuestion.query, h]
    exact ⟨_, rfl⟩
  | parameters name => exact ⟨_, rfl⟩

theorem binds_routines_eq_iff (name : String) (settings : Settings) :
    (routines.query folding { settings with objectName := .text name }).map (·.binds) =
      ((parameters name).query folding settings).map (·.binds) ↔ name ≠ "" := by
  have hparameters : ((parameters name).query folding settings).map (·.binds) =
      .ok (RoutineName.ofText name).binds := rfl
  rw [hparameters]
  constructor
  · rintro h rfl
    obtain ⟨query, hquery, hbinds⟩ := Error.ok_of_map h
    have hobject : "objectParam" ∈ OrderedMap.keys query.binds := by
      rw [hbinds]
      exact List.mem_cons_self
    rcases routines_cases hquery with ⟨routine, hname, hne, -⟩ | ⟨-, -, owner, rfl⟩ | ⟨-, -, rfl⟩
    · exact hne (Value.text.inj hname).symm
    · have hne : "objectParam" ≠ "ownerParam" := by decide
      exact hne (List.mem_singleton.1 hobject)
    · exact List.not_mem_nil hobject
  · intro hne
    have htruthy : (Value.text name).truthy = true := bne_iff_ne.2 hne
    rw [CatalogQuestion.query, Query.routines, if_pos htruthy]
    rfl

theorem binds_of_table {make : TableName → Query}
    (hmake : ∀ table, (make table).binds = table.binds) (outcome : Except Error TableName) :
    (outcome.map make).map (·.binds) = outcome.map TableName.binds := by
  cases outcome with
  | error e => rfl
  | ok table => exact congrArg Except.ok (hmake table)

/-- Every question has a query, whose text goes by the shape of the question and has as placeholders
the names that are bound. The queries that describe one table bind the same, and so do the listing
and the description of the arguments of one routine. -/
theorem query_spec (folding : CaseFolding) :
    (∀ (question : CatalogQuestion String) (settings : Settings), settings.schema.IsName →
      settings.objectName.IsName → ∃ query, question.query folding settings = .ok query) ∧
    (∀ (question other : CatalogQuestion String) (settings otherSettings : Settings)
      (query otherQuery : Query), question.query folding settings = .ok query →
      other.query folding otherSettings = .ok otherQuery →
      question.shape settings = other.shape otherSettings → query.text = otherQuery.text) ∧
    (∀ (question : CatalogQuestion String) (settings : Settings) (query : Query),
      question.query folding settings = .ok query → ∀ name : List Char,
      .named name ∈ Token.ofText query.text.toList ↔
        String.ofList name ∈ OrderedMap.keys query.binds) ∧
    (∀ (table : String) (settings : Settings),
      ((indexes table).query folding settings).map (·.binds) =
          ((columns table).query folding settings).map (·.binds) ∧
        ((foreignKeys table).query folding settings).map (·.binds) =
          ((columns table).query folding settings).map (·.binds)) ∧
    (∀ (name : String) (settings : Settings),
      (routines.query folding { settings with objectName := .text name }).map (·.binds) =
        ((parameters name).query folding settings).map (·.binds) ↔ name ≠ "") := by
  refine ⟨fun question settings hschema hobject => exists_query hschema hobject question, ?_, ?_,
    ?_, binds_routines_eq_iff⟩
  · intro question other settings otherSettings query otherQuery h hother hshape
    rw [text_eq h, text_eq hother, hshape]
  · intro question settings query h name
    rw [← mem_namesIn]
    exact mem_placeholderNames_iff h _
  · intro table settings
    rw [CatalogQuestion.query, CatalogQuestion.query, CatalogQuestion.query,
      binds_of_table fun _ => rfl,
      binds_of_table fun _ => rfl, binds_of_table fun _ => rfl]
    exact ⟨rfl, rfl⟩

theorem query_spec_otherContent :
    (columns "hr.emp").shape {} = (columns "ß.t").shape { schema := .text "" } ∧
      ∃ query other, (columns "hr.emp").query .lower {} = .ok query ∧
        (columns "ß.t").query .lower { schema := .text "" } = .ok other ∧
        query.text = other.text ∧
        (.named "ownerParam".toList ∈ Token.ofText query.text.toList ↔
          String.ofList "ownerParam".toList ∈ OrderedMap.keys query.binds) := by
  obtain ⟨hexists, htext, hnames, -⟩ := query_spec .lower
  obtain ⟨query, hquery⟩ := hexists (columns "hr.emp") {} Value.isName_null Value.isName_null
  obtain ⟨other, hother⟩ := hexists (columns "ß.t") { schema := .text "" } (Value.isName_text "")
    Value.isName_null
  have hshape : (columns "hr.emp").shape {} = (columns "ß.t").shape { schema := .text "" } := by
    decide
  exact ⟨hshape, query, other, hquery, hother, htext _ _ _ _ _ _ hquery hother hshape,
    hnames _ _ _ hquery _⟩

/-- An empty name restricts no listing, but its arguments are looked up. -/
theorem binds_routines_ne_of_empty_name :
    (routines.query .asIs { objectName := .text "" }).map (·.binds) ≠
      ((parameters "").query .asIs {}).map (·.binds) := by
  show Except.ok [] ≠ Except.ok [("objectParam", Value.text "")]
  intro h
  cases h

end CatalogQuestion

end OracleCatalog
