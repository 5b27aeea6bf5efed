import OracleCatalog.Definition.Table
import OracleCatalog.Proofs.Definition.Blocks
import OracleCatalog.Proofs.Definition.Column
import OracleCatalog.Proofs.Definition.Key
import OracleCatalog.Proofs.Text.Capitals

/-!
# Creating a table

The statements that create a typed table are put together from the definitions of its parts: the
table itself, its indexes, its comments, and the sequence and the trigger of its key.
-/

namespace OracleCatalog.Definition

open OracleCatalog.Text

variable {dialect : Dialect} {table : Table}

/-! ### Comments -/

def commentText (dialect : Dialect) (table : Table) (column : Column) : String :=
  "COMMENT ON COLUMN " ++ dialect.written table.name ++ "." ++ dialect.written column.name ++
    " IS " ++ Literal.ofValue column.comment

def commented (table : Table) : List Column := table.columns.filter (!·.comment.isNull)

theorem comments_eq (typed : table.IsTyped) :
    comments dialect table = .ok ((commented table).map (commentText dialect table)) := by
  unfold comments
  rw [dialect.quoted_eq typed.name, Error.ok_bind]
  refine Error.mapM_eq_map fun column hcolumn => ?_
  have hmem := (List.mem_filter.1 hcolumn).1
  rw [dialect.quoted_eq (typed.columns column hmem).name]
  rfl

/-! ### Sequences and triggers -/

/-- The block that creates a sequence and the trigger that draws from it. -/
def sequenceStatements (dialect : Dialect) (table : Table) (column : Column) : List String :=
  [sequenceBlock (sequenceName table.name) (createSequence (.text (sequenceName table.name))) 0,
    keyTrigger table.name.toText (dialect.written table.name) (sequenceName table.name)
      (dialect.written column.name)]

theorem createSequence_ne_empty (name : Value) : createSequence name ≠ "" := by
  unfold createSequence
  simp only [Ne, String.append_eq_empty_iff, String.reduceEq, and_false, false_and,
    not_false_eq_true]

/-- The command that creates a sequence with its first number, which has to be written for it. -/
def createSequenceFrom (sequence : String) (start : Int) : Except Error String :=
  if start = 1 then .ok (createSequence (.text sequence))
  else (Value.writeInteger start).map fun start =>
    startingAt start (createSequence (.text sequence))

theorem startingAt_createSequence_ne_empty (start : String) (name : Value) :
    startingAt start (createSequence name) ≠ "" := by
  have hcreate : (createSequence name).toList =
      'C' :: ("REATE SEQUENCE " ++ name.toText ++
        " START WITH 1 MINVALUE 1 INCREMENT BY 1 CACHE 20").toList := by
    have hfront : "CREATE SEQUENCE ".toList = 'C' :: "REATE SEQUENCE ".toList := rfl
    unfold createSequence
    rw [String.toList_append, String.toList_append, hfront, String.toList_append,
      String.toList_append]
    rfl
  have hskip (cs : List Char) : "START WITH 1".toList.isPrefixOf ('C' :: cs) = false := rfl
  unfold startingAt replace
  rw [hcreate, replaceFrom, hskip, if_neg Bool.false_ne_true]
  intro hempty
  have hlist := congrArg String.toList hempty
  rw [String.toList_ofList] at hlist
  cases hlist

theorem upper_sequenceName (table : Value) : upper (sequenceName table) = sequenceName table :=
  upper_upper _

theorem createSequenceIfAbsent_sequenceName (table : Value) {command : String}
    (h : command ≠ "") : createSequenceIfAbsent (.text (sequenceName table)) (.text command) =
      .ok (sequenceBlock (sequenceName table) command 0) := by
  have hblock := sequenceBlockFor_eq (sequenceName table) (some command) createSequence 0
  rw [upper_sequenceName, commandOr, if_neg h] at hblock
  exact hblock

/-- The statements for a column and a table that are named by texts. -/
theorem keyGeneration_ofStart {column table : Value} (hcolumn : column.IsText)
    (htable : table.IsText) (start : Int) :
    keyGeneration dialect column table (.int start) =
      if dialect.usesIdentity then .ok []
      else (createSequenceFrom (sequenceName table) start).map fun command =>
        [sequenceBlock (sequenceName table) command 0,
          keyTrigger table.toText (dialect.written table) (sequenceName table)
            (dialect.written column)] := by
  have hblock {command : String} (hne : command ≠ "") :=
    createSequenceIfAbsent_sequenceName table hne
  have hstart : (Value.int start).isNumber 1 = .ok (start == 1) := rfl
  unfold keyGeneration createSequenceFrom
  cases dialect.usesIdentity with
  | true => rfl
  | false =>
    rw [if_neg Bool.false_ne_true, if_neg Bool.false_ne_true, dialect.quoted_eq htable,
      Error.ok_bind, dialect.quoted_eq hcolumn, Error.ok_bind, hstart, Error.ok_bind]
    dsimp only
    by_cases hone : start = 1
    · rw [if_pos hone, if_pos (beq_iff_eq.2 hone), pure_bind,
        hblock (createSequence_ne_empty _)]
      rfl
    · have hwritten : (Value.int start).wholeText = Value.writeInteger start := by
        simp only [Value.wholeText, Value.whole, Except.bind]
      rw [if_neg hone, if_neg (fun h => hone (beq_iff_eq.1 h)), hwritten]
      generalize Value.writeInteger start = written
      cases written with
      | error e => rfl
      | ok text =>
        rw [Except.map, Error.ok_bind, hblock (startingAt_createSequence_ne_empty text _)]
        rfl

theorem keyGeneration_eq {column : Column} (hcolumn : column.name.IsText)
    (htable : table.name.IsText) :
    keyGeneration dialect column.name table.name (.int 1) =
      .ok (if dialect.usesIdentity then [] else sequenceStatements dialect table column) := by
  rw [keyGeneration_ofStart hcolumn htable, createSequenceFrom, if_pos rfl]
  cases dialect.usesIdentity with
  | true => rfl
  | false => rfl

/-! ### Kinds of statements -/

/-- Whether a statement creates a sequence or a trigger: one is a block, the other says so. -/
def generatesKeys (statement : String) : Bool :=
  "declare".toList.isPrefixOf statement.toList ||
    "CREATE TRIGGER ".toList.isPrefixOf statement.toList

theorem generatesKeys_append {front : String} {b : Bool} (rest : String)
    (h : ∀ cs, ("declare".toList.isPrefixOf (front.toList ++ cs) ||
      "CREATE TRIGGER ".toList.isPrefixOf (front.toList ++ cs)) = b) :
    generatesKeys (front ++ rest) = b := by
  unfold generatesKeys
  rw [String.toList_append]
  exact h rest.toList

theorem generatesKeys_tableBody (name : String) (temporary : Bool) (parts : List String) :
    generatesKeys (tableBody name temporary parts) = false := by
  unfold tableBody
  rw [String.append_assoc, String.append_assoc, String.append_assoc]
  cases temporary <;> exact generatesKeys_append _ fun _ => rfl

/-- A table is defined by its parts, none of which is dropped when none is empty. -/
theorem tableBody_eq (name : String) (temporary : Bool) {parts : List String}
    (h : ∀ part ∈ parts, part ≠ "") : tableBody name temporary parts =
      "CREATE" ++ (if temporary then " GLOBAL TEMPORARY " else " ") ++ "TABLE " ++ name ++ " (\n" ++
        join ",\n" parts ++ "\n)" := by
  have hall : parts.filter (· ≠ "") = parts :=
    List.filter_eq_self.2 fun part hpart => decide_eq_true (h part hpart)
  unfold tableBody
  rw [hall]

theorem generatesKeys_indexText (name : Value) (columns : List Value) :
    generatesKeys (indexText dialect table name columns) = false := by
  unfold indexText
  simp only [String.append_assoc]
  exact generatesKeys_append _ fun _ => rfl

theorem generatesKeys_commentText (column : Column) :
    generatesKeys (commentText dialect table column) = false := by
  unfold commentText
  simp only [String.append_assoc]
  exact generatesKeys_append _ fun _ => rfl

theorem generatesKeys_sequenceStatements (column : Column) :
    ∀ statement ∈ sequenceStatements dialect table column, generatesKeys statement = true := by
  intro statement hstatement
  unfold sequenceStatements at hstatement
  rcases List.mem_cons.1 hstatement with rfl | hmem
  · unfold sequenceBlock lines join
    rw [String.intercalate_cons_cons, String.append_assoc]
    exact generatesKeys_append _ fun _ => rfl
  · obtain rfl := List.mem_singleton.1 hmem
    unfold keyTrigger lines join
    rw [String.intercalate_cons_cons, String.append_assoc, String.append_assoc]
    exact generatesKeys_append _ fun _ => rfl

/-! ### All statements -/

def ownKeys (table : Table) : List Constraint := table.constraints.filter (·.kind != .foreign)

/-- What generates the keys of a table besides the table itself. -/
def keyStatements (dialect : Dialect) (table : Table) : List String :=
  match table.integerKey? with
  | some column => if dialect.usesIdentity then [] else sequenceStatements dialect table column
  | none => []

theorem mem_of_integerKey? {column : Column} (h : table.integerKey? = some column) :
    column ∈ table.columns := by
  unfold Table.integerKey? at h
  split at h
  · obtain ⟨hfound, -⟩ := Option.filter_eq_some_iff.1 h
    exact List.mem_of_find?_eq_some hfound
  · cases h

theorem tableKeyGeneration_eq (typed : table.IsTyped) :
    tableKeyGeneration dialect table = .ok (keyStatements dialect table) := by
  unfold tableKeyGeneration keyStatements
  cases hkey : table.integerKey? with
  | none => rfl
  | some column =>
    exact keyGeneration_eq (typed.columns column (mem_of_integerKey? hkey)).name typed.name

theorem generatesKeys_keyStatements :
    ∀ statement ∈ keyStatements dialect table, generatesKeys statement = true := by
  intro statement hstatement
  unfold keyStatements at hstatement
  split at hstatement
  · split at hstatement
    · cases hstatement
    · exact generatesKeys_sequenceStatements _ statement hstatement
  · cases hstatement

theorem exists_indexes (dialect : Dialect) (typed : table.IsTyped) :
    ∃ indexes, (table.indexes.mapM fun part => index dialect table part.name) = .ok indexes ∧
      ∀ statement ∈ indexes, generatesKeys statement = false := by
  have hindex : ∀ part ∈ table.indexes, ∃ columns, index dialect table part.name =
      .ok (indexText dialect table part.name columns) := by
    intro part hpart
    have hname := (typed.indexes part hpart).name
    obtain ⟨found, hmem, hfound⟩ := Value.exists_find?_name hpart hname
    exact ⟨_, index_eq hfound hname (typed.indexes found hmem).columns typed.name⟩
  obtain ⟨indexes, hindexes⟩ := Error.exists_mapM fun part hpart =>
    let ⟨_, h⟩ := hindex part hpart
    ⟨_, h⟩
  refine ⟨indexes, hindexes, fun statement hstatement => ?_⟩
  obtain ⟨part, hpart, hstatement⟩ := Error.mem_of_mapM hindexes hstatement
  obtain ⟨columns, hcolumns⟩ := hindex part hpart
  obtain rfl := Except.ok.inj (hcolumns.symm.trans hstatement)
  exact generatesKeys_indexText part.name columns

theorem exists_columns (dialect : Dialect) (typed : table.IsTyped)
    (distinct : table.columnNames.Nodup)
    (declared : ∀ c ∈ table.columns, c.type.isDeclared = true) :
    ∃ columns, table.columnNames.mapM (column dialect table) = .ok columns := by
  refine Error.exists_mapM fun name hname => ?_
  obtain ⟨c, hc, rfl⟩ := List.mem_map.1 hname
  have hfound := Table.column?_name typed distinct hc
  exact exists_column dialect hfound (typed.columns c hc) (declared c hc)

theorem ownKeys_eq (typed : table.IsTyped) (distinct : (table.constraints.map (·.name)).Nodup) :
    ((table.constraints.filter (·.kind != .foreign)).mapM fun key =>
      constraint dialect table key.name) = .ok ((ownKeys table).map (keyText dialect)) := by
  refine Error.mapM_eq_map fun key hkey => ?_
  obtain ⟨hmem, hkind⟩ := List.mem_filter.1 hkey
  exact constraint_of_mem typed distinct hmem fun hforeign => absurd hforeign (bne_iff_ne.1 hkind)

theorem createTable_eq (typed : table.IsTyped) (columns constraints indexes : List String) :
    createTable dialect table columns constraints indexes =
      .ok (tableBody (dialect.written table.name) table.temporary.truthy (columns ++ constraints) ::
        indexes ++ (commented table).map (commentText dialect table) ++
          keyStatements dialect table) := by
  unfold createTable
  rw [dialect.quoted_eq typed.name, Error.ok_bind, comments_eq typed, Error.ok_bind,
    tableKeyGeneration_eq typed]
  rfl

/-- The statements that create a table whose columns and indexes can be defined. -/
theorem create_eq (typed : table.IsTyped) (distinct : (table.constraints.map (·.name)).Nodup)
    {columns indexes : List String}
    (hcolumns : table.columnNames.mapM (column dialect table) = .ok columns)
    (hindexes : (table.indexes.mapM fun part => index dialect table part.name) = .ok indexes) :
    (create dialect table).outcome.1 =
      .ok (tableBody (dialect.written table.name) table.temporary.truthy
          (columns ++ (ownKeys table).map (keyText dialect)) ::
        indexes ++ (commented table).map (commentText dialect table) ++
          keyStatements dialect table) := by
  unfold create
  rw [hcolumns, Error.ok_bind, ownKeys_eq typed distinct, Error.ok_bind, hindexes, Error.ok_bind,
    createTable_eq typed]
  rfl

/-- The definition of a column that cannot be defined fails the whole creation. -/
theorem create_of_columns_error {e : Error}
    (h : table.columnNames.mapM (column dialect table) = .error e) :
    (create dialect table).outcome.1 = .error e := by
  unfold create
  rw [h]
  rfl

/-! ### A table -/

def nameColumn : Column := { name := .text "NAME", type := .text, comment := .text "as written" }

def numberColumn : Column := { name := .text "ID", type := .integer, nullable := .bool false }

def uniqueName : Constraint := { name := .text "EMP_U", kind := .unique, columns := [.text "NAME"] }

def primaryNumber : Constraint :=
  { name := .text "primary", kind := .primary, columns := [.text "ID"] }

def foreignName : Constraint :=
  { name := .text "EMP_F", kind := .foreign, columns := [.text "NAME"]
    references := .to (.text "HR.PERSON") [.text "NAME"], onDelete := some .cascade }

def nameIndex : Index := { name := .text "EMP_I", columns := [.text "NAME", .text "ID"] }

/-- A table with every kind of key. -/
def employees : Table :=
  { name := .text "EMP", columns := [nameColumn, numberColumn]
    constraints := [uniqueName, foreignName, primaryNumber], indexes := [nameIndex] }

theorem employees_typed : employees.IsTyped := by
  have hsize : ({} : TypeSize).IsTyped := ⟨.inl rfl, .inl rfl, .inl rfl⟩
  have hname : ∀ v ∈ [Value.text "NAME"], v.IsText :=
    List.forall_mem_singleton.2 (Value.isText_text "NAME")
  have hnumber : ∀ v ∈ [Value.text "ID"], v.IsText :=
    List.forall_mem_singleton.2 (Value.isText_text "ID")
  have hforeign : foreignName.IsTyped := by
    refine ⟨Value.isText_text "EMP_F", hname, fun target columns href => ?_⟩
    cases href
    exact ⟨Value.isText_text "HR.PERSON", hname⟩
  refine ⟨Value.isText_text "EMP", ?_, ?_, ?_⟩
  · exact List.forall_mem_cons.2 ⟨⟨Value.isText_text "NAME", hsize, rfl⟩,
      List.forall_mem_singleton.2 ⟨Value.isText_text "ID", hsize, rfl⟩⟩
  · exact List.forall_mem_cons.2 ⟨⟨Value.isText_text "EMP_U", hname, nofun⟩,
      List.forall_mem_cons.2 ⟨hforeign,
        List.forall_mem_singleton.2 ⟨Value.isText_text "primary", hnumber, nofun⟩⟩⟩
  · exact List.forall_mem_singleton.2 ⟨Value.isText_text "EMP_I",
      List.forall_mem_cons.2 ⟨Value.isText_text "NAME", hnumber⟩⟩

theorem employees_columnNames : employees.columnNames.Nodup := by
  show [Value.text "NAME", .text "ID"].Nodup
  simp

theorem employees_constraintNames : (employees.constraints.map (·.name)).Nodup := by
  show [Value.text "EMP_U", .text "EMP_F", .text "primary"].Nodup
  simp

theorem employees_indexNames : (employees.indexes.map (·.name)).Nodup := by
  show [Value.text "EMP_I"].Nodup
  simp

theorem employees_declared : ∀ c ∈ employees.columns, c.type.isDeclared = true :=
  List.forall_mem_cons.2 ⟨rfl, List.forall_mem_singleton.2 rfl⟩

end OracleCatalog.Definition
