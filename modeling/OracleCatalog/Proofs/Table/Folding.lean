import OracleCatalog.Proofs.Table.Rows

/-!
# Folding names before and after the rows of a table

A table can be described with its names folded, or as the catalog spells them and folded afterwards.
Where folding makes no two names one, both give the same table: names are the only thing that
folding touches, and what is put together under a name is the same.
-/

namespace OracleCatalog

open OracleCatalog.OrderedMap (KeysIn keys values get?)

/-! ### Folded tables -/

section Folded

variable (folding : CaseFolding)

def Column.folded (column : Column) : Column := { column with name := folding.fold column.name }

def References.folded : References → References
  | .to table columns => .to (folding.fold table) (columns.map folding.fold)
  | references => references

def Constraint.folded (c : Constraint) : Constraint :=
  { c with
    name := folding.fold c.name
    columns := c.columns.map folding.fold
    references := c.references.folded folding }

def Index.folded (index : Index) : Index :=
  { index with name := folding.fold index.name, columns := index.columns.map folding.fold }

/-- A table with the names of its columns, keys and indexes folded, wherever they stand. -/
def Table.folded (table : Table) : Table :=
  { table with
    columns := table.columns.map (Column.folded folding)
    constraints := table.constraints.map (Constraint.folded folding)
    indexes := table.indexes.map (Index.folded folding) }

def TableBuilder.folded (builder : TableBuilder) : TableBuilder :=
  { builder with
    columns := OrderedMap.rename folding.fold (Column.folded folding) builder.columns
    constraints := OrderedMap.rename folding.fold (Constraint.folded folding) builder.constraints
    indexes := OrderedMap.rename folding.fold (Index.folded folding) builder.indexes }

end Folded

variable {folding : CaseFolding}

theorem TableBuilder.build_folded (builder : TableBuilder) :
    (builder.folded folding).build = builder.build.folded folding := by
  unfold build folded Table.folded
  dsimp only
  rw [OrderedMap.values_rename, OrderedMap.values_rename, OrderedMap.values_rename]

theorem CaseFolding.fold_primaryName (folding : CaseFolding) :
    folding.fold TableBuilder.primaryName = TableBuilder.primaryName := by
  cases folding <;> rfl

theorem Constraint.onto_folded (earlier : Option Constraint) (later : Constraint) :
    onto (earlier.map (folded folding)) (later.folded folding) =
      (onto earlier later).folded folding := by
  cases earlier with
  | none => rfl
  | some earlier =>
    have hreferences : (earlier.references.folded folding).after (later.references.folded folding) =
        (earlier.references.after later.references).folded folding := by
      cases earlier.references <;> cases later.references <;>
        simp only [References.folded, References.after, List.map_append]
    show Constraint.after (earlier.folded folding) (later.folded folding) =
      (earlier.after later).folded folding
    unfold Constraint.after Constraint.folded
    dsimp only
    rw [hreferences, List.map_append]

theorem Index.onto_folded (earlier : Option Index) (later : Constraint) :
    onto (earlier.map (folded folding)) (later.folded folding) =
      (onto earlier later).folded folding := by
  unfold onto Constraint.folded Index.folded
  dsimp only
  rw [List.map_append]
  cases earlier <;> rfl

/-! ### Names that stay apart -/

/-- No two of the names are one name when they are folded. -/
def FoldsApart (folding : CaseFolding) (names : List Value) : Prop :=
  ∀ a ∈ names, ∀ b ∈ names, folding.fold a = folding.fold b → a = b

theorem FoldsApart.beq_eq {names : List Value} (apart : FoldsApart folding names)
    (hnames : ∀ v ∈ names, v.IsName) {a b : Value} (ha : a ∈ names) (hb : b ∈ names) :
    (folding.fold a == folding.fold b) = (a == b) := by
  have hfolded : ∀ {v}, v ∈ names → (folding.fold v).IsName := fun hv =>
    folding.fold_isName (hnames _ hv)
  have lawful := Value.lawfulOn_isName
  rw [Bool.eq_iff_iff, lawful _ _ (hfolded ha) (hfolded hb), lawful a b (hnames a ha) (hnames b hb)]
  exact ⟨apart a ha b hb, fun h => congrArg folding.fold h⟩

/-! ### Names that are read -/

/-- What is made of a name that is read folded is what is made of it as it is, folded. -/
theorem Row.bind_foldedName {α : Type} {row : Row} {field : String}
    {next next' : Value → Except Error α} {f : α → α} (hname : (row.fieldOrNull field).IsName)
    (h : ∀ name, next (folding.fold name) = (next' name).map f) :
    (row.field field >>= fun name => foldedName folding name >>= next) =
      (row.field field >>= fun name => foldedName .asIs name >>= next').map f := by
  cases hfield : row.field field with
  | error e => rfl
  | ok name =>
    rw [Row.field_ok hfield] at hname
    rw [Error.ok_bind, Error.ok_bind, foldedName_eq folding hname, foldedName_eq .asIs hname]
    exact h name

/-! ### Folding what is added -/

namespace TableBuilder

/-- The columns of a builder are under some names, and its keys and indexes under others. -/
structure KeysAmong (columnNames keyNames : List Value) (builder : TableBuilder) : Prop where
  columns : KeysIn (· ∈ columnNames) builder.columns
  constraints : KeysIn (· ∈ keyNames) builder.constraints
  indexes : KeysIn (· ∈ keyNames) builder.indexes

variable {columnNames keyNames : List Value} {builder : TableBuilder}

section Keys

variable {key : Constraint} (hkey : key.name ∈ keyNames)
  (among : builder.KeysAmong columnNames keyNames)

include hkey among

theorem KeysAmong.addKey : (builder.addKey key).KeysAmong columnNames keyNames := by
  unfold TableBuilder.addKey
  split
  · exact ⟨among.columns, among.constraints, OrderedMap.keysIn_gather among.indexes hkey⟩
  · exact ⟨among.columns, OrderedMap.keysIn_gather among.constraints hkey, among.indexes⟩

theorem addKey_folded (apart : FoldsApart folding keyNames) (hnames : ∀ v ∈ keyNames, v.IsName) :
    (builder.folded folding).addKey (key.folded folding) =
      (builder.addKey key).folded folding := by
  have hbeq : ∀ {map : List Value}, (∀ k ∈ map, k ∈ keyNames) → ∀ k ∈ map,
      (folding.fold key.name == folding.fold k) = (key.name == k) := fun hmap k hk =>
    apart.beq_eq hnames hkey (hmap k hk)
  have hindexes : Index.into (builder.folded folding).indexes (key.folded folding) =
      OrderedMap.rename folding.fold (Index.folded folding) (Index.into builder.indexes key) :=
    OrderedMap.gather_rename (hbeq among.indexes) rfl fun earlier => Index.onto_folded earlier key
  have hconstraints : Constraint.into (builder.folded folding).constraints (key.folded folding) =
      OrderedMap.rename folding.fold (Constraint.folded folding)
        (Constraint.into builder.constraints key) :=
    OrderedMap.gather_rename (hbeq among.constraints) rfl fun earlier =>
      Constraint.onto_folded earlier key
  have hkind : (key.folded folding).kind = key.kind := rfl
  unfold addKey
  rw [hindexes, hconstraints, hkind]
  split <;> rfl

end Keys

theorem addColumn_eq (builder : TableBuilder) (column : Column) (h : column.name.IsName) :
    builder.addColumn column =
      .ok { builder with columns := builder.columns.put column.name column } := by
  unfold addColumn
  rw [h.asKey]
  rfl

theorem addColumn_folded (column : Column) (hcolumn : column.name ∈ columnNames)
    (among : builder.KeysAmong columnNames keyNames) (apart : FoldsApart folding columnNames)
    (hnames : ∀ v ∈ columnNames, v.IsName) :
    (builder.folded folding).addColumn (column.folded folding) =
      (builder.addColumn column).map (TableBuilder.folded folding) := by
  have hname := hnames _ hcolumn
  have hput : (builder.folded folding).columns.put (folding.fold column.name)
      (column.folded folding) = OrderedMap.rename folding.fold (Column.folded folding)
        (builder.columns.put column.name column) :=
    (OrderedMap.put_rename (fun k hk => apart.beq_eq hnames hcolumn (among.columns k hk))
      column).symm
  rw [addColumn_eq _ _ hname, addColumn_eq _ _ (folding.fold_isName hname)]
  exact congrArg (fun columns => Except.ok { builder.folded folding with columns }) hput

/-! ### Folding one row -/

theorem addColumnRow_folded {row : Row} (hmem : row.fieldOrNull "name" ∈ columnNames)
    (among : builder.KeysAmong columnNames keyNames) (apart : FoldsApart folding columnNames)
    (hnames : ∀ v ∈ columnNames, v.IsName) :
    (builder.folded folding).addColumnRow folding row =
      TableBuilder.folded folding <$> builder.addColumnRow .asIs row := by
  unfold addColumnRow
  rw [map_bind]
  refine bind_congr fun type => ?_
  rw [map_bind]
  cases hname : row.field "name" with
  | error e => rfl
  | ok name =>
    rw [Row.field_ok hname] at hmem
    rw [Noted.ok_bind, Noted.ok_bind, map_bind]
    refine bind_congr fun _ => ?_
    rw [Noted.map_ofExcept, foldedName_eq folding (hnames name hmem),
      foldedName_eq .asIs (hnames name hmem)]
    refine congrArg Noted.ofExcept ?_
    cases (row.fieldOrNull "ordinal_position").catalogInteger with
    | error e => rfl
    | ok position =>
      exact addColumn_folded (columnOfRow row name type position) hmem among apart hnames

def IndexPart.folded (folding : CaseFolding) (part : IndexPart) : IndexPart :=
  { part with name := folding.fold part.name, column := folding.fold part.column }

theorem indexPartOfRow_folded {row : Row} (hname : (row.fieldOrNull "name").IsName)
    (hcolumn : (row.fieldOrNull "column_name").IsName) :
    indexPartOfRow folding row =
      (indexPartOfRow .asIs row).map (IndexPart.folded folding) := by
  refine Row.bind_foldedName hname fun name => ?_
  refine Row.bind_foldedName hcolumn fun column => ?_
  refine Error.map_bind_congr fun kind => ?_
  have hkept : (if kind = .primary then primaryName else folding.fold name) =
      folding.fold (if kind = .primary then primaryName else name) := by
    split
    · exact folding.fold_primaryName.symm
    · rfl
  exact congrArg (fun name => Except.ok (IndexPart.mk kind name (folding.fold column))) hkept

theorem foreignKeyOfRow_folded {row : Row} (hname : (row.fieldOrNull "constraint_name").IsName)
    (hcolumn : (row.fieldOrNull "column_name").IsName)
    (hreferenced : (row.fieldOrNull "referenced_column_name").IsName) :
    foreignKeyOfRow folding row =
      (foreignKeyOfRow .asIs row).map (Constraint.folded folding) := by
  refine Row.bind_foldedName hname fun name => ?_
  refine Error.map_bind_congr fun owner => ?_
  refine Error.map_bind_congr fun table => ?_
  refine Row.bind_foldedName hcolumn fun column => ?_
  have htarget := Value.isName_text (owner.toText ++ "." ++ table.toText)
  rw [foldedName_eq folding htarget, foldedName_eq .asIs htarget]
  refine Row.bind_foldedName hreferenced fun referenced => ?_
  refine Error.map_bind_congr fun action => ?_
  rfl

end TableBuilder

/-! ### Rows of the three queries -/

namespace TableRow

def columnName? : TableRow → Option Value
  | .column row => some (row.fieldOrNull "name")
  | _ => none

/-- The name under which a table keeps the key or index of a row, if the row names it. -/
def keyName? : TableRow → Option Value
  | .column _ => none
  | .index row => if row.keyKind = .primary then none else some (row.fieldOrNull "name")
  | .foreignKey row => some (row.fieldOrNull "constraint_name")

variable {row : TableRow} {v : Value}

theorem HasNames.columnName_isName (h : row.HasNames) (hv : row.columnName? = some v) :
    v.IsName := by
  cases row with
  | column row =>
    obtain rfl := Option.some.inj hv
    exact h
  | index row => cases hv
  | foreignKey row => cases hv

theorem HasNames.keyName_isName (h : row.HasNames) (hv : row.keyName? = some v) : v.IsName := by
  cases row with
  | column row => cases hv
  | index row =>
    rw [keyName?] at hv
    split at hv
    · cases hv
    · obtain rfl := Option.some.inj hv
      exact h.1
  | foreignKey row =>
    obtain rfl := Option.some.inj hv
    exact h.1

end TableRow

namespace KeyRow

variable {row : KeyRow} {key : Constraint}

theorem read_folded (h : row.toTableRow.HasNames) :
    row.read folding = (row.read .asIs).map (Constraint.folded folding) := by
  cases row with
  | index row =>
    rw [read, TableBuilder.indexPartOfRow_folded h.1 h.2, read]
    cases TableBuilder.indexPartOfRow .asIs row <;> rfl
  | foreignKey row => exact TableBuilder.foreignKeyOfRow_folded h.1 h.2.1 h.2.2

/-- The rows of the primary key are kept under its name, the others under names of their own. -/
theorem read_name (hkey : row.read .asIs = .ok key) :
    key.name = TableBuilder.primaryName ∨ row.toTableRow.keyName? = some key.name := by
  cases row with
  | index row =>
    obtain ⟨part, hpart, rfl⟩ := Error.ok_of_map hkey
    rcases (TableBuilder.indexPartOfRow_ok hpart).2 with ⟨-, hprimary⟩ | ⟨hkind, hname⟩
    · exact .inl hprimary
    · exact .inr ((if_neg hkind).trans (congrArg some (Row.folded_asIs hname)))
  | foreignKey row =>
    have hname := (TableBuilder.foreignKeyOfRow_ok hkey).2.1
    exact .inr (congrArg some (Row.folded_asIs hname))

end KeyRow

namespace TableBuilder

variable {columnNames keyNames : List Value} {builder after : TableBuilder}
  {before written : List Record}

/-! ### Folding all rows -/

theorem KeysAmong.addColumnRow {row : Row} (among : builder.KeysAmong columnNames keyNames)
    (hname : (row.fieldOrNull "name").IsName) (hmem : row.fieldOrNull "name" ∈ columnNames)
    (h : (builder.addColumnRow .asIs row).Gives before after written) :
    after.KeysAmong columnNames keyNames := by
  obtain ⟨type, _, _, h⟩ := Noted.gives_bind h
  obtain ⟨name, _, hfield, h⟩ := Noted.gives_bind h
  obtain ⟨_, _, _, h⟩ := Noted.gives_bind h
  obtain ⟨position, _, h⟩ := Error.ok_of_bind (Noted.gives_ofExcept h)
  rw [Row.field_ok (Noted.gives_ofExcept hfield)] at hname hmem
  have hcolumn := addColumn_eq builder (columnOfRow row name type position) hname
  obtain rfl := Except.ok.inj (hcolumn.symm.trans h)
  exact ⟨OrderedMap.keysIn_put among.columns hmem _, among.constraints, among.indexes⟩

section KeyRows

variable (row : KeyRow) (hkey : ∀ v ∈ row.toTableRow.keyName?, v ∈ keyNames)
  (hprimary : primaryName ∈ keyNames)

include hkey hprimary

theorem name_mem_of_read {key : Constraint} (hread : row.read .asIs = .ok key) :
    key.name ∈ keyNames := by
  rcases KeyRow.read_name hread with hname | hname
  · rw [hname]
    exact hprimary
  · exact hkey _ hname

variable (names : row.toTableRow.HasNames) (among : builder.KeysAmong columnNames keyNames)

include names among

theorem KeysAmong.addKeyRow (h : (builder.addRow .asIs row.toTableRow).Gives before after written) :
    after.KeysAmong columnNames keyNames := by
  rw [KeyRow.addRow_read builder names] at h
  obtain ⟨key, hread, rfl⟩ := Error.ok_of_map (Noted.gives_ofExcept h)
  exact among.addKey (name_mem_of_read row hkey hprimary hread)

theorem addKeyRow_folded (apart : FoldsApart folding keyNames)
    (hnames : ∀ v ∈ keyNames, v.IsName) :
    (builder.folded folding).addRow folding row.toTableRow =
      TableBuilder.folded folding <$> builder.addRow .asIs row.toTableRow := by
  rw [KeyRow.addRow_read _ names, KeyRow.addRow_read _ names, KeyRow.read_folded names,
    Noted.map_ofExcept]
  refine congrArg Noted.ofExcept ?_
  cases hread : row.read .asIs with
  | error e => rfl
  | ok key =>
    have hmem := name_mem_of_read row hkey hprimary hread
    exact congrArg Except.ok (addKey_folded hmem among apart hnames)

end KeyRows

section Rows

variable {row : TableRow} (names : row.HasNames)
  (hcolumn : ∀ v ∈ row.columnName?, v ∈ columnNames) (hkey : ∀ v ∈ row.keyName?, v ∈ keyNames)
  (hprimary : primaryName ∈ keyNames) (among : builder.KeysAmong columnNames keyNames)

include names hcolumn hkey hprimary among

theorem KeysAmong.addRow (h : (builder.addRow .asIs row).Gives before after written) :
    after.KeysAmong columnNames keyNames := by
  cases row with
  | column row => exact among.addColumnRow names (hcolumn _ rfl) h
  | index row => exact among.addKeyRow (.index row) hkey hprimary names h
  | foreignKey row => exact among.addKeyRow (.foreignKey row) hkey hprimary names h

theorem addRow_folded (columnsApart : FoldsApart folding columnNames)
    (keysApart : FoldsApart folding keyNames) (hcolumns : ∀ v ∈ columnNames, v.IsName)
    (hkeys : ∀ v ∈ keyNames, v.IsName) :
    (builder.folded folding).addRow folding row =
      TableBuilder.folded folding <$> builder.addRow .asIs row := by
  cases row with
  | column row => exact addColumnRow_folded (hcolumn _ rfl) among columnsApart hcolumns
  | index row => exact addKeyRow_folded (.index row) hkey hprimary names among keysApart hkeys
  | foreignKey row =>
    exact addKeyRow_folded (.foreignKey row) hkey hprimary names among keysApart hkeys

end Rows

theorem run_addRows_folded {rows : List TableRow} (names : ∀ row ∈ rows, row.HasNames)
    (columns : ∀ row ∈ rows, ∀ v ∈ row.columnName?, v ∈ columnNames)
    (keys : ∀ row ∈ rows, ∀ v ∈ row.keyName?, v ∈ keyNames) (hprimary : primaryName ∈ keyNames)
    (columnsApart : FoldsApart folding columnNames) (keysApart : FoldsApart folding keyNames)
    (hcolumns : ∀ v ∈ columnNames, v.IsName) (hkeys : ∀ v ∈ keyNames, v.IsName)
    (among : builder.KeysAmong columnNames keyNames) (before : List Record) :
    ((builder.folded folding).addRows folding rows).run.run before =
      (TableBuilder.folded folding <$> builder.addRows .asIs rows).run.run before := by
  -- for any builder whose keys are among the names, as each row leaves another one
  induction rows generalizing builder before with
  | nil => rfl
  | cons row rest ih =>
    obtain ⟨hnames, names⟩ := List.forall_mem_cons.1 names
    obtain ⟨hcolumn, columns⟩ := List.forall_mem_cons.1 columns
    obtain ⟨hkey, keys⟩ := List.forall_mem_cons.1 keys
    unfold addRows at ih ⊢
    rw [List.foldlM_cons, List.foldlM_cons,
      addRow_folded hnames hcolumn hkey hprimary among columnsApart keysApart hcolumns hkeys,
      bind_map_left, map_bind]
    refine Noted.run_bind_congr fun after written h => ?_
    exact ih names columns keys (among.addRow hnames hcolumn hkey hprimary h) written

/-- Folding the names while the rows are read gives the table that folding them afterwards gives,
with the same records, and the same error where a row cannot be read. -/
theorem addRows_folded {rows : List TableRow} (names : ∀ row ∈ rows, row.HasNames)
    (columns : FoldsApart folding (rows.filterMap TableRow.columnName?))
    (keys : FoldsApart folding (primaryName :: rows.filterMap TableRow.keyName?))
    (name temporary : Value) :
    (({ name, temporary } : TableBuilder).addRows folding rows).outcome.1.map build =
        (({ name, temporary } : TableBuilder).addRows .asIs rows).outcome.1.map
          (fun builder => builder.build.folded folding) ∧
      (({ name, temporary } : TableBuilder).addRows folding rows).outcome.2 =
        (({ name, temporary } : TableBuilder).addRows .asIs rows).outcome.2 := by
  have hcolumns : ∀ v ∈ rows.filterMap TableRow.columnName?, v.IsName := by
    intro v hv
    obtain ⟨row, hrow, hname⟩ := List.mem_filterMap.1 hv
    exact (names row hrow).columnName_isName hname
  have hkeys : ∀ v ∈ primaryName :: rows.filterMap TableRow.keyName?, v.IsName := by
    refine List.forall_mem_cons.2 ⟨Value.isName_text _, fun v hv => ?_⟩
    obtain ⟨row, hrow, hname⟩ := List.mem_filterMap.1 hv
    exact (names row hrow).keyName_isName hname
  have among : KeysAmong (rows.filterMap TableRow.columnName?)
      (primaryName :: rows.filterMap TableRow.keyName?) { name, temporary } :=
    ⟨OrderedMap.keysIn_nil, OrderedMap.keysIn_nil, OrderedMap.keysIn_nil⟩
  have hrun := run_addRows_folded names
    (fun row hrow v hv => List.mem_filterMap.2 ⟨row, hrow, hv⟩)
    (fun row hrow v hv => List.mem_cons_of_mem _ (List.mem_filterMap.2 ⟨row, hrow, hv⟩))
    List.mem_cons_self columns keys hcolumns hkeys among []
  have houtcome : (({ name, temporary } : TableBuilder).addRows folding rows).outcome =
      (TableBuilder.folded folding <$>
        ({ name, temporary } : TableBuilder).addRows .asIs rows).outcome := hrun
  rw [houtcome, Noted.outcome_map]
  refine ⟨?_, rfl⟩
  cases (({ name, temporary } : TableBuilder).addRows .asIs rows).outcome.1 with
  | error e => rfl
  | ok builder => exact congrArg Except.ok (build_folded builder)

theorem foldsApart_texts {texts : List String}
    (h : ∀ a ∈ texts, ∀ b ∈ texts, Text.lower a = Text.lower b → a = b) :
    FoldsApart .lower (texts.map .text) := by
  intro v hv w hw hfold
  obtain ⟨a, ha, rfl⟩ := List.mem_map.1 hv
  obtain ⟨b, hb, rfl⟩ := List.mem_map.1 hw
  exact congrArg Value.text (h a ha b hb (Value.text.inj hfold))

/-- Two columns, a primary key, and a foreign key whose name is spelled like a column. -/
def employeeRows : List TableRow :=
  [.column [("name", .text "NO"), ("type", .text "NUMBER")],
    .column [("name", .text "DEPT"), ("type", .text "XMLTYPE")],
    .index [("name", .text "EMP_PK"), ("column_name", .text "NO"), ("is_primary", .text "P")],
    .foreignKey [("constraint_name", .text "DEPT"), ("column_name", .text "DEPT"),
      ("referenced_owner", .text "HR"), ("referenced_table_name", .text "DEPT"),
      ("referenced_column_name", .text "NO")]]

theorem employee_rows_folded :
    ∃ spelled, (({ name := .text "EMP" } : TableBuilder).addRows .asIs employeeRows).outcome.1 =
        .ok spelled ∧
      (({ name := .text "EMP" } : TableBuilder).addRows .lower employeeRows).outcome.1.map build =
        .ok (spelled.build.folded .lower) := by
  have names : ∀ row ∈ employeeRows, row.HasNames := by
    refine List.forall_mem_cons.2 ⟨Value.isName_text "NO", ?_⟩
    refine List.forall_mem_cons.2 ⟨Value.isName_text "DEPT", ?_⟩
    refine List.forall_mem_cons.2 ⟨⟨Value.isName_text "EMP_PK", Value.isName_text "NO"⟩, ?_⟩
    refine List.forall_mem_singleton.2 ⟨Value.isName_text "DEPT", Value.isName_text "DEPT", ?_⟩
    exact Value.isName_text "NO"
  have hcolumns : employeeRows.filterMap TableRow.columnName? = ["NO", "DEPT"].map .text := rfl
  have hkeys : primaryName :: employeeRows.filterMap TableRow.keyName? =
      ["primary", "DEPT"].map .text := rfl
  have columns : FoldsApart .lower (employeeRows.filterMap TableRow.columnName?) := by
    rw [hcolumns]
    exact foldsApart_texts (by decide +kernel)
  have keys : FoldsApart .lower (primaryName :: employeeRows.filterMap TableRow.keyName?) := by
    rw [hkeys]
    exact foldsApart_texts (by decide +kernel)
  obtain ⟨hbuild, -⟩ := addRows_folded names columns keys (.text "EMP") (.bool false)
  exact ⟨_, rfl, hbuild⟩

end TableBuilder

end OracleCatalog
