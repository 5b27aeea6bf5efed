import OracleCatalog.Proofs.Table.Rows

/-!
# Columns of the rows

A row of the column query puts one column into the table, under its folded name. Rows of keys leave
the columns alone, and so do rows of other columns: what a table has under the name of a column is
what the last row of that name says.
-/

namespace OracleCatalog

open OracleCatalog.OrderedMap (KeysIn NamedBy get?)

namespace Row

/-- The type that a row of the column query gives. -/
def catalogType (row : Row) : Except Error CatalogType := do
  CatalogType.ofFields (← row.field "type") (row.fieldOrNull "char_length")
    (row.fieldOrNull "data_precision") (row.fieldOrNull "data_scale") false

end Row

namespace TableBuilder

variable {folding : CaseFolding} {builder after : TableBuilder} {before written : List Record}

/-- Every column is kept under its own name. -/
structure ColumnsNamed (builder : TableBuilder) : Prop where
  keys : KeysIn Value.IsName builder.columns
  named : NamedBy (·.name) builder.columns

theorem columnsNamed_empty (name temporary : Value) :
    ColumnsNamed { name, temporary } := ⟨OrderedMap.keysIn_nil, OrderedMap.namedBy_nil⟩

theorem ColumnsNamed.column?_build (h : builder.ColumnsNamed) {name : Value} (hname : name.IsName) :
    builder.build.column? name = get? name builder.columns :=
  h.named.find?_values Value.lawfulOn_isName h.keys hname

/-! ### One row -/

theorem addColumnRow_gives {row : Row} (hname : (row.fieldOrNull "name").IsName)
    (h : (builder.addColumnRow folding row).Gives before after written) :
    ∃ type position, row.catalogType = .ok type ∧
      (row.fieldOrNull "ordinal_position").catalogInteger = .ok position ∧
      after = { builder with
        columns := builder.columns.put (row.nameAt folding "name")
          (columnOfRow row (row.nameAt folding "name") type position) } := by
  obtain ⟨type, _, htype, h⟩ := Noted.gives_bind h
  obtain ⟨name, _, hfield, h⟩ := Noted.gives_bind h
  have hraw := Row.field_ok (Noted.gives_ofExcept hfield)
  obtain ⟨_, _, _, h⟩ := Noted.gives_bind h
  obtain ⟨position, hposition, h⟩ := Error.ok_of_bind (Noted.gives_ofExcept h)
  rw [← hraw, foldedName_eq folding hname, Error.ok_bind] at h
  obtain ⟨key, hkey, rfl⟩ := Error.ok_of_map h
  have hfolded : (row.nameAt folding "name").asKey = .ok (row.nameAt folding "name") :=
    (folding.fold_isName hname).asKey
  obtain rfl := Except.ok.inj (hkey.symm.trans hfolded)
  exact ⟨type, position, Noted.gives_ofExcept htype, hposition, rfl⟩

theorem columns_addKeyRow (row : KeyRow) (hnames : row.toTableRow.HasNames)
    (h : (builder.addRow folding row.toTableRow).Gives before after written) :
    after.columns = builder.columns := by
  rw [KeyRow.addRow_read builder hnames] at h
  obtain ⟨key, -, rfl⟩ := Error.ok_of_map (Noted.gives_ofExcept h)
  unfold addKey
  split <;> rfl

/-- What a row does to the columns. -/
theorem columns_addRow {row : TableRow} (hnames : row.HasNames)
    (h : (builder.addRow folding row).Gives before after written) :
    after.columns = builder.columns ∨
      ∃ columnRow type position, row = .column columnRow ∧ after.columns =
        builder.columns.put (columnRow.nameAt folding "name")
          (columnOfRow columnRow (columnRow.nameAt folding "name") type position) := by
  cases row with
  | column row =>
    obtain ⟨type, position, -, -, rfl⟩ := addColumnRow_gives hnames h
    exact .inr ⟨row, type, position, rfl, rfl⟩
  | index row => exact .inl (columns_addKeyRow (.index row) hnames h)
  | foreignKey row => exact .inl (columns_addKeyRow (.foreignKey row) hnames h)

/-! ### All rows -/

theorem ColumnsNamed.addRow {row : TableRow} (named : builder.ColumnsNamed) (hnames : row.HasNames)
    (h : (builder.addRow folding row).Gives before after written) : after.ColumnsNamed := by
  rcases columns_addRow hnames h with hsame | ⟨columnRow, type, position, rfl, hput⟩
  · exact ⟨hsame ▸ named.keys, hsame ▸ named.named⟩
  · have hname := folding.fold_isName hnames
    refine ⟨?_, ?_⟩
    · rw [hput]
      exact OrderedMap.keysIn_put named.keys hname _
    · rw [hput]
      exact named.named.put Value.lawfulOn_isName named.keys hname rfl

theorem ColumnsNamed.addRows {rows : List TableRow} (named : builder.ColumnsNamed)
    (names : ∀ row ∈ rows, row.HasNames)
    (h : (builder.addRows folding rows).Gives before after written) : after.ColumnsNamed := by
  induction rows generalizing builder before with
  | nil => exact Noted.gives_pure h ▸ named
  | cons row rest ih =>
    obtain ⟨hnames, hrest⟩ := List.forall_mem_cons.1 names
    obtain ⟨middle, _, hrow, hrows⟩ := Noted.gives_bind h
    exact ih (named.addRow hnames hrow) hrest hrows

/-- Rows of other names leave a column as it is. -/
theorem get?_columns_addRows {rows : List TableRow} {name : Value} (hname : name.IsName)
    (named : builder.ColumnsNamed) (names : ∀ row ∈ rows, row.HasNames)
    (others : ∀ row : Row, .column row ∈ rows → row.nameAt folding "name" ≠ name)
    (h : (builder.addRows folding rows).Gives before after written) :
    get? name after.columns = get? name builder.columns := by
  induction rows generalizing builder before with
  | nil => rw [← Noted.gives_pure h]
  | cons row rest ih =>
    obtain ⟨hnames, hrest⟩ := List.forall_mem_cons.1 names
    obtain ⟨middle, _, hrow, hrows⟩ := Noted.gives_bind h
    rw [ih (named.addRow hnames hrow) hrest
      (fun other hother => others other (List.mem_cons_of_mem _ hother)) hrows]
    rcases columns_addRow hnames hrow with hsame | ⟨columnRow, type, position, rfl, hput⟩
    · rw [hsame]
    · have hfolded : (columnRow.nameAt folding "name").IsName := folding.fold_isName hnames
      have hne := Value.lawfulOn_isName.beq_eq_false hname hfolded
        (others columnRow List.mem_cons_self).symm
      rw [hput, OrderedMap.get?_put Value.lawfulOn_isName named.keys hfolded hname, hne]
      rfl

/-- A table has under the name of a column what the last row of that name says. -/
theorem column?_of_row {front back : List TableRow} {row : Row} (named : builder.ColumnsNamed)
    (names : ∀ r ∈ front ++ .column row :: back, r.HasNames)
    (last : ∀ other : Row, .column other ∈ back →
      other.nameAt folding "name" ≠ row.nameAt folding "name")
    (h : (builder.addRows folding (front ++ .column row :: back)).Gives before after written) :
    ∃ type position, row.catalogType = .ok type ∧
      after.build.column? (row.nameAt folding "name") =
        some (columnOfRow row (row.nameAt folding "name") type position) := by
  have hafter := named.addRows names h
  obtain ⟨frontNames, hnames, backNames⟩ :=
    (List.forall_mem_append.1 names).imp_right List.forall_mem_cons.1
  have hfolded : (row.nameAt folding "name").IsName := folding.fold_isName hnames
  unfold addRows at h
  rw [List.foldlM_append] at h
  obtain ⟨first, _, hfront, h⟩ := Noted.gives_bind h
  have hfirst := named.addRows frontNames hfront
  obtain ⟨second, _, hrow, hback⟩ := Noted.gives_bind h
  have hsecond := hfirst.addRow hnames hrow
  obtain ⟨type, position, htype, -, rfl⟩ := addColumnRow_gives hnames hrow
  refine ⟨type, position, htype, ?_⟩
  rw [hafter.column?_build hfolded, get?_columns_addRows hfolded hsecond backNames last hback,
    OrderedMap.get?_put Value.lawfulOn_isName hfirst.keys hfolded hfolded,
    Value.lawfulOn_isName.beq_self hfolded]
  rfl

end TableBuilder

end OracleCatalog
