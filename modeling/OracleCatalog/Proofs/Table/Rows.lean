import OracleCatalog.Proofs.Table.Merging

/-!
# Rows of keys that can be read

A row of the index query or of the foreign key query that has the fields of its query stands for a
key or an index of one column. Folding such rows never fails, and writes nothing into the journal:
every row is put behind the earlier rows of its name, constraints apart from indexes.
-/

namespace OracleCatalog

/-! ### Folded names -/

def CaseFolding.fold : CaseFolding → Value → Value
  | .lower, .text s => .text (Text.lower s)
  | _, v => v

theorem foldedName_eq (folding : CaseFolding) {name : Value} (h : name.IsName) :
    foldedName folding name = .ok (folding.fold name) := by
  rcases h.cases with rfl | ⟨s, rfl⟩ <;> cases folding <;> rfl

theorem CaseFolding.fold_isName (folding : CaseFolding) {name : Value} (h : name.IsName) :
    (folding.fold name).IsName :=
  foldedName_isName h (foldedName_eq folding h)

namespace Row

/-- A field that is there and holds a name. -/
def HasName (field : String) (row : Row) : Prop := ∃ v, row.field field = .ok v ∧ v.IsName

def nameAt (folding : CaseFolding) (field : String) (row : Row) : Value :=
  folding.fold (row.fieldOrNull field)

variable {row : Row} {field : String}

theorem HasName.field_eq (h : row.HasName field) :
    row.field field = .ok (row.fieldOrNull field) := by
  obtain ⟨v, hv, -⟩ := h
  rw [field_ok hv, hv]

theorem HasName.isName (h : row.HasName field) : (row.fieldOrNull field).IsName := by
  obtain ⟨v, hv, hname⟩ := h
  rw [field_ok hv]
  exact hname

theorem HasName.folded (h : row.HasName field) (folding : CaseFolding) :
    foldedName folding (row.fieldOrNull field) = .ok (row.nameAt folding field) :=
  foldedName_eq folding h.isName

theorem HasName.nameAt_isName (h : row.HasName field) (folding : CaseFolding) :
    (row.nameAt folding field).IsName :=
  folding.fold_isName h.isName

theorem folded_asIs {v : Value} (h : row.folded .asIs field = .ok v) :
    row.fieldOrNull field = v := by
  obtain ⟨raw, hraw, hv⟩ := Error.ok_of_bind h
  rw [field_ok hraw]
  exact Except.ok.inj hv

/-! ### What a row says -/

/-- Whether the constraint on an index is of the type with this letter. -/
def isFlagged (letter : String) (row : Row) : Bool :=
  match row.fieldOrNull "is_primary" with
  | .text s => Text.lower s == letter
  | _ => false

def isUniqueIndex (row : Row) : Bool :=
  match (row.fieldOrNull "is_unique").catalogInteger with
  | .ok (some 1) => true
  | _ => false

/-- The kind of the key or index that a row of the index query belongs to. -/
def keyKind (row : Row) : KeyKind :=
  if row.isFlagged "p" then .primary
  else if row.isFlagged "u" || row.isUniqueIndex then .unique
  else .index

def target (folding : CaseFolding) (row : Row) : Value :=
  folding.fold (.text ((row.fieldOrNull "referenced_owner").toText ++ "." ++
    (row.fieldOrNull "referenced_table_name").toText))

def deleteAction (row : Row) : ReferenceAction :=
  match TableBuilder.deleteAction (row.fieldOrNull "delete_rule") with
  | .ok action => action
  | .error _ => .setNull

theorem isText_of_flag {v : Value} (letter : String) (hne : letter ≠ "")
    (h : ((row.fieldOrNull "is_primary").orElse (.text "")).toLower = .ok v) :
    v.isText letter = row.isFlagged letter := by
  have hempty : (("" : String) == letter) = false := beq_eq_false_iff_ne.2 (Ne.symm hne)
  unfold isFlagged
  unfold Value.orElse at h
  generalize row.fieldOrNull "is_primary" = flag at h ⊢
  split at h
  · cases flag with
    | text s | bytes b =>
      obtain rfl := Except.ok.inj h
      rfl
    | _ => cases h
  · rename_i hfalse
    obtain rfl := Except.ok.inj h
    cases flag with
    | text s =>
      obtain rfl : s = "" := Decidable.not_not.1 fun hs => hfalse (bne_iff_ne.2 hs)
      rfl
    | _ => exact hempty

theorem keyKind_eq {kind : KeyKind} (h : TableBuilder.keyKindOfRow row = .ok kind) :
    row.keyKind = kind := by
  obtain ⟨letter, hletter, h⟩ := Error.ok_of_bind h
  have hp := isText_of_flag "p" (by decide) hletter
  have hu := isText_of_flag "u" (by decide) hletter
  rw [hp, hu] at h
  unfold keyKind
  split at h
  · rename_i hprimary
    rw [if_pos hprimary]
    exact Except.ok.inj h
  · rename_i hprimary
    rw [if_neg hprimary]
    split at h
    · rename_i hunique
      rw [hunique, Bool.true_or, if_pos rfl]
      exact Except.ok.inj h
    · rename_i hunique
      obtain ⟨unique, hread, h⟩ := Error.ok_of_bind h
      rw [Bool.eq_false_iff.2 hunique, Bool.false_or, ← Except.ok.inj h]
      unfold isUniqueIndex
      rw [hread]
      by_cases hone : unique = some 1
      · rw [hone]
        rfl
      · rw [if_neg hone]
        split
        · rename_i heq
          exact absurd (Except.ok.inj heq) hone
        · rfl

theorem keyKind_ne_foreign (row : Row) : row.keyKind ≠ .foreign := by
  unfold keyKind
  split
  · exact nofun
  · split <;> exact nofun

end Row

/-- A row that the index query can deliver: it names a key or an index and one of its columns, and
says of which kind it is. -/
structure Row.IsIndexRow (row : Row) : Prop where
  name : row.HasName "name"
  column : row.HasName "column_name"
  kind : ∃ kind, TableBuilder.keyKindOfRow row = .ok kind

structure Row.IsForeignKeyRow (row : Row) : Prop where
  name : row.HasName "constraint_name"
  column : row.HasName "column_name"
  owner : ∃ owner, row.field "referenced_owner" = .ok owner
  table : ∃ table, row.field "referenced_table_name" = .ok table
  referenced : row.HasName "referenced_column_name"
  action : ∃ action, TableBuilder.deleteAction (row.fieldOrNull "delete_rule") = .ok action

def TableRow.HasNames : TableRow → Prop
  | .column row => (row.fieldOrNull "name").IsName
  | .index row => (row.fieldOrNull "name").IsName ∧ (row.fieldOrNull "column_name").IsName
  | .foreignKey row =>
    (row.fieldOrNull "constraint_name").IsName ∧ (row.fieldOrNull "column_name").IsName ∧
      (row.fieldOrNull "referenced_column_name").IsName

/-- A row of the index query or of the foreign key query. -/
inductive KeyRow where
  | index (row : Row)
  | foreignKey (row : Row)

namespace KeyRow

def toTableRow : KeyRow → TableRow
  | .index row => .index row
  | .foreignKey row => .foreignKey row

def IsReadable : KeyRow → Prop
  | .index row => row.IsIndexRow
  | .foreignKey row => row.IsForeignKeyRow

def kind : KeyRow → KeyKind
  | .index row => row.keyKind
  | .foreignKey _ => .foreign

/-- The name under which a table keeps what the row belongs to. -/
def name (folding : CaseFolding) : KeyRow → Value
  | .index row =>
    if row.keyKind = .primary then TableBuilder.primaryName else row.nameAt folding "name"
  | .foreignKey row => row.nameAt folding "constraint_name"

def column (folding : CaseFolding) : KeyRow → Value
  | .index row | .foreignKey row => row.nameAt folding "column_name"

def referenced (folding : CaseFolding) : KeyRow → Value
  | .index row | .foreignKey row => row.nameAt folding "referenced_column_name"

/-- The key or index of one column that a row stands for. -/
def key (folding : CaseFolding) : KeyRow → Constraint
  | .index row =>
    { name := (index row).name folding
      kind := row.keyKind
      columns := [row.nameAt folding "column_name"] }
  | .foreignKey row =>
    { name := (foreignKey row).name folding
      kind := .foreign
      columns := [row.nameAt folding "column_name"]
      references := .to (row.target folding) [row.nameAt folding "referenced_column_name"]
      onDelete := some row.deleteAction
      onUpdate := some .setNull }

theorem IsReadable.hasNames {row : KeyRow} (h : row.IsReadable) : row.toTableRow.HasNames := by
  cases row with
  | index row => exact ⟨h.name.isName, h.column.isName⟩
  | foreignKey row => exact ⟨h.name.isName, h.column.isName, h.referenced.isName⟩

theorem IsReadable.name_isName {row : KeyRow} (h : row.IsReadable) (folding : CaseFolding) :
    (row.name folding).IsName := by
  cases row with
  | index row =>
    dsimp only [name]
    split
    · exact Value.isName_text _
    · exact h.name.nameAt_isName folding
  | foreignKey row => exact h.name.nameAt_isName folding

@[simp] theorem key_name (folding : CaseFolding) (row : KeyRow) :
    (row.key folding).name = row.name folding := by
  cases row <;> rfl

@[simp] theorem key_kind (folding : CaseFolding) (row : KeyRow) :
    (row.key folding).kind = row.kind := by
  cases row <;> rfl

@[simp] theorem key_columns (folding : CaseFolding) (row : KeyRow) :
    (row.key folding).columns = [row.column folding] := by
  cases row <;> rfl

end KeyRow

/-! ### Folding rows of keys -/

namespace Index

def columnsOf (earlier : Option Index) : List Value :=
  match earlier with
  | some index => index.columns
  | none => []

def onto (earlier : Option Index) (later : Constraint) : Index :=
  { name := later.name, columns := columnsOf earlier ++ later.columns }

def absorb (earlier : Option Index) (later : Constraint) : Option Index :=
  some (onto earlier later)

def into : OrderedMap Value Index → Constraint → OrderedMap Value Index :=
  OrderedMap.gather (·.name) onto

end Index

namespace TableBuilder

/-- Adds a key of one column, or an index of one column. -/
def addKey (builder : TableBuilder) (key : Constraint) : TableBuilder :=
  if key.kind = .index then { builder with indexes := Index.into builder.indexes key }
  else { builder with constraints := Constraint.into builder.constraints key }

variable {folding : CaseFolding}

theorem addConstraint_eq (builder : TableBuilder) (key : Constraint) (h : key.name.IsName) :
    builder.addConstraint key.name key =
      .ok { builder with constraints := Constraint.into builder.constraints key } := by
  unfold addConstraint
  rw [h.asKey]
  rfl

theorem addIndex_eq (builder : TableBuilder) (key : Constraint) (h : key.name.IsName) :
    builder.addIndex key.name key.columns =
      .ok { builder with indexes := Index.into builder.indexes key } := by
  unfold addIndex
  rw [h.asKey]
  rfl

theorem addIndexPart_eq (builder : TableBuilder) {part : IndexPart} (hname : part.name.IsName)
    (hkind : part.kind ≠ .foreign) :
    builder.addIndexPart part = .ok (builder.addKey part.constraint) := by
  have hconstraint := addConstraint_eq builder part.constraint hname
  have hindex := addIndex_eq builder part.constraint hname
  have hsame : part.constraint.kind = part.kind := rfl
  unfold addIndexPart addKey
  rw [hsame]
  cases hpart : part.kind with
  | primary | unique => exact hconstraint
  | foreign => exact absurd hpart hkind
  | index => exact hindex

theorem indexPartOfRow_ok {row : Row} {part : IndexPart}
    (h : indexPartOfRow folding row = .ok part) :
    part.kind = row.keyKind ∧
      (row.keyKind = .primary ∧ part.name = primaryName ∨
        row.keyKind ≠ .primary ∧ row.folded folding "name" = .ok part.name) := by
  obtain ⟨raw, hraw, h⟩ := Error.ok_of_bind h
  obtain ⟨name, hname, h⟩ := Error.ok_of_bind h
  obtain ⟨_, _, h⟩ := Error.ok_of_bind h
  obtain ⟨_, _, h⟩ := Error.ok_of_bind h
  obtain ⟨kind, hkind, h⟩ := Error.ok_of_bind h
  cases h
  have hfolded : row.folded folding "name" = .ok name := by
    rw [Row.folded, hraw]
    exact hname
  rw [Row.keyKind_eq hkind]
  refine ⟨rfl, ?_⟩
  by_cases hprimary : kind = .primary
  · exact .inl ⟨hprimary, if_pos hprimary⟩
  · exact .inr ⟨hprimary, hfolded.trans (congrArg Except.ok (if_neg hprimary).symm)⟩

theorem indexPartOfRow_eq {row : Row} (h : row.IsIndexRow) :
    indexPartOfRow folding row = .ok
      { kind := row.keyKind, name := (KeyRow.index row).name folding
        column := row.nameAt folding "column_name" } := by
  obtain ⟨kind, hkind⟩ := h.kind
  unfold indexPartOfRow
  rw [h.name.field_eq, Error.ok_bind, h.name.folded, Error.ok_bind, h.column.field_eq,
    Error.ok_bind, h.column.folded, Error.ok_bind, hkind, ← Row.keyKind_eq hkind]
  rfl

theorem foreignKeyOfRow_eq {row : Row} (h : row.IsForeignKeyRow) :
    foreignKeyOfRow folding row = .ok ((KeyRow.foreignKey row).key folding) := by
  obtain ⟨owner, howner⟩ := h.owner
  obtain ⟨table, htable⟩ := h.table
  obtain ⟨action, haction⟩ := h.action
  have htarget := foldedName_eq folding (Value.isName_text (owner.toText ++ "." ++ table.toText))
  have hrow : row.deleteAction = action := by
    unfold Row.deleteAction
    rw [haction]
  unfold foreignKeyOfRow
  rw [h.name.field_eq, Error.ok_bind, h.name.folded, Error.ok_bind, howner, Error.ok_bind, htable,
    Error.ok_bind, h.column.field_eq, Error.ok_bind, h.column.folded, Error.ok_bind, htarget,
    Error.ok_bind, h.referenced.field_eq, Error.ok_bind, h.referenced.folded, Error.ok_bind,
    haction, ← hrow, ← Row.field_ok howner, ← Row.field_ok htable]
  rfl

end TableBuilder

namespace KeyRow

variable {folding : CaseFolding} {row : KeyRow}

/-- What a row of a key stands for, if it can be read. -/
def read (folding : CaseFolding) : KeyRow → Except Error Constraint
  | .index row => (TableBuilder.indexPartOfRow folding row).map TableBuilder.IndexPart.constraint
  | .foreignKey row => TableBuilder.foreignKeyOfRow folding row

theorem addRow_read (builder : TableBuilder) (h : row.toTableRow.HasNames) :
    builder.addRow folding row.toTableRow =
      Noted.ofExcept ((row.read folding).map builder.addKey) := by
  cases row with
  | index row =>
    refine congrArg Noted.ofExcept ?_
    rw [TableBuilder.addIndexRow, read]
    cases hpart : TableBuilder.indexPartOfRow folding row with
    | error e => rfl
    | ok part =>
      have hname := TableBuilder.indexPartOfRow_isName h.1 hpart
      have hkind := (TableBuilder.indexPartOfRow_ok hpart).1
      exact TableBuilder.addIndexPart_eq builder hname (hkind ▸ row.keyKind_ne_foreign)
  | foreignKey row =>
    refine congrArg Noted.ofExcept ?_
    rw [TableBuilder.addForeignKeyRow, read]
    cases hkey : TableBuilder.foreignKeyOfRow folding row with
    | error e => rfl
    | ok key =>
      have hname := TableBuilder.foreignKeyOfRow_isName h.1 hkey
      have hkind : key.kind ≠ .index := by
        rw [(TableBuilder.foreignKeyOfRow_ok hkey).1]
        exact nofun
      rw [Error.ok_bind, TableBuilder.addConstraint_eq builder key hname]
      exact congrArg Except.ok (if_neg hkind).symm

theorem read_eq (h : row.IsReadable) : row.read folding = .ok (row.key folding) := by
  cases row with
  | index row =>
    rw [read, TableBuilder.indexPartOfRow_eq h]
    rfl
  | foreignKey row => exact TableBuilder.foreignKeyOfRow_eq h

end KeyRow

namespace TableBuilder

variable {folding : CaseFolding}

theorem addRow_key (builder : TableBuilder) {row : KeyRow} (h : row.IsReadable) :
    builder.addRow folding row.toTableRow = pure (builder.addKey (row.key folding)) := by
  rw [KeyRow.addRow_read builder h.hasNames, KeyRow.read_eq h]
  rfl

theorem addRows_keys (folding : CaseFolding) {rows : List KeyRow}
    (readable : ∀ row ∈ rows, row.IsReadable) (builder : TableBuilder) :
    builder.addRows folding (rows.map KeyRow.toTableRow) =
      pure ((rows.map (KeyRow.key folding)).foldl addKey builder) := by
  induction rows generalizing builder with
  | nil => rfl
  | cons row rest ih =>
    obtain ⟨hrow, hrest⟩ := List.forall_mem_cons.1 readable
    unfold addRows at ih ⊢
    rw [List.map_cons, List.foldlM_cons, addRow_key builder hrow, pure_bind, ih hrest,
      List.map_cons, List.foldl_cons]

theorem constraints_foldl_addKey (keys : List Constraint) (builder : TableBuilder) :
    (keys.foldl addKey builder).constraints =
      (keys.filter (·.kind != .index)).foldl Constraint.into builder.constraints := by
  induction keys generalizing builder with
  | nil => rfl
  | cons key rest ih =>
    rw [List.foldl_cons, ih, List.filter_cons]
    unfold addKey
    cases key.kind <;> rfl

theorem indexes_foldl_addKey (keys : List Constraint) (builder : TableBuilder) :
    (keys.foldl addKey builder).indexes =
      (keys.filter (·.kind == .index)).foldl Index.into builder.indexes := by
  induction keys generalizing builder with
  | nil => rfl
  | cons key rest ih =>
    rw [List.foldl_cons, ih, List.filter_cons]
    unfold addKey
    cases key.kind <;> rfl

end TableBuilder

end OracleCatalog
