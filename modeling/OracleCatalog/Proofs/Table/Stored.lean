import OracleCatalog.Proofs.Definition.Lookup
import OracleCatalog.Proofs.Row.Change
import OracleCatalog.Proofs.Table.Columns
import OracleCatalog.Proofs.Value.Keys

/-!
# What rows store

A row that can be folded writes one part of the table, a column, a key or an index, under the name
that the part itself has; a row that cannot be folded writes nothing. A table in the making is what
these writes come to, so that a built table has one part of each name, and a name finds the part
that was written last under it.
-/

namespace OracleCatalog

open OracleCatalog.OrderedMap (get? update values ofEntries)

/-- The column that a row of the column query stands for, if it can be read. -/
def Row.readColumn (folding : CaseFolding) (row : Row) : Except Error Column := do
  let type ← row.catalogType
  let name ← row.field "name"
  let position ← (row.fieldOrNull "ordinal_position").catalogInteger
  return TableBuilder.columnOfRow row (← foldedName folding name) type position

namespace TableBuilder

/-! ### Writes -/

/-- A part of a table, written under a key. -/
inductive Write where
  | column (key : Value) (column : Column)
  | constraint (key : Value) (constraint : Constraint)
  | index (key : Value) (index : Index)

namespace Write

def into (builder : TableBuilder) : Write → TableBuilder
  | .column key part => { builder with columns := builder.columns.put key part }
  | .constraint key part => { builder with constraints := builder.constraints.put key part }
  | .index key part => { builder with indexes := builder.indexes.put key part }

def column? : Write → Option (Value × Column)
  | .column key part => some (key, part)
  | _ => none

def constraint? : Write → Option (Value × Constraint)
  | .constraint key part => some (key, part)
  | _ => none

def index? : Write → Option (Value × Index)
  | .index key part => some (key, part)
  | _ => none

/-- The key is the name that the part has itself, and can be a key of a map. -/
structure IsNamed (write : Write) : Prop where
  column : ∀ entry, write.column? = some entry → entry.1.IsKey ∧ entry.2.name = entry.1
  constraint : ∀ entry, write.constraint? = some entry → entry.1.IsKey ∧ entry.2.name = entry.1
  index : ∀ entry, write.index? = some entry → entry.1.IsKey ∧ entry.2.name = entry.1

/-- What writes come to in a map into which each of them puts at most one entry. -/
theorem foldl_into_eq {α : Type} {map : TableBuilder → OrderedMap Value α}
    {written? : Write → Option (Value × α)}
    (hstep : ∀ builder write,
      map (into builder write) = update (map builder) (written? write).toList)
    (writes : List Write) (builder : TableBuilder) :
    map (writes.foldl into builder) = update (map builder) (writes.filterMap written?) := by
  induction writes generalizing builder with
  | nil => rfl
  | cons write rest ih =>
    rw [List.foldl_cons, ih, hstep, List.filterMap_cons]
    cases written? write <;> rfl

theorem columns_foldl_into (writes : List Write) (builder : TableBuilder) :
    (writes.foldl into builder).columns = update builder.columns (writes.filterMap column?) :=
  foldl_into_eq (fun _ write => by cases write <;> rfl) writes builder

theorem constraints_foldl_into (writes : List Write) (builder : TableBuilder) :
    (writes.foldl into builder).constraints =
      update builder.constraints (writes.filterMap constraint?) :=
  foldl_into_eq (fun _ write => by cases write <;> rfl) writes builder

theorem indexes_foldl_into (writes : List Write) (builder : TableBuilder) :
    (writes.foldl into builder).indexes = update builder.indexes (writes.filterMap index?) :=
  foldl_into_eq (fun _ write => by cases write <;> rfl) writes builder

end Write

/-! ### What one row writes -/

def writeColumn (part : Column) : Except Error Write :=
  part.name.asKey.map fun key => .column key part

/-- A key or an index of one column goes behind what is stored under its name. -/
def writeKey (builder : TableBuilder) (part : Constraint) : Except Error Write :=
  part.name.asKey.map fun key =>
    if part.kind = .index then .index key (Index.onto (get? key builder.indexes) part)
    else .constraint key (part.onto (get? key builder.constraints))

/-- What a row writes into the builder, if it can be folded. -/
def writeOf (folding : CaseFolding) (builder : TableBuilder) : TableRow → Except Error Write
  | .column row => do writeColumn (← row.readColumn folding)
  | .index row => do builder.writeKey (← indexPartOfRow folding row).constraint
  | .foreignKey row => do builder.writeKey (← foreignKeyOfRow folding row)

variable {folding : CaseFolding} {builder : TableBuilder}

theorem writeColumn_isNamed {part : Column} {write : Write} (h : writeColumn part = .ok write) :
    write.IsNamed := by
  obtain ⟨key, hkey, rfl⟩ := Error.ok_of_map h
  obtain ⟨rfl, hname⟩ := Value.key_of_asKey hkey
  exact ⟨fun _ hentry => Option.some.inj hentry ▸ ⟨hname, rfl⟩, nofun, nofun⟩

theorem writeKey_isNamed {part : Constraint} {write : Write}
    (h : builder.writeKey part = .ok write) : write.IsNamed := by
  obtain ⟨key, hkey, rfl⟩ := Error.ok_of_map h
  obtain ⟨rfl, hname⟩ := Value.key_of_asKey hkey
  split
  · exact ⟨nofun, nofun, fun _ hentry => Option.some.inj hentry ▸ ⟨hname, rfl⟩⟩
  · exact ⟨nofun, fun _ hentry => Option.some.inj hentry ▸ ⟨hname, Constraint.onto_name _ _⟩, nofun⟩

/-- Whatever a row writes is written under its own name. -/
theorem writeOf_isNamed {row : TableRow} {write : Write}
    (h : builder.writeOf folding row = .ok write) : write.IsNamed := by
  cases row with
  | column row =>
    obtain ⟨part, _, h⟩ := Error.ok_of_bind h
    exact writeColumn_isNamed h
  | index row =>
    obtain ⟨part, _, h⟩ := Error.ok_of_bind h
    exact writeKey_isNamed h
  | foreignKey row =>
    obtain ⟨part, _, h⟩ := Error.ok_of_bind h
    exact writeKey_isNamed h

theorem addColumn_write (part : Column) :
    builder.addColumn part = (writeColumn part).map (Write.into builder) := by
  unfold addColumn writeColumn
  cases part.name.asKey <;> rfl

theorem addConstraint_write (part : Constraint) (hkind : part.kind ≠ .index) :
    builder.addConstraint part.name part = (builder.writeKey part).map (Write.into builder) := by
  unfold addConstraint writeKey
  cases part.name.asKey with
  | error e => rfl
  | ok key =>
    rw [Except.map, Except.map, Except.map, if_neg hkind]
    rfl

theorem addIndex_write (part : Constraint) (hkind : part.kind = .index) :
    builder.addIndex part.name part.columns = (builder.writeKey part).map (Write.into builder) := by
  unfold addIndex writeKey
  cases hkey : part.name.asKey with
  | error e => rfl
  | ok key =>
    obtain ⟨rfl, -⟩ := Value.key_of_asKey hkey
    rw [Except.map, Except.map, Except.map, if_pos hkind]
    rfl

theorem addIndexPart_write {part : IndexPart} (hkind : part.kind ≠ .foreign) :
    builder.addIndexPart part =
      (builder.writeKey part.constraint).map (Write.into builder) := by
  have hconstraint (h : part.kind ≠ .index) :
      builder.addConstraint part.name part.constraint =
        (builder.writeKey part.constraint).map (Write.into builder) :=
    addConstraint_write part.constraint h
  have hindex (h : part.kind = .index) :
      builder.addIndex part.name [part.column] =
        (builder.writeKey part.constraint).map (Write.into builder) :=
    addIndex_write part.constraint h
  unfold addIndexPart
  cases hpart : part.kind with
  | primary => exact hconstraint (hpart ▸ nofun)
  | unique => exact hconstraint (hpart ▸ nofun)
  | foreign => exact absurd hpart hkind
  | index => exact hindex hpart

theorem addIndexRow_write (row : Row) : builder.addIndexRow folding row =
    (builder.writeOf folding (.index row)).map (Write.into builder) := by
  unfold addIndexRow writeOf
  dsimp only
  cases hpart : indexPartOfRow folding row with
  | error e => rfl
  | ok part =>
    have hkind := (indexPartOfRow_ok hpart).1
    exact addIndexPart_write (hkind ▸ row.keyKind_ne_foreign)

theorem addForeignKeyRow_write (row : Row) : builder.addForeignKeyRow folding row =
    (builder.writeOf folding (.foreignKey row)).map (Write.into builder) := by
  unfold addForeignKeyRow writeOf
  dsimp only
  cases hkey : foreignKeyOfRow folding row with
  | error e => rfl
  | ok key =>
    have hkind := (foreignKeyOfRow_ok hkey).1
    exact addConstraint_write key (hkind ▸ nofun)

theorem result_noteUnknownType {α : Type} (type : CatalogType) (owner name : Value)
    (outcome : Except Error α) (before : List Record) :
    ((noteUnknownType type owner name >>= fun _ => Noted.ofExcept outcome).run.run before).1 =
      outcome := by
  cases type <;> rfl

theorem addColumnRow_write (row : Row) (before : List Record) :
    ((builder.addColumnRow folding row).run.run before).1 =
      (builder.writeOf folding (.column row)).map (Write.into builder) := by
  have hrow : builder.addColumnRow folding row =
      Noted.ofExcept row.catalogType >>= fun type => Noted.ofExcept (row.field "name") >>=
        fun name => noteUnknownType type (row.fieldOrNull "table") name >>= fun _ =>
          Noted.ofExcept ((row.fieldOrNull "ordinal_position").catalogInteger >>= fun position =>
            foldedName folding name >>= fun name =>
              builder.addColumn (columnOfRow row name type position)) := rfl
  rw [hrow]
  unfold writeOf Row.readColumn
  dsimp only
  cases row.catalogType with
  | error e => rfl
  | ok type =>
    cases row.field "name" with
    | error e => rfl
    | ok name =>
      rw [Noted.ok_bind, Noted.ok_bind, result_noteUnknownType, Error.ok_bind, Error.ok_bind]
      cases (row.fieldOrNull "ordinal_position").catalogInteger with
      | error e => rfl
      | ok position =>
        cases foldedName folding name with
        | error e => rfl
        | ok folded => exact addColumn_write (columnOfRow row folded type position)

/-- A row makes of the builder what its write makes of it. -/
theorem addRow_write (row : TableRow) (before : List Record) :
    ((builder.addRow folding row).run.run before).1 =
      (builder.writeOf folding row).map (Write.into builder) := by
  cases row with
  | column row => exact addColumnRow_write row before
  | index row => exact addIndexRow_write row
  | foreignKey row => exact addForeignKeyRow_write row

/-! ### What rows write one after the other -/

/-- The writes of the rows that can be folded; a row that cannot be folded leaves the builder to the
next one as it was. -/
def writes (folding : CaseFolding) (builder : TableBuilder) : List TableRow → List Write
  | [] => []
  | row :: rows =>
    match builder.writeOf folding row with
    | .ok write => write :: writes folding (write.into builder) rows
    | .error _ => writes folding builder rows

theorem writes_of_ok {row : TableRow} {write : Write} (rows : List TableRow)
    (h : builder.writeOf folding row = .ok write) :
    builder.writes folding (row :: rows) = write :: (write.into builder).writes folding rows := by
  rw [writes, h]

theorem writes_of_error {row : TableRow} {e : Error} (rows : List TableRow)
    (h : builder.writeOf folding row = .error e) :
    builder.writes folding (row :: rows) = builder.writes folding rows := by
  rw [writes, h]

theorem writes_isNamed (rows : List TableRow) (builder : TableBuilder) :
    ∀ write ∈ builder.writes folding rows, write.IsNamed := by
  induction rows generalizing builder with
  | nil => exact nofun
  | cons row rest ih =>
    cases hwrite : builder.writeOf folding row with
    | ok write =>
      rw [writes_of_ok rest hwrite]
      exact List.forall_mem_cons.2 ⟨writeOf_isNamed hwrite, ih _⟩
    | error e =>
      rw [writes_of_error rest hwrite]
      exact ih builder

/-- Rows that are all folded come to their writes. -/
theorem addRows_writes {rows : List TableRow} {after : TableBuilder} {before written : List Record}
    (h : (builder.addRows folding rows).Gives before after written) :
    after = (builder.writes folding rows).foldl Write.into builder := by
  induction rows generalizing builder before with
  | nil => exact (Noted.gives_pure h).symm
  | cons row rest ih =>
    obtain ⟨next, _, hrow, hrest⟩ := Noted.gives_bind h
    have hstep : Except.ok next = (builder.writeOf folding row).map (Write.into builder) :=
      (congrArg Prod.fst hrow).symm.trans (addRow_write row before)
    obtain ⟨write, hwrite, rfl⟩ := Error.ok_of_map hstep.symm
    rw [writes_of_ok rest hwrite, List.foldl_cons]
    exact ih hrest

/-- Stores what a row says. -/
def storeRow (folding : CaseFolding) : TableRow → Action TableBuilder Unit
  | .column row => storeColumnRow folding row
  | .index row => storeIndexRow folding row
  | .foreignKey row => storeForeignKeyRow folding row

theorem storeRow_replaces (row : TableRow) :
    (storeRow folding row).Replaces fun builder => builder.addRow folding row := by
  cases row with
  | column row => exact storeColumnRow_replaces folding row
  | index row => exact storeIndexRow_replaces folding row
  | foreignKey row => exact storeForeignKeyRow_replaces folding row

theorem answerOr_addRow (row : TableRow) :
    (builder.addRow folding row).answerOr builder =
      match builder.writeOf folding row with
      | .ok write => write.into builder
      | .error _ => builder := by
  have hstep : (builder.addRow folding row).outcome.1 =
      (builder.writeOf folding row).map (Write.into builder) := addRow_write row []
  unfold Noted.answerOr
  rw [hstep]
  cases builder.writeOf folding row <;> rfl

/-- Rows stored one after the other, whether they can be folded or not, come to their writes. -/
theorem ending_storeRow (rows : List TableRow) (builder : TableBuilder) (env : Environment) :
    (Action.ending (rows.map (storeRow folding)) builder env).1 =
      (builder.writes folding rows).foldl Write.into builder := by
  rw [Action.ending_of_replaces storeRow_replaces]
  induction rows generalizing builder with
  | nil => rfl
  | cons row rest ih =>
    rw [List.foldl_cons, ih, answerOr_addRow]
    cases hwrite : builder.writeOf folding row with
    | ok write =>
      rw [writes_of_ok rest hwrite]
      rfl
    | error e => rw [writes_of_error rest hwrite]

/-! ### Parts that are found -/

theorem build_lastKept {writes : List Write} (named : ∀ write ∈ writes, write.IsNamed)
    (name temporary : Value) :
    let table := (writes.foldl Write.into { name, temporary }).build
    LastKept Column.name table.column? (writes.filterMap Write.column?) table.columns ∧
      LastKept Constraint.name table.constraint? (writes.filterMap Write.constraint?)
        table.constraints ∧
      LastKept Index.name table.index? (writes.filterMap Write.index?) table.indexes := by
  intro table
  have hcolumns : table.columns = values (ofEntries (writes.filterMap Write.column?)) :=
    congrArg values (Write.columns_foldl_into writes { name, temporary })
  have hconstraints : table.constraints = values (ofEntries (writes.filterMap Write.constraint?)) :=
    congrArg values (Write.constraints_foldl_into writes { name, temporary })
  have hindexes : table.indexes = values (ofEntries (writes.filterMap Write.index?)) :=
    congrArg values (Write.indexes_foldl_into writes { name, temporary })
  refine ⟨?_, ?_, ?_⟩
  · unfold Table.column?
    rw [hcolumns]
    exact lastKept_of_names
      (List.forall_mem_filterMap.2 fun write hwrite => (named write hwrite).column)
  · unfold Table.constraint?
    rw [hconstraints]
    exact lastKept_of_names
      (List.forall_mem_filterMap.2 fun write hwrite => (named write hwrite).constraint)
  · unfold Table.index?
    rw [hindexes]
    exact lastKept_of_names
      (List.forall_mem_filterMap.2 fun write hwrite => (named write hwrite).index)

/-- Rows of the three queries, stored one after the other whether each of them can be folded or not,
come to writes of parts under their own names, as they do where they are folded all at once. In the
table that is built, no two parts of a kind have the same name, a name finds the part that was
written last under it and nothing where none was, and definitions are those of the very parts whose
names they are asked for by. -/
theorem parts_found_as_written (folding : CaseFolding) (name temporary : Value)
    (rows : List TableRow) (env : Environment) :
    let start : TableBuilder := { name, temporary }
    let after := (Action.ending (rows.map (storeRow folding)) start env).1
    let writes := start.writes folding rows
    let table := after.build
    (after = writes.foldl Write.into start ∧ ∀ write ∈ writes, write.IsNamed) ∧
      (∀ built, (start.addRows folding rows).outcome.1 = .ok built → built = after) ∧
      LastKept Column.name table.column? (writes.filterMap Write.column?) table.columns ∧
      LastKept Constraint.name table.constraint? (writes.filterMap Write.constraint?)
        table.constraints ∧
      LastKept Index.name table.index? (writes.filterMap Write.index?) table.indexes ∧
      ∀ dialect, Definition.DefinesOwn dialect table := by
  intro start after writes table
  have hafter : after = writes.foldl Write.into start := ending_storeRow rows start env
  have hnamed : ∀ write ∈ writes, write.IsNamed := writes_isNamed rows start
  have htable : table = (writes.foldl Write.into start).build := congrArg build hafter
  obtain ⟨hcolumns, hconstraints, hindexes⟩ := build_lastKept hnamed name temporary
  rw [← htable] at hcolumns hconstraints hindexes
  have hfinds : table.FindsOwn := ⟨hcolumns.own, hconstraints.own, hindexes.own⟩
  refine ⟨⟨hafter, hnamed⟩, fun built hbuilt => ?_, hcolumns, hconstraints, hindexes, fun dialect =>
    Definition.definesOwn_of_findsOwn hfinds dialect⟩
  obtain ⟨_, hgives⟩ := Noted.gives_of_outcome hbuilt
  rw [hafter]
  exact addRows_writes hgives

end TableBuilder

end OracleCatalog
