import OracleCatalog.Definition.Column
import OracleCatalog.Proofs.Name
import OracleCatalog.Proofs.Success

/-!
# Tables that can be defined

A table is described by texts for its names and by integers for the sizes of its types. The names
of such a table can always be written into a statement, and where no two parts have one name, a part
is what is found under its name.
-/

namespace OracleCatalog

/-! ### Typed descriptions -/

/-- Whether an integer has no more digits than an integer is written with. -/
def Value.IsWritable (i : Int) : Prop := i.natAbs < Nat.pow 10 Text.digitLimit

/-- A size of a type: missing, or an integer. -/
def Value.IsSize (v : Value) : Prop := v = .null ∨ ∃ i, v = .int i ∧ Value.IsWritable i

structure TypeSize.IsTyped (size : TypeSize) : Prop where
  length : size.length.IsSize
  precision : size.precision.IsSize
  scale : size.scale.IsSize

structure Column.IsTyped (column : Column) : Prop where
  name : column.name.IsText
  size : (Definition.sizeOf column).IsTyped
  default : column.default.isSignaling = false

structure Constraint.IsTyped (constraint : Constraint) : Prop where
  name : constraint.name.IsText
  columns : ∀ v ∈ constraint.columns, v.IsText
  references : ∀ target columns, constraint.references = .to target columns →
    target.IsText ∧ ∀ v ∈ columns, v.IsText

structure Index.IsTyped (index : Index) : Prop where
  name : index.name.IsText
  columns : ∀ v ∈ index.columns, v.IsText

structure Table.IsTyped (table : Table) : Prop where
  name : table.name.IsText
  columns : ∀ column ∈ table.columns, column.IsTyped
  constraints : ∀ constraint ∈ table.constraints, constraint.IsTyped
  indexes : ∀ index ∈ table.indexes, index.IsTyped

/-! ### Written names -/

/-- The text of a name in a statement. -/
def Dialect.written (dialect : Dialect) (name : Value) : String :=
  Identifier.quote dialect.settings.quotes name.toText

section Written

variable (dialect : Dialect)

theorem Dialect.quote_eq {name : Value} (h : name.IsText) :
    dialect.quote name = .ok (.text (dialect.written name)) := by
  obtain ⟨s, rfl⟩ := h
  unfold Dialect.quote Dialect.written Identifier.quoteValue
  cases hquotes : dialect.settings.quotes with
  | true => rfl
  | false => simp [Identifier.quote]

theorem Dialect.quoted_eq {name : Value} (h : name.IsText) :
    dialect.quoted name = .ok (dialect.written name) := by
  unfold Dialect.quoted
  rw [dialect.quote_eq h]
  rfl

theorem Dialect.quotedText_eq {name : Value} (h : name.IsText) :
    dialect.quotedText name = .ok (dialect.written name) := by
  unfold Dialect.quotedText
  rw [dialect.quote_eq h]
  rfl

theorem Dialect.quotedList_eq {names : List Value} (h : ∀ name ∈ names, name.IsText) :
    dialect.quotedList names = .ok (Text.join ", " (names.map dialect.written)) := by
  have hquote : names.mapM dialect.quote =
      .ok (names.map fun name => .text (dialect.written name)) :=
    Error.mapM_eq_map fun name hname => dialect.quote_eq (h name hname)
  have hjoin : (names.map fun name => Value.text (dialect.written name)).mapM Value.joinable =
      .ok (names.map dialect.written) := by
    rw [List.mapM_map]
    exact Error.mapM_eq_map fun _ _ => rfl
  unfold Dialect.quotedList Value.joinTexts
  rw [hquote, Error.ok_bind, hjoin]
  rfl

end Written

/-! ### Lookups -/

/-- Where no two things have one name, a thing is the first of its name. -/
theorem Value.find?_name {α : Type} {name : α → Value} {xs : List α}
    (texts : ∀ x ∈ xs, (name x).IsText) (distinct : (xs.map name).Nodup) {x : α} (hx : x ∈ xs) :
    xs.find? (fun y => name y == name x) = some x := by
  induction xs with
  | nil => cases hx
  | cons y ys ih =>
    have hy := texts y List.mem_cons_self
    have hrest : ∀ z ∈ ys, (name z).IsText := fun z hz => texts z (List.mem_cons_of_mem _ hz)
    obtain ⟨hnot, hdistinct⟩ := List.nodup_cons.1 distinct
    rcases List.mem_cons.1 hx with rfl | hmem
    · exact List.find?_cons_of_pos (Value.lawfulOn_isText.beq_self hy)
    · have hne : name y ≠ name x := fun heq => hnot (heq ▸ List.mem_map_of_mem hmem)
      have hbeq := Value.lawfulOn_isText.beq_eq_false hy (texts x hx) hne
      rw [List.find?_cons, hbeq]
      exact ih hrest hdistinct hmem

theorem Value.exists_find?_name {α : Type} {name : α → Value} {xs : List α} {x : α} (hx : x ∈ xs)
    (hname : (name x).IsText) : ∃ y ∈ xs, xs.find? (fun y => name y == name x) = some y := by
  have hself : (name x == name x) = true := Value.lawfulOn_isText.beq_self hname
  cases hfind : xs.find? (fun y => name y == name x) with
  | none => exact absurd hself (List.find?_eq_none.1 hfind x hx)
  | some y => exact ⟨y, List.mem_of_find?_eq_some hfind, rfl⟩

namespace Table

variable {table : Table}

theorem column?_name (typed : table.IsTyped) (distinct : table.columnNames.Nodup) {column : Column}
    (h : column ∈ table.columns) : table.column? column.name = some column :=
  Value.find?_name (fun c hc => (typed.columns c hc).name) distinct h

theorem constraint?_name (typed : table.IsTyped)
    (distinct : (table.constraints.map (·.name)).Nodup) {constraint : Constraint}
    (h : constraint ∈ table.constraints) : table.constraint? constraint.name = some constraint :=
  Value.find?_name (fun c hc => (typed.constraints c hc).name) distinct h

theorem index?_name (typed : table.IsTyped) (distinct : (table.indexes.map (·.name)).Nodup)
    {index : Index} (h : index ∈ table.indexes) : table.index? index.name = some index :=
  Value.find?_name (fun i hi => (typed.indexes i hi).name) distinct h

end Table

end OracleCatalog
