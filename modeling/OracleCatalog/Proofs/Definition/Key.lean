import OracleCatalog.Definition.Key
import OracleCatalog.Proofs.Definition.Typed

/-!
# The definitions of keys and indexes

The definition of a key, of an index or of a foreign key of a typed table can always be written,
with one exception: a foreign key that refers to nothing.
-/

namespace OracleCatalog

/-- Whether a constraint can be defined: a foreign key has to refer to something. -/
def Constraint.IsDefinable (key : Constraint) : Prop :=
  key.kind = .foreign → ∃ target columns, key.references = .to target columns

namespace Definition

open OracleCatalog.Text

/-! ### Texts -/

def columnList (dialect : Dialect) (columns : List Value) : String :=
  join ", " (columns.map dialect.written)

/-- What introduces a key. -/
def keyHead (dialect : Dialect) (key : Constraint) : String :=
  match key.kind with
  | .primary => "PRIMARY KEY"
  | .unique => "CONSTRAINT " ++ dialect.written key.name ++ " UNIQUE"
  | _ => "CONSTRAINT " ++ dialect.written key.name

def keyText (dialect : Dialect) (key : Constraint) : String :=
  match key.kind, key.references with
  | .foreign, .to target referenced =>
    keyHead dialect key ++ " FOREIGN KEY (" ++ columnList dialect key.columns ++ ") REFERENCES " ++
      dialect.written target ++ " (" ++ columnList dialect referenced ++ ")" ++
      deleteClause key.onDelete ++ " DEFERRABLE INITIALLY IMMEDIATE"
  | _, _ => keyHead dialect key ++ " (" ++ columnList dialect key.columns ++ ")"

def indexText (dialect : Dialect) (table : Table) (name : Value) (columns : List Value) : String :=
  "CREATE INDEX " ++ dialect.written name ++ " ON " ++ dialect.written table.name ++ " (" ++
    columnList dialect columns ++ ")"

/-! ### Keys -/

variable {dialect : Dialect} {table : Table} {key : Constraint}

theorem keyBody_eq (dialect : Dialect) (typed : key.IsTyped) (definable : key.IsDefinable) :
    keyBody dialect (keyHead dialect key) key = .ok (keyText dialect key) := by
  have hcolumns := dialect.quotedList_eq typed.columns
  unfold keyBody keyText
  rw [hcolumns, Error.ok_bind]
  cases hkind : key.kind with
  | foreign =>
    obtain ⟨target, referenced, hreferences⟩ := definable hkind
    obtain ⟨htarget, hreferenced⟩ := typed.references target referenced hreferences
    rw [hreferences]
    dsimp only
    rw [dialect.quotedList_eq hreferenced, Error.ok_bind, dialect.quoted_eq htarget]
    rfl
  | primary | unique | index => rfl

theorem constraint_eq (found : table.constraint? key.name = some key) (typed : key.IsTyped)
    (definable : key.IsDefinable) :
    constraint dialect table key.name = .ok (keyText dialect key) := by
  have hname := dialect.quotedText_eq typed.name
  have hbody := keyBody_eq dialect typed definable
  unfold keyHead at hbody
  unfold constraint
  rw [found]
  dsimp only
  rw [hname]
  cases hkind : key.kind with
  | primary | unique | foreign | index =>
    rw [hkind] at hbody
    exact hbody

theorem keyText_ne_empty (dialect : Dialect) (key : Constraint) : keyText dialect key ≠ "" := by
  unfold keyText
  split <;> simp only [Ne, String.append_eq_empty_iff, String.reduceEq, and_false, false_and,
    not_false_eq_true]

/-! ### Indexes -/

theorem index_eq {name : Value} {part : Index} (found : table.index? name = some part)
    (hname : name.IsText) (hcolumns : ∀ v ∈ part.columns, v.IsText) (htable : table.name.IsText) :
    index dialect table name = .ok (indexText dialect table name part.columns) := by
  have hlist := dialect.quotedList_eq hcolumns
  unfold index
  rw [found]
  dsimp only
  rw [hlist, Error.ok_bind, dialect.quoted_eq hname, Error.ok_bind, dialect.quoted_eq htable]
  rfl

/-! ### Foreign keys -/

section ForeignKeys

variable (typed : table.IsTyped)
include typed

theorem constraint_of_mem (distinct : (table.constraints.map (·.name)).Nodup)
    (hkey : key ∈ table.constraints) (definable : key.IsDefinable) :
    constraint dialect table key.name = .ok (keyText dialect key) :=
  constraint_eq (Table.constraint?_name typed distinct hkey) (typed.constraints key hkey) definable

theorem addForeignKeys_eq (distinct : (table.constraints.map (·.name)).Nodup)
    (definable : ∀ key ∈ table.constraints, key.IsDefinable) :
    addForeignKeys dialect table = .ok ((foreignKeys table).map fun key =>
      "ALTER TABLE " ++ dialect.written table.name ++ " ADD " ++ keyText dialect key) := by
  unfold addForeignKeys
  rw [dialect.quoted_eq typed.name, Error.ok_bind]
  refine Error.mapM_eq_map fun key hkey => ?_
  have hmem := (List.mem_filter.1 hkey).1
  rw [constraint_of_mem typed distinct hmem (definable key hmem)]
  rfl

theorem dropForeignKeys_eq :
    dropForeignKeys dialect table = .ok ((foreignKeys table).map fun key =>
      "ALTER TABLE " ++ dialect.written table.name ++ " DROP CONSTRAINT " ++
        dialect.written key.name) := by
  unfold dropForeignKeys
  rw [dialect.quoted_eq typed.name, Error.ok_bind]
  refine Error.mapM_eq_map fun key hkey => ?_
  have hmem := (List.mem_filter.1 hkey).1
  rw [dialect.quoted_eq (typed.constraints key hmem).name]
  rfl

end ForeignKeys

end Definition

end OracleCatalog
