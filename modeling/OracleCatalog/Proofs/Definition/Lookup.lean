import OracleCatalog.Definition.Table
import OracleCatalog.Proofs.Success

/-!
# Definitions without lookups

Definitions are asked for by name, and each of them looks its part up in the table. Where a name
finds the part that has it, the definition is that of the part itself: it can be written without
looking anything up.
-/

namespace OracleCatalog

/-- Every part of the table is what its name finds. -/
structure Table.FindsOwn (table : Table) : Prop where
  column : ∀ c ∈ table.columns, ∀ n, (c.name == n) = true → table.column? n = some c
  constraint : ∀ c ∈ table.constraints, ∀ n, (c.name == n) = true → table.constraint? n = some c
  index : ∀ i ∈ table.indexes, ∀ n, (i.name == n) = true → table.index? n = some i

/-- Of the columns that have a name there is one alone. -/
theorem Table.FindsOwn.column_eq {table : Table} (finds : table.FindsOwn) {c d : Column} {n : Value}
    (hc : c ∈ table.columns) (hd : d ∈ table.columns) (hcn : (c.name == n) = true)
    (hdn : (d.name == n) = true) : c = d :=
  Option.some.inj ((finds.column c hc n hcn).symm.trans (finds.column d hd n hdn))

/-- The name of every part is the same as itself, as all names are but those that are no number. -/
structure Table.NamesThemselves (table : Table) : Prop where
  column : ∀ c ∈ table.columns, (c.name == c.name) = true
  constraint : ∀ c ∈ table.constraints, (c.name == c.name) = true
  index : ∀ i ∈ table.indexes, (i.name == i.name) = true

namespace Definition

open OracleCatalog.Text

/-! ### Definitions of given parts -/

/-- Whether the column makes up the primary key by itself and holds integers. -/
def isSoleKey (table : Table) (c : Column) : Bool :=
  match table.primaryKey with
  | [name] => c.name == name && c.type.isInteger
  | _ => false

def ofColumn (dialect : Dialect) (table : Table) (c : Column) : Except Error String := do
  let quoted ← dialect.quote c.name
  let declaration ← c.type.declaration (sizeOf c)
  let quoted ← quoted.operand
  let identity := if dialect.usesIdentity && isSoleKey table c then identityClause else ""
  let default ← defaultClause c
  let refusal := if c.nullable.truthy then "" else " NOT NULL"
  return quoted ++ " " ++ declaration ++ identity ++ default ++ refusal

def ofConstraint (dialect : Dialect) (key : Constraint) : Except Error String := do
  match key.kind with
  | .primary => keyBody dialect "PRIMARY KEY" key
  | .unique =>
      keyBody dialect ("CONSTRAINT " ++ (← dialect.quotedText key.name) ++ " UNIQUE") key
  | _ => keyBody dialect ("CONSTRAINT " ++ (← dialect.quotedText key.name)) key

def ofIndex (dialect : Dialect) (table : Table) (part : Index) : Except Error String := do
  let columns ← dialect.quotedList part.columns
  return "CREATE INDEX " ++ (← dialect.quoted part.name) ++ " ON " ++
    (← dialect.quoted table.name) ++ " (" ++ columns ++ ")"

/-- The statements that create a table, from the definitions of its parts themselves. -/
def createOfParts (dialect : Dialect) (table : Table) : Noted (List String) := do
  let statements ← Noted.ofExcept do
    let columns ← table.columns.mapM (ofColumn dialect table)
    let constraints ← (table.constraints.filter (·.kind != .foreign)).mapM (ofConstraint dialect)
    let indexes ← table.indexes.mapM (ofIndex dialect table)
    createTable dialect table columns constraints indexes
  Noted.note .dialect .debug
    ("Generated " ++ natText statements.length ++ " statements for table " ++ table.name.toText)
  return statements

def addForeignKeysOfParts (dialect : Dialect) (table : Table) : Except Error (List String) := do
  let name ← dialect.quoted table.name
  (foreignKeys table).mapM fun key => do
    return "ALTER TABLE " ++ name ++ " ADD " ++ (← ofConstraint dialect key)

/-- Whatever is defined by name is the very part that the name was taken from: the definitions of
the columns, keys and indexes, the column that generates its own keys, and with them the statements
for the whole table. -/
structure DefinesOwn (dialect : Dialect) (table : Table) : Prop where
  column : ∀ c ∈ table.columns, (c.name == c.name) = true →
    column dialect table c.name = ofColumn dialect table c
  constraint : ∀ key ∈ table.constraints, (key.name == key.name) = true →
    constraint dialect table key.name = ofConstraint dialect key
  index : ∀ part ∈ table.indexes, (part.name == part.name) = true →
    index dialect table part.name = ofIndex dialect table part
  key : table.integerKey? = table.columns.find? (isSoleKey table)
  create : table.NamesThemselves → create dialect table = createOfParts dialect table
  addForeignKeys : table.NamesThemselves →
    addForeignKeys dialect table = addForeignKeysOfParts dialect table

/-! ### Parts that are found -/

variable {table : Table}

theorem isSoleKey_iff {c : Column} : isSoleKey table c = true ↔
    ∃ name, table.primaryKey = [name] ∧ (c.name == name) = true ∧ c.type.isInteger = true := by
  unfold isSoleKey
  split
  · rename_i name hkey
    rw [Bool.and_eq_true_iff]
    refine ⟨fun h => ⟨name, hkey, h⟩, ?_⟩
    rintro ⟨other, hother, h⟩
    obtain rfl := List.singleton_inj.1 (hkey.symm.trans hother)
    exact h
  · rename_i hkey
    refine iff_of_false Bool.false_ne_true ?_
    rintro ⟨name, hname, -⟩
    exact hkey name hname

/-- The column that generates its own keys is the sole key column. -/
theorem integerKey?_of_findsOwn (finds : table.FindsOwn) :
    table.integerKey? = table.columns.find? (isSoleKey table) := by
  unfold Table.integerKey?
  cases hfirst : table.columns.find? (isSoleKey table) with
  | some c =>
    have hc : c ∈ table.columns := List.mem_of_find?_eq_some hfirst
    obtain ⟨name, hkey, hname, hinteger⟩ := isSoleKey_iff.1 (List.find?_some hfirst)
    rw [hkey]
    dsimp only
    rw [finds.column c hc name hname, Option.filter_some, if_pos hinteger]
  | none =>
    split
    · rename_i name hkey
      refine Option.filter_eq_none_iff.2 fun c hfound hinteger => ?_
      have hc : c ∈ table.columns := List.mem_of_find?_eq_some hfound
      have hname : (c.name == name) = true :=
        List.find?_some (p := fun c : Column => c.name == name) hfound
      exact List.find?_eq_none.1 hfirst c hc (isSoleKey_iff.2 ⟨name, hkey, hname, hinteger⟩)
    · rfl

/-- A column has the identity clause exactly when it is the sole key column itself. -/
theorem isIdentity_of_findsOwn (finds : table.FindsOwn) (dialect : Dialect) {c : Column}
    (hc : c ∈ table.columns) (hself : (c.name == c.name) = true) :
    isIdentity dialect table c = (dialect.usesIdentity && isSoleKey table c) := by
  have hsole : table.integerKey?.any (·.name == c.name) = isSoleKey table c := by
    rw [integerKey?_of_findsOwn finds, Bool.eq_iff_iff, Option.any_eq_true]
    constructor
    · rintro ⟨other, hfirst, hsame⟩
      have hother : other ∈ table.columns := List.mem_of_find?_eq_some hfirst
      obtain rfl := finds.column_eq hother hc hsame hself
      exact List.find?_some hfirst
    · intro hkey
      obtain ⟨other, hfirst⟩ := Option.isSome_iff_exists.1 (List.find?_isSome.2 ⟨c, hc, hkey⟩)
      have hother : other ∈ table.columns := List.mem_of_find?_eq_some hfirst
      obtain ⟨name, hname, hsame, -⟩ := isSoleKey_iff.1 hkey
      obtain ⟨name', hname', hsame', -⟩ := isSoleKey_iff.1 (List.find?_some hfirst)
      obtain rfl := List.singleton_inj.1 (hname.symm.trans hname')
      obtain rfl := finds.column_eq hother hc hsame' hsame
      exact ⟨other, hfirst, hself⟩
  unfold isIdentity
  rw [hsole]

theorem column_of_findsOwn (finds : table.FindsOwn) (dialect : Dialect) {c : Column}
    (hc : c ∈ table.columns) (hself : (c.name == c.name) = true) :
    column dialect table c.name = ofColumn dialect table c := by
  unfold column ofColumn
  rw [finds.column c hc c.name hself]
  dsimp only
  rw [isIdentity_of_findsOwn finds dialect hc hself]

theorem constraint_of_findsOwn (finds : table.FindsOwn) (dialect : Dialect) {key : Constraint}
    (hkey : key ∈ table.constraints) (hself : (key.name == key.name) = true) :
    constraint dialect table key.name = ofConstraint dialect key := by
  unfold constraint ofConstraint
  rewrite [finds.constraint key hkey key.name hself]
  rfl

theorem index_of_findsOwn (finds : table.FindsOwn) (dialect : Dialect) {part : Index}
    (hpart : part ∈ table.indexes) (hself : (part.name == part.name) = true) :
    index dialect table part.name = ofIndex dialect table part := by
  unfold index ofIndex
  rw [finds.index part hpart part.name hself]

theorem create_of_findsOwn (finds : table.FindsOwn) (dialect : Dialect)
    (themselves : table.NamesThemselves) :
    create dialect table = createOfParts dialect table := by
  have hcolumns : table.columnNames.mapM (column dialect table) =
      table.columns.mapM (ofColumn dialect table) := by
    unfold Table.columnNames
    rw [List.mapM_map]
    exact Error.mapM_congr fun c hc => column_of_findsOwn finds dialect hc (themselves.column c hc)
  have hconstraints : ((table.constraints.filter (·.kind != .foreign)).mapM fun key =>
      constraint dialect table key.name) =
        (table.constraints.filter (·.kind != .foreign)).mapM (ofConstraint dialect) :=
    Error.mapM_congr fun key hkey => by
      have hmem := (List.mem_filter.1 hkey).1
      exact constraint_of_findsOwn finds dialect hmem (themselves.constraint key hmem)
  have hindexes : (table.indexes.mapM fun part => index dialect table part.name) =
      table.indexes.mapM (ofIndex dialect table) :=
    Error.mapM_congr fun part hpart =>
      index_of_findsOwn finds dialect hpart (themselves.index part hpart)
  unfold create createOfParts
  rw [hcolumns, hconstraints, hindexes]

theorem addForeignKeys_of_findsOwn (finds : table.FindsOwn) (dialect : Dialect)
    (themselves : table.NamesThemselves) :
    addForeignKeys dialect table = addForeignKeysOfParts dialect table := by
  unfold addForeignKeys addForeignKeysOfParts
  refine congrArg _ (funext fun name => Error.mapM_congr fun key hkey => ?_)
  have hmem := (List.mem_filter.1 hkey).1
  rw [constraint_of_findsOwn finds dialect hmem (themselves.constraint key hmem)]

/-- Where names find the parts that have them, definitions are those of the parts. -/
theorem definesOwn_of_findsOwn (finds : table.FindsOwn) (dialect : Dialect) :
    DefinesOwn dialect table where
  column _ := column_of_findsOwn finds dialect
  constraint _ := constraint_of_findsOwn finds dialect
  index _ := index_of_findsOwn finds dialect
  key := integerKey?_of_findsOwn finds
  create := create_of_findsOwn finds dialect
  addForeignKeys := addForeignKeys_of_findsOwn finds dialect

end Definition

end OracleCatalog
