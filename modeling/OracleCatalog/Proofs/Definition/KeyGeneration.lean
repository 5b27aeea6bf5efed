import OracleCatalog.Proofs.Definition.Creation

/-!
# How a table generates its keys

A table whose primary key is one integer column generates its keys in one of two ways: the column
has the identity clause, or a sequence and a trigger follow the table. What decides between the two
is the dialect alone. No other table generates keys.
-/

namespace OracleCatalog

/-! ### The key column -/

/-- A column of integers that is the whole first primary key. -/
structure Table.IsIntegerKey (table : Table) (column : Column) : Prop where
  mem : column ∈ table.columns
  integer : column.type.isInteger = true
  alone : ∃ front key back, table.constraints = front ++ key :: back ∧
    (∀ other ∈ front, other.kind ≠ .primary) ∧ key.kind = .primary ∧ key.columns = [column.name]

namespace Table

variable {table : Table}

theorem primaryKey_eq_singleton_iff {name : Value} :
    table.primaryKey = [name] ↔ ∃ front key back, table.constraints = front ++ key :: back ∧
      (∀ other ∈ front, other.kind ≠ .primary) ∧ key.kind = .primary ∧ key.columns = [name] := by
  unfold primaryKey
  constructor
  · intro h
    split at h
    · rename_i key hfind
      obtain ⟨hkind, front, back, hconstraints, hfront⟩ := List.find?_eq_some_iff_append.1 hfind
      refine ⟨front, key, back, hconstraints, fun other hother => ?_, beq_iff_eq.1 hkind, h⟩
      have hnot := hfront other hother
      simpa using hnot
    · cases h
  · rintro ⟨front, key, back, hconstraints, hfront, hkind, hcolumns⟩
    have hfind : table.constraints.find? (·.kind == .primary) = some key := by
      refine List.find?_eq_some_iff_append.2
        ⟨beq_iff_eq.2 hkind, front, back, hconstraints, fun other hother => ?_⟩
      have hnot := hfront other hother
      simpa using hnot
    rw [hfind]
    exact hcolumns

theorem integerKey?_eq_some_iff (typed : table.IsTyped) (distinct : table.columnNames.Nodup)
    {column : Column} : table.integerKey? = some column ↔ table.IsIntegerKey column := by
  constructor
  · intro h
    have hmem := Definition.mem_of_integerKey? h
    unfold integerKey? at h
    split at h
    · rename_i name hkey
      obtain ⟨hfound, hinteger⟩ := Option.filter_eq_some_iff.1 h
      obtain ⟨front, key, back, hconstraints, hfront, hkind, hcolumns⟩ :=
        primaryKey_eq_singleton_iff.1 hkey
      have hkeyMem : key ∈ table.constraints := by
        rw [hconstraints]
        exact List.mem_append_right _ List.mem_cons_self
      have hname : name.IsText := by
        refine (typed.constraints key hkeyMem).columns name ?_
        rw [hcolumns]
        exact List.mem_singleton_self name
      have hbeq := List.find?_some hfound
      have hsame : column.name = name :=
        (Value.lawfulOn_isText _ _ (typed.columns column hmem).name hname).1 hbeq
      rw [← hsame] at hcolumns
      exact ⟨hmem, hinteger, front, key, back, hconstraints, hfront, hkind, hcolumns⟩
    · cases h
  · intro h
    have hfound := column?_name typed distinct h.mem
    have hkey := primaryKey_eq_singleton_iff.2 h.alone
    unfold integerKey?
    rw [hkey]
    dsimp only
    rw [hfound]
    exact Option.filter_eq_some_iff.2 ⟨rfl, h.integer⟩

end Table

namespace Definition

open OracleCatalog.Text

variable {dialect : Dialect} {table : Table}

/-! ### The identity clause -/

/-- The definition of a column has the identity clause right behind the type. -/
def HasIdentity (dialect : Dialect) (table : Table) (c : Column) : Prop :=
  ∃ declaration rest, c.type.declaration (sizeOf c) = .ok declaration ∧
    column dialect table c.name =
      .ok (dialect.written c.name ++ " " ++ declaration ++ identityClause ++ rest)

theorem isIdentity_iff (typed : table.IsTyped) (distinct : table.columnNames.Nodup) {c : Column}
    (hc : c ∈ table.columns) :
    isIdentity dialect table c = true ↔ dialect.usesIdentity = true ∧ table.IsIntegerKey c := by
  unfold isIdentity
  rw [Bool.and_eq_true, Option.any_eq_true]
  refine and_congr_right fun _ => ?_
  constructor
  · rintro ⟨key, hkey, hname⟩
    have hmem := mem_of_integerKey? hkey
    have hsame : key.name = c.name :=
      (Value.lawfulOn_isText _ _ (typed.columns key hmem).name (typed.columns c hc).name).1 hname
    have hfound := Table.column?_name typed distinct hmem
    rw [hsame, Table.column?_name typed distinct hc] at hfound
    obtain rfl := Option.some.inj hfound
    exact (Table.integerKey?_eq_some_iff typed distinct).1 hkey
  · intro h
    exact ⟨c, (Table.integerKey?_eq_some_iff typed distinct).2 h,
      Value.lawfulOn_isText.beq_self (typed.columns c hc).name⟩

/-- What follows the type and the identity clause starts in another way than that clause. -/
theorem defaultText_refusal_ne (c : Column) (rest : String) :
    defaultText c ++ refusal c ≠ identityClause ++ rest := by
  have hidentity : ((identityClause ++ rest).toList.take 2) = [' ', 'G'] := by
    rw [String.toList_append]
    rfl
  have hdefault : ((defaultText c ++ refusal c).toList.take 2) ∈ [[' ', 'D'], [' ', 'N']] := by
    unfold defaultText refusal
    cases c.nullable.truthy with
    | true =>
      simp only [↓reduceIte]
      decide
    | false =>
      simp only [Bool.false_eq_true, ↓reduceIte]
      cases hasDefault c with
      | true =>
        rw [if_pos rfl, String.append_assoc, String.toList_append]
        exact List.mem_cons_self
      | false =>
        rw [if_neg Bool.false_ne_true]
        decide
  intro heq
  rw [heq, hidentity] at hdefault
  revert hdefault
  decide

/-- Exactly the key column has the identity clause, and only where the dialect asks for it. -/
theorem hasIdentity_iff (typed : table.IsTyped) (distinct : table.columnNames.Nodup) {c : Column}
    (hc : c ∈ table.columns) (declared : c.type.isDeclared = true) :
    HasIdentity dialect table c ↔ dialect.usesIdentity = true ∧ table.IsIntegerKey c := by
  obtain ⟨declaration, hdeclaration⟩ :=
    AbstractType.exists_declaration declared (typed.columns c hc).size
  have hcolumn := column_of_declaration dialect (Table.column?_name typed distinct hc)
    (typed.columns c hc) hdeclaration
  rw [← isIdentity_iff typed distinct hc]
  unfold identityText at hcolumn
  cases hidentity : isIdentity dialect table c with
  | true =>
    rw [hidentity, if_pos rfl, String.append_assoc] at hcolumn
    exact iff_of_true ⟨declaration, _, hdeclaration, hcolumn⟩ rfl
  | false =>
    rw [hidentity, if_neg Bool.false_ne_true, String.append_empty, String.append_assoc] at hcolumn
    refine iff_of_false ?_ Bool.false_ne_true
    -- the clause would have to be a part of what follows the type
    rintro ⟨declaration', rest, hdeclaration', hcolumn'⟩
    obtain rfl := Except.ok.inj (hdeclaration.symm.trans hdeclaration')
    have heq := Except.ok.inj (hcolumn'.symm.trans hcolumn)
    rw [String.append_assoc, String.append_right_inj] at heq
    exact defaultText_refusal_ne c rest heq.symm

/-! ### The statements of a table -/

theorem keyStatements_of_integerKey (typed : table.IsTyped) (distinct : table.columnNames.Nodup)
    {key : Column} (h : table.IsIntegerKey key) : keyStatements dialect table =
      if dialect.usesIdentity then [] else sequenceStatements dialect table key := by
  unfold keyStatements
  rw [(Table.integerKey?_eq_some_iff typed distinct).2 h]

theorem keyStatements_of_none (typed : table.IsTyped) (distinct : table.columnNames.Nodup)
    (h : ∀ column, ¬table.IsIntegerKey column) : keyStatements dialect table = [] := by
  unfold keyStatements
  cases hkey : table.integerKey? with
  | none => rfl
  | some column => exact absurd ((Table.integerKey?_eq_some_iff typed distinct).1 hkey) (h column)

theorem isIntegerKey_iff_eq (typed : table.IsTyped) (distinct : table.columnNames.Nodup)
    {key : Column} (h : table.IsIntegerKey key) (c : Column) : table.IsIntegerKey c ↔ c = key := by
  rw [← Table.integerKey?_eq_some_iff typed distinct] at h ⊢
  rw [h, Option.some.injEq, eq_comm]

theorem employees_integerKey : employees.IsIntegerKey numberColumn := by
  have hmem : numberColumn ∈ employees.columns := List.mem_cons_of_mem _ List.mem_cons_self
  have hfront : ∀ other ∈ [uniqueName, foreignName], other.kind ≠ .primary :=
    List.forall_mem_cons.2 ⟨nofun, List.forall_mem_singleton.2 nofun⟩
  exact ⟨hmem, rfl, [uniqueName, foreignName], primaryNumber, [], rfl, hfront, rfl, rfl⟩

/-- The dialect of an engine with identity columns. -/
def identityDialect : Dialect := { engine := { identityColumns := .bool true } }

end Definition

end OracleCatalog
