import OracleCatalog.Proofs.Definition.Creation

/-!
# The statements of a table

Creating a table fails exactly when a column has one of the three types without a declaration. It
lists the definition of every column and of every key once, in the order of the table; foreign keys
are left to statements of their own, one for each.
-/

namespace OracleCatalog.Definition

open OracleCatalog.Text

variable {dialect : Dialect} {table : Table}

/-! ### Types without a declaration -/

theorem error_of_column (typed : table.IsTyped) (distinct : table.columnNames.Nodup) {c : Column}
    (hc : c ∈ table.columns) {e : Error} (h : column dialect table c.name = .error e) :
    ∃ name text, e = .unsupportedType name text := by
  have hfound := Table.column?_name typed distinct hc
  cases hdeclared : c.type.isDeclared with
  | true =>
    obtain ⟨text, htext⟩ := exists_column dialect hfound (typed.columns c hc) hdeclared
    rw [htext] at h
    cases h
  | false =>
    rw [column_of_not_declared dialect hfound (typed.columns c hc) hdeclared] at h
    exact ⟨_, _, (Except.error.inj h).symm⟩

/-- Creating a table fails for a type without a declaration, and for nothing else. -/
theorem create_unsupportedType_iff (typed : table.IsTyped) (columnNames : table.columnNames.Nodup)
    (constraintNames : (table.constraints.map (·.name)).Nodup) :
    (∃ name text, (create dialect table).outcome.1 = .error (.unsupportedType name text)) ↔
      ∃ c ∈ table.columns, c.type ∈ [.json, .cursor, .unknown] := by
  cases hall : table.columns.all (·.type.isDeclared) with
  | true =>
    have declared := List.all_eq_true.1 hall
    obtain ⟨columns, hcolumns⟩ := exists_columns dialect typed columnNames declared
    obtain ⟨indexes, hindexes, -⟩ := exists_indexes dialect typed
    refine iff_of_false ?_ ?_
    · rintro ⟨name, text, hcreate⟩
      rw [create_eq typed constraintNames hcolumns hindexes] at hcreate
      cases hcreate
    · rintro ⟨c, hc, htype⟩
      have hnot := (AbstractType.isDeclared_eq_false_iff c.type).2 htype
      exact Bool.false_ne_true (hnot.symm.trans (declared c hc))
  | false =>
    obtain ⟨c, hc, hnot⟩ := List.all_eq_false.1 hall
    have hdeclared : c.type.isDeclared = false := Bool.eq_false_iff.2 hnot
    have hcolumn := column_of_not_declared dialect
      (Table.column?_name typed columnNames hc) (typed.columns c hc) hdeclared
    -- an earlier column may fail before this one, but for the same reason
    obtain ⟨_, hname, e, he, hcolumns⟩ := Error.error_of_mapM (List.mem_map_of_mem hc) hcolumn
    obtain ⟨first, hfirst, rfl⟩ := List.mem_map.1 hname
    obtain ⟨name, text, rfl⟩ := error_of_column typed columnNames hfirst he
    have hcreate := create_of_columns_error hcolumns
    exact iff_of_true ⟨name, text, hcreate⟩
      ⟨c, hc, (AbstractType.isDeclared_eq_false_iff c.type).1 hdeclared⟩

/-! ### Every part once -/

theorem indexes_eq (typed : table.IsTyped) (distinct : (table.indexes.map (·.name)).Nodup) :
    (table.indexes.mapM fun part => index dialect table part.name) =
      .ok (table.indexes.map fun part => indexText dialect table part.name part.columns) := by
  refine Error.mapM_eq_map fun part hpart => ?_
  exact index_eq (Table.index?_name typed distinct hpart) (typed.indexes part hpart).name
    (typed.indexes part hpart).columns typed.name

/-- The statement that creates a table lists the definitions of its columns and then those of its
keys. -/
theorem create_lists (typed : table.IsTyped) (columnNames : table.columnNames.Nodup)
    (constraintNames : (table.constraints.map (·.name)).Nodup)
    (indexNames : (table.indexes.map (·.name)).Nodup)
    (declared : ∀ c ∈ table.columns, c.type ∉ [.json, .cursor, .unknown]) :
    ∃ columns generation,
      (table.columns.mapM fun c => column dialect table c.name) = .ok columns ∧
      (create dialect table).outcome.1 = .ok
        (("CREATE" ++ (if table.temporary.truthy then " GLOBAL TEMPORARY " else " ") ++ "TABLE " ++
            dialect.written table.name ++ " (\n" ++
            join ",\n" (columns ++ (ownKeys table).map (keyText dialect)) ++ "\n)") ::
          (table.indexes.map fun part => indexText dialect table part.name part.columns) ++
          (commented table).map (commentText dialect table) ++ generation) ∧
      ∀ statement ∈ generation, generatesKeys statement = true := by
  have hdeclared : ∀ c ∈ table.columns, c.type.isDeclared = true := by
    intro c hc
    refine eq_true_of_ne_false fun hnot => ?_
    exact declared c hc ((AbstractType.isDeclared_eq_false_iff c.type).1 hnot)
  obtain ⟨columns, hcolumns⟩ := exists_columns dialect typed columnNames hdeclared
  have hnonempty : ∀ part ∈ columns ++ (ownKeys table).map (keyText dialect), part ≠ "" := by
    intro part hpart
    rcases List.mem_append.1 hpart with hcolumn | hkey
    · obtain ⟨_, hname, htext⟩ := Error.mem_of_mapM hcolumns hcolumn
      obtain ⟨c, hc, rfl⟩ := List.mem_map.1 hname
      exact ne_empty_of_column (Table.column?_name typed columnNames hc) (typed.columns c hc) htext
    · obtain ⟨key, -, rfl⟩ := List.mem_map.1 hkey
      exact keyText_ne_empty dialect key
  refine ⟨columns, keyStatements dialect table, ?_, ?_, generatesKeys_keyStatements⟩
  · rw [← hcolumns, Table.columnNames, List.mapM_map]
    rfl
  · rw [create_eq typed constraintNames hcolumns (indexes_eq typed indexNames),
      tableBody_eq _ _ hnonempty]

theorem ownKeys_append_foreignKeys (table : Table) :
    (ownKeys table ++ foreignKeys table).Perm table.constraints := by
  have hforeign : foreignKeys table = table.constraints.filter (!·.kind != .foreign) := by
    refine List.filter_congr fun key _ => ?_
    rw [bne, Bool.not_not]
  rw [hforeign]
  exact List.filter_append_perm (·.kind != .foreign) table.constraints

end OracleCatalog.Definition
