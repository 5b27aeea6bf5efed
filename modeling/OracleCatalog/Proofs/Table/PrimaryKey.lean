import OracleCatalog.Proofs.Table.Groups

/-!
# The primary key of a described table

Rows of the index query that are flagged as rows of a primary key are kept under a name of their
own, in the map that also holds the unique keys under the names of their indexes. The primary key is
what these rows say, as long as no unique key has that name too.
-/

namespace OracleCatalog

open OracleCatalog.OrderedMap (values get?)

namespace TableBuilder

variable {folding : CaseFolding} {rows : List Row} {builder : TableBuilder}

/-- A unique key has the name under which the rows of the primary key are kept. -/
def SharesPrimaryName (folding : CaseFolding) (rows : List Row) : Prop :=
  ∃ row ∈ rows, row.keyKind = .unique ∧ row.nameAt folding "name" = primaryName

theorem isFlagged_eq (row : Row) : row.isFlagged "p" = (row.keyKind == .primary) := by
  unfold Row.keyKind
  cases row.isFlagged "p" with
  | true => rfl
  | false => cases row.isFlagged "u" || row.isUniqueIndex <;> rfl

def isKeptAsPrimary (folding : CaseFolding) (row : Row) : Bool :=
  row.keyKind == .primary || row.keyKind == .unique && primaryName == row.nameAt folding "name"

theorem keysWhere_primaryName :
    KeyRow.keysWhere folding (· != .index) (KeyRow.named folding (rows.map .index) primaryName) =
      (rows.filter (isKeptAsPrimary folding)).map fun row => (KeyRow.index row).key folding := by
  have hkept : ∀ row : Row, ((row.keyKind != .index) &&
      primaryName == (KeyRow.index row).name folding) = isKeptAsPrimary folding row := by
    intro row
    unfold isKeptAsPrimary
    dsimp only [KeyRow.name]
    cases hkind : row.keyKind with
    | primary | unique | index => rfl
    | foreign => exact absurd hkind row.keyKind_ne_foreign
  unfold KeyRow.keysWhere KeyRow.named
  rw [List.filter_map, List.filter_map, List.filter_filter, List.map_map]
  exact congrArg _ (List.filter_congr fun row _ => hkept row)

theorem filter_isFlagged_kept (folding : CaseFolding) (rows : List Row) :
    (rows.filter (isKeptAsPrimary folding)).filter (·.isFlagged "p") =
      rows.filter (·.isFlagged "p") := by
  rw [List.filter_filter]
  refine List.filter_congr fun row _ => ?_
  rw [isFlagged_eq, isKeptAsPrimary]
  cases row.keyKind == .primary <;> rfl

theorem kind_of_mem_kept {row : Row} (hrow : row ∈ rows.filter (isKeptAsPrimary folding)) :
    row.keyKind = .primary ∨ row.keyKind = .unique := by
  have hkept := (List.mem_filter.1 hrow).2
  unfold isKeptAsPrimary at hkept
  cases hkind : row.keyKind with
  | primary => exact .inl rfl
  | unique => exact .inr rfl
  | foreign | index =>
    rw [hkind] at hkept
    cases hkept

theorem exists_primary_kept_iff (folding : CaseFolding) (rows : List Row) :
    (∃ row ∈ rows.filter (isKeptAsPrimary folding), row.keyKind = .primary) ↔
      ∃ row ∈ rows, row.isFlagged "p" = true := by
  refine exists_congr fun row => ?_
  rw [List.mem_filter, isFlagged_eq, beq_iff_eq, and_assoc]
  refine and_congr_right fun _ => and_iff_right_of_imp fun hkind => ?_
  unfold isKeptAsPrimary
  rw [hkind]
  rfl

theorem exists_unique_kept_iff (readable : ∀ row ∈ rows, row.IsIndexRow) :
    (∃ row ∈ rows.filter (isKeptAsPrimary folding), row.keyKind = .unique) ↔
      SharesPrimaryName folding rows := by
  refine exists_congr fun row => ?_
  rw [List.mem_filter, and_assoc]
  refine and_congr_right fun hrow => ?_
  have hname := (readable row hrow).name.nameAt_isName folding
  have hbeq := Value.lawfulOn_isName primaryName _ (Value.isName_text _) hname
  rw [and_comm]
  refine and_congr_right fun hkind => ?_
  unfold isKeptAsPrimary
  rw [hkind]
  exact hbeq.trans eq_comm

section Readable

variable (readable : ∀ row ∈ rows, row.IsIndexRow) (h : builder.constraints = [])

include readable h

theorem get?_primaryName_of_primary {c : Constraint}
    (hc : c ∈ (builder.addKeys folding (rows.map .index)).build.constraints)
    (hkind : c.kind = .primary) :
    get? primaryName (builder.addKeys folding (rows.map .index)).constraints = some c := by
  have readable' : ∀ row ∈ rows.map KeyRow.index, row.IsReadable := List.forall_mem_map.2 readable
  obtain ⟨hname, hget⟩ := get?_name_of_mem_constraints readable' h hc
  have hgroup := hget
  rw [get?_constraints_addKeys readable' h hname] at hgroup
  obtain ⟨keyRow, hmem, -, hsame, before, heq⟩ := KeyRow.exists_last readable' hname hgroup
  obtain ⟨row, -, rfl⟩ := List.mem_map.1 hmem
  have hrow : row.keyKind = .primary := by
    rw [← hkind, heq, Constraint.onto_kind, KeyRow.key_kind]
    rfl
  have hprimary : (KeyRow.index row).name folding = primaryName := if_pos hrow
  rw [← hprimary, hsame]
  exact hget

/-- The primary key is what stands under its name, if that is a primary key. -/
theorem primaryKey_addKeys :
    (builder.addKeys folding (rows.map .index)).build.primaryKey =
      match get? primaryName (builder.addKeys folding (rows.map .index)).constraints with
      | some c => if c.kind = .primary then c.columns else []
      | none => [] := by
  have hfound : ∀ c ∈ (builder.addKeys folding (rows.map .index)).build.constraints,
      c.kind = .primary →
        get? primaryName (builder.addKeys folding (rows.map .index)).constraints = some c :=
    fun c hc => get?_primaryName_of_primary readable h hc
  unfold Table.primaryKey
  cases hfind : (builder.addKeys folding (rows.map .index)).build.constraints.find?
      (·.kind == .primary) with
  | some c =>
    have hkind := beq_iff_eq.1
      (List.find?_some (p := fun c : Constraint => c.kind == .primary) hfind)
    rw [hfound c (List.mem_of_find?_eq_some hfind) hkind]
    exact (if_pos hkind).symm
  | none =>
    cases hget : get? primaryName (builder.addKeys folding (rows.map .index)).constraints with
    | none => rfl
    | some c =>
      have hmem := OrderedMap.mem_values_of_get? hget
      have hkind := List.find?_eq_none.1 hfind c hmem
      exact (if_neg fun hprimary => hkind (beq_iff_eq.2 hprimary)).symm

end Readable

section Kept

variable {kept : List Row} {column : Row → Value}

theorem map_eq_map_flagged_iff
    (hkinds : ∀ row ∈ kept, row.keyKind = .primary ∨ row.keyKind = .unique) :
    kept.map column = (kept.filter (·.isFlagged "p")).map column ↔
      ¬ ∃ row ∈ kept, row.keyKind = .unique := by
  constructor
  · rintro hsame ⟨row, hrow, hunique⟩
    have hlength := congrArg List.length hsame
    rw [List.length_map, List.length_map] at hlength
    have hflag := List.length_filter_eq_length_iff.1 hlength.symm row hrow
    rw [isFlagged_eq, hunique] at hflag
    cases hflag
  · intro hnot
    rw [List.filter_eq_self.2]
    intro row hrow
    rw [isFlagged_eq, beq_iff_eq]
    exact (hkinds row hrow).resolve_right fun hunique => hnot ⟨row, hrow, hunique⟩

theorem nil_eq_map_flagged_iff :
    [] = (kept.filter (·.isFlagged "p")).map column ↔ ¬ ∃ row ∈ kept, row.keyKind = .primary := by
  rw [eq_comm, List.map_eq_nil_iff, List.filter_eq_nil_iff, not_exists]
  refine forall_congr' fun row => ?_
  rw [not_and, isFlagged_eq, beq_iff_eq]

/-- Rows of primary and unique keys that are put together are one primary key with the columns of
the primary ones when they are all of one kind, and are not otherwise. -/
theorem columns_of_kept_iff
    (hkinds : ∀ row ∈ kept, row.keyKind = .primary ∨ row.keyKind = .unique) :
    (match (kept.map fun row => (KeyRow.index row).key folding).foldl Constraint.absorb none with
      | some c => if c.kind = .primary then c.columns else []
      | none => []) = (kept.filter (·.isFlagged "p")).map (·.nameAt folding "column_name") ↔
    ¬ ((∃ row ∈ kept, row.keyKind = .primary) ∧ ∃ row ∈ kept, row.keyKind = .unique) := by
  have hcolumns : Constraint.columnsOf ((kept.map fun row =>
      (KeyRow.index row).key folding).foldl Constraint.absorb none) =
        kept.map (·.nameAt folding "column_name") := by
    rw [Constraint.columnsOf_foldl_absorb, List.flatMap_map, List.map_eq_flatMap]
    rfl
  cases hfold : (kept.map fun row =>
      (KeyRow.index row).key folding).foldl Constraint.absorb none with
  | none =>
    rw [hfold] at hcolumns
    obtain rfl := List.map_eq_nil_iff.1 hcolumns.symm
    refine iff_of_true rfl ?_
    rintro ⟨⟨row, hrow, -⟩, -⟩
    cases hrow
  | some c =>
    rw [hfold] at hcolumns
    have hcolumns' : c.columns = kept.map (·.nameAt folding "column_name") := hcolumns
    rcases Constraint.exists_of_foldl_absorb hfold with ⟨hnone, -⟩ | ⟨before, last, hlast, heq⟩
    · cases hnone
    -- the kind is that of the last row
    obtain ⟨row, hrow, rfl⟩ := List.mem_map.1 hlast
    have hrowKind : c.kind = row.keyKind := by
      rw [heq, Constraint.onto_kind]
      rfl
    dsimp only
    rcases hkinds row hrow with hprimary | hunique
    · rw [if_pos (hrowKind.trans hprimary), hcolumns', map_eq_map_flagged_iff hkinds]
      exact not_congr (and_iff_right ⟨row, hrow, hprimary⟩).symm
    · have hkind : c.kind ≠ .primary := by
        rw [hrowKind, hunique]
        exact nofun
      rw [if_neg hkind, nil_eq_map_flagged_iff]
      exact not_congr (and_iff_left ⟨row, hrow, hunique⟩).symm

end Kept

/-- The primary key has the columns of the rows that are flagged, in order, exactly when there are
no such rows or no unique key has the name that they are kept under. -/
theorem primaryKey_follows_rows_iff (hconstraints : builder.constraints = [])
    (readable : ∀ row ∈ rows, row.IsIndexRow) :
    ∃ after, (builder.addRows folding (rows.map .index)).outcome = (.ok after, []) ∧
      (after.build.primaryKey =
          (rows.filter (·.isFlagged "p")).map (·.nameAt folding "column_name") ↔
        ¬ ((∃ row ∈ rows, row.isFlagged "p" = true) ∧ SharesPrimaryName folding rows)) := by
  have readable' : ∀ row ∈ rows.map KeyRow.index, row.IsReadable := List.forall_mem_map.2 readable
  have hprimary : primaryName.IsName := Value.isName_text _
  refine ⟨builder.addKeys folding (rows.map .index), ?_, ?_⟩
  · have hrows := addRows_keys folding readable' builder
    rw [List.map_map] at hrows
    exact congrArg Noted.outcome hrows
  rw [primaryKey_addKeys readable hconstraints,
    get?_constraints_addKeys readable' hconstraints hprimary, keysWhere_primaryName,
    ← filter_isFlagged_kept folding rows, ← exists_primary_kept_iff folding rows,
    ← exists_unique_kept_iff readable]
  exact columns_of_kept_iff fun row hrow => kind_of_mem_kept hrow

def primaryRow (name column : String) : Row :=
  [("name", .text name), ("column_name", .text column), ("is_primary", .text "P"),
    ("is_unique", .int 1)]

theorem primaryRow_isIndexRow (name column : String) : (primaryRow name column).IsIndexRow :=
  ⟨⟨_, rfl, Value.isName_text name⟩, ⟨_, rfl, Value.isName_text column⟩, ⟨.primary, rfl⟩⟩

theorem two_column_primary_key_follows_rows :
    ∃ after, (({ name := .text "EMP" } : TableBuilder).addRows .lower
        ([primaryRow "EMP_PK" "DEPT", uniqueRow "EMP_U1" "NO", primaryRow "EMP_PK" "ID"].map
          .index)).outcome = (.ok after, []) ∧
      after.build.primaryKey = [.text "dept", .text "id"] := by
  have hmem : ∀ {row : Row}, row ∈ [primaryRow "EMP_PK" "DEPT", uniqueRow "EMP_U1" "NO",
      primaryRow "EMP_PK" "ID"] → row = primaryRow "EMP_PK" "DEPT" ∨
        row = uniqueRow "EMP_U1" "NO" ∨ row = primaryRow "EMP_PK" "ID" := by
    intro row hrow
    rw [List.mem_cons, List.mem_cons, List.mem_singleton] at hrow
    exact hrow
  have readable : ∀ row ∈ [primaryRow "EMP_PK" "DEPT", uniqueRow "EMP_U1" "NO",
      primaryRow "EMP_PK" "ID"], row.IsIndexRow := by
    intro row hrow
    rcases hmem hrow with rfl | rfl | rfl
    · exact primaryRow_isIndexRow _ _
    · exact uniqueRow_isReadable _ _
    · exact primaryRow_isIndexRow _ _
  have hnot : ¬SharesPrimaryName .lower [primaryRow "EMP_PK" "DEPT", uniqueRow "EMP_U1" "NO",
      primaryRow "EMP_PK" "ID"] := by
    rintro ⟨row, hrow, hunique, hname⟩
    rcases hmem hrow with rfl | rfl | rfl
    · cases hunique
    · exact absurd (Value.text.inj hname) (by decide)
    · cases hunique
  have hconstraints : ({ name := .text "EMP" } : TableBuilder).constraints = [] := rfl
  obtain ⟨after, hafter, hiff⟩ := primaryKey_follows_rows_iff hconstraints readable
  exact ⟨after, hafter, hiff.2 fun hboth => hnot hboth.2⟩

/-- A unique index that is called PRIMARY hides the primary key. -/
theorem primary_key_hidden_by_unique_index :
    ∃ after, (({ name := .text "EMP" } : TableBuilder).addRows .lower
        ([primaryRow "EMP_PK" "ID", uniqueRow "PRIMARY" "EMAIL"].map .index)).outcome =
          (.ok after, []) ∧
      after.build.primaryKey = [] ∧
      ([primaryRow "EMP_PK" "ID", uniqueRow "PRIMARY" "EMAIL"].filter (·.isFlagged "p")).map
        (·.nameAt .lower "column_name") = [.text "id"] :=
  ⟨_, rfl, rfl, rfl⟩

end TableBuilder

end OracleCatalog
