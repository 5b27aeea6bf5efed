import OracleCatalog.Proofs.Table.Merging

/-!
# Foreign keys of a described table

The rows of a foreign key make one constraint, whose columns and referenced columns come one from
each row. Constraints on indexes are kept under names too, although the catalog names indexes and
constraints apart from each other. The foreign keys of a table follow their rows exactly when none
of them has the name of a constraint that stands on an index.
-/

namespace OracleCatalog

open OracleCatalog.OrderedMap (get?)

/-! ### Constraints that refer to something -/

/-- The columns that references name. -/
def References.columns : References → List Value
  | .to _ columns => columns
  | _ => []

namespace Constraint

/-- What the rows of the index query stand for: a key that refers to nothing. -/
def IsPlain (c : Constraint) : Prop :=
  c.kind ≠ .foreign ∧ c.references = .absent ∧ c.columns ≠ []

/-- What a row of the foreign key query stands for: one column that refers to one column. -/
def IsReference (c : Constraint) : Prop :=
  c.kind = .foreign ∧ (∃ column, c.columns = [column]) ∧
    ∃ table referenced, c.references = .to table [referenced]

def columnsOf (earlier : Option Constraint) : List Value := (earlier.map (·.columns)).getD []

def referencedOf (earlier : Option Constraint) : List Value :=
  (earlier.map (·.references.columns)).getD []

theorem IsPlain.onto {later : Constraint} (h : later.IsPlain) (earlier : Option Constraint) :
    (later.onto earlier).IsPlain := by
  cases earlier with
  | none => exact h
  | some earlier =>
    obtain ⟨hkind, href, hcolumns⟩ := h
    refine ⟨hkind, ?_, ?_⟩
    · show earlier.references.after later.references = .absent
      rw [href]
      cases earlier.references <;> rfl
    · exact List.append_ne_nil_of_right_ne_nil _ hcolumns

theorem IsReference.onto {later : Constraint} (h : later.IsReference)
    (earlier : Option Constraint) :
    (later.onto earlier).kind = .foreign ∧
      (later.onto earlier).columns = columnsOf earlier ++ later.columns ∧
      ∃ table, (later.onto earlier).references =
        .to table (referencedOf earlier ++ later.references.columns) := by
  obtain ⟨hkind, -, table, referenced, href⟩ := h
  refine ⟨(onto_kind earlier later).trans hkind, ?_, ?_⟩
  · cases earlier with
    | none => rfl
    | some earlier => rfl
  · cases earlier with
    | none => exact ⟨table, href.trans (by rw [href]; rfl)⟩
    | some earlier =>
      show ∃ table, earlier.references.after later.references =
        .to table (earlier.references.columns ++ later.references.columns)
      rw [href]
      cases earlier.references with
      | absent | blank => exact ⟨table, rfl⟩
      | _ target columns => exact ⟨target, rfl⟩

/-- Foreign keys of one name come to one, whose columns and referenced columns are those of each in
order, behind what stood under the name before. -/
theorem foldl_absorb_references {keys : List Constraint} (hne : keys ≠ [])
    (hkeys : ∀ key ∈ keys, key.IsReference) (earlier : Option Constraint) :
    ∃ c table, keys.foldl absorb earlier = some c ∧ c.kind = .foreign ∧
      (∃ key ∈ keys, c.name = key.name) ∧
      c.columns = columnsOf earlier ++ keys.flatMap (·.columns) ∧
      c.references = .to table (referencedOf earlier ++ keys.flatMap (·.references.columns)) := by
  induction keys generalizing earlier with
  | nil => exact absurd rfl hne
  | cons key rest ih =>
    obtain ⟨hkind, hcolumns, table, href⟩ := (hkeys key List.mem_cons_self).onto earlier
    by_cases hrest : rest = []
    · subst hrest
      refine ⟨key.onto earlier, table, rfl, hkind, ⟨key, List.mem_cons_self, onto_name _ _⟩, ?_, ?_⟩
      · rw [hcolumns, List.flatMap_singleton]
      · rw [href, List.flatMap_singleton]
    · obtain ⟨c, table', hc, hkind', ⟨key', hmem, hname⟩, hcolumns', href'⟩ :=
        ih hrest (fun key' h' => hkeys key' (List.mem_cons_of_mem _ h')) (some (key.onto earlier))
      refine ⟨c, table', hc, hkind', ⟨key', List.mem_cons_of_mem _ hmem, hname⟩, ?_, ?_⟩
      · rw [hcolumns', List.flatMap_cons, ← List.append_assoc, ← hcolumns]
        rfl
      · rw [href', List.flatMap_cons, ← List.append_assoc]
        show References.to table' ((key.onto earlier).references.columns ++ _) = _
        rw [href]
        rfl

theorem length_flatMap_references {keys : List Constraint} (h : ∀ key ∈ keys, key.IsReference) :
    (keys.flatMap (·.columns)).length = (keys.flatMap (·.references.columns)).length := by
  induction keys with
  | nil => rfl
  | cons key rest ih =>
    obtain ⟨-, ⟨column, hcolumns⟩, table, referenced, href⟩ := h key List.mem_cons_self
    have ih' := ih fun key' h' => h key' (List.mem_cons_of_mem _ h')
    rw [List.flatMap_cons, List.flatMap_cons, List.length_append, List.length_append, ih', hcolumns,
      href]
    rfl

/-- A constraint that plain constraints come to is plain, and it has the name that it is under. -/
theorem isPlain_of_get? {constraints : List Constraint} {name : Value} {c : Constraint}
    (names : ∀ c ∈ constraints, c.name.IsName) (plain : ∀ c ∈ constraints, c.IsPlain)
    (hname : name.IsName) (found : get? name (constraints.foldl into []) = some c) :
    c.IsPlain ∧ c.name = name := by
  rw [get?_foldl_into OrderedMap.keysIn_nil names hname] at found
  rcases exists_of_foldl_absorb found with ⟨hnone, -⟩ | ⟨before, last, hmem, rfl⟩
  · cases hnone
  · obtain ⟨hlast, heq⟩ := List.mem_filter.1 hmem
    refine ⟨(plain last hlast).onto before, ?_⟩
    rw [onto_name]
    exact ((Value.lawfulOn_isName name last.name hname (names last hlast)).1 heq).symm

end Constraint

/-! ### Tables and the rows of their foreign keys -/

/-- The rows of the foreign key that a row belongs to: those that spell its name alike. -/
def Row.ofSameKey (rows : List Row) (row : Row) : List Row :=
  rows.filter fun other =>
    other.fieldOrNull "constraint_name" == row.fieldOrNull "constraint_name"

namespace Table

/-- Every foreign key has one column and one referenced column from each of its rows, in order. -/
def ForeignKeysFollow (folding : CaseFolding) (rows : List Row) (table : Table) : Prop :=
  ∀ c ∈ table.constraints, c.kind = .foreign →
    ∃ row ∈ rows, row.folded folding "constraint_name" = .ok c.name ∧
      (Row.ofSameKey rows row).mapM (Row.folded folding "column_name") = .ok c.columns ∧
      ∃ target referenced, c.references = .to target referenced ∧
        (Row.ofSameKey rows row).mapM (Row.folded folding "referenced_column_name") =
          .ok referenced ∧
        c.columns.length = referenced.length

/-- Every unique key of a table is in another one as it is. -/
def KeepsUniqueKeys (before after : Table) : Prop :=
  ∀ c ∈ before.constraints, c.kind = .unique → c ∈ after.constraints

/-- No row of the foreign key query has the name of a constraint of the table. -/
def NamesApart (folding : CaseFolding) (rows : List Row) (table : Table) : Prop :=
  ∀ c ∈ table.constraints, ∀ row ∈ rows, row.folded folding "constraint_name" ≠ .ok c.name

end Table

namespace TableBuilder

variable {folding : CaseFolding} {rows : List Row} {plain keys : List Constraint}
  {before after : TableBuilder}

/-- The constraints of one name among those of the foreign key query. -/
def keysOf (keys : List Constraint) (name : Value) : List Constraint :=
  keys.filter fun key => name == key.name

/-- What a table holds whose rows have been folded: the constraints of the index query, and behind
them those of the foreign key query. -/
structure Holds (folding : CaseFolding) (rows : List Row) (plain keys : List Constraint)
    (before after : TableBuilder) : Prop where
  before_eq : before.constraints = plain.foldl Constraint.into []
  after_eq : after.constraints = keys.foldl Constraint.into before.constraints
  plainNames : ∀ c ∈ plain, c.name.IsName
  isPlain : ∀ c ∈ plain, c.IsPlain
  keys_ok : rows.mapM (foreignKeyOfRow folding) = .ok keys
  rowNames : ∀ row ∈ rows, (row.fieldOrNull "constraint_name").IsName

namespace Holds

variable (holds : Holds folding rows plain keys before after)

include holds

theorem keyNames : ∀ key ∈ keys, key.name.IsName := by
  intro key hkey
  obtain ⟨row, hrow, hok⟩ := Error.mem_of_mapM holds.keys_ok hkey
  exact foreignKeyOfRow_isName (holds.rowNames row hrow) hok

theorem isReference : ∀ key ∈ keys, key.IsReference := by
  intro key hkey
  obtain ⟨row, hrow, hok⟩ := Error.mem_of_mapM holds.keys_ok hkey
  obtain ⟨hkind, -, ⟨column, -, hcolumns⟩, table, referenced, -, href⟩ := foreignKeyOfRow_ok hok
  exact ⟨hkind, ⟨column, hcolumns⟩, table, referenced, href⟩

theorem mem_before {c : Constraint} :
    c ∈ before.build.constraints ↔
      ∃ name, name.IsName ∧ get? name before.constraints = some c := by
  show c ∈ OrderedMap.values before.constraints ↔ _
  rw [holds.before_eq]
  exact Constraint.mem_values_foldl_into holds.plainNames

theorem mem_after {c : Constraint} :
    c ∈ after.build.constraints ↔ ∃ name, name.IsName ∧ get? name after.constraints = some c := by
  have names : ∀ c ∈ plain ++ keys, c.name.IsName := by
    intro c hc
    rcases List.mem_append.1 hc with hplain | hkey
    · exact holds.plainNames c hplain
    · exact holds.keyNames c hkey
  show c ∈ OrderedMap.values after.constraints ↔ _
  rw [holds.after_eq, holds.before_eq, ← List.foldl_append]
  exact Constraint.mem_values_foldl_into names

theorem isPlain_before {name : Value} {c : Constraint} (hname : name.IsName)
    (found : get? name before.constraints = some c) : c.IsPlain ∧ c.name = name :=
  Constraint.isPlain_of_get? holds.plainNames holds.isPlain hname (holds.before_eq ▸ found)

theorem get?_after {name : Value} (hname : name.IsName) :
    get? name after.constraints =
      (keysOf keys name).foldl Constraint.absorb (get? name before.constraints) := by
  have hkeys : OrderedMap.KeysIn Value.IsName before.constraints := by
    rw [holds.before_eq]
    exact Constraint.keysIn_foldl_into OrderedMap.keysIn_nil holds.plainNames
  rw [holds.after_eq]
  exact Constraint.get?_foldl_into hkeys holds.keyNames hname

theorem row_of_keysOf {name : Value} (hname : name.IsName) {key : Constraint}
    (hkey : key ∈ keysOf keys name) :
    ∃ row ∈ rows, row.folded folding "constraint_name" = .ok name := by
  obtain ⟨hmem, heq⟩ := List.mem_filter.1 hkey
  obtain ⟨row, hrow, hok⟩ := Error.mem_of_mapM holds.keys_ok hmem
  obtain rfl := (Value.lawfulOn_isName name key.name hname (holds.keyNames key hmem)).1 heq
  exact ⟨row, hrow, (foreignKeyOfRow_ok hok).2.1⟩

theorem keysOf_ne_nil {name : Value} (hname : name.IsName) {row : Row} (hrow : row ∈ rows)
    (hfold : row.folded folding "constraint_name" = .ok name) : keysOf keys name ≠ [] := by
  obtain ⟨key, hkey, hok⟩ := Error.exists_of_mapM holds.keys_ok hrow
  obtain rfl := Except.ok.inj (hfold.symm.trans (foreignKeyOfRow_ok hok).2.1)
  have hmem : key ∈ keysOf keys key.name :=
    List.mem_filter.2 ⟨hkey, Value.lawfulOn_isName.beq_self hname⟩
  exact List.ne_nil_of_mem hmem

/-- The rows of one foreign key are those of one name, as long as folding keeps names apart. -/
theorem ofSameKey_eq (distinct : ∀ row ∈ rows, ∀ other ∈ rows,
      row.folded folding "constraint_name" = other.folded folding "constraint_name" →
        row.fieldOrNull "constraint_name" = other.fieldOrNull "constraint_name")
    {name : Value} (hname : name.IsName) {row : Row} (hrow : row ∈ rows)
    (hfold : row.folded folding "constraint_name" = .ok name) :
    (Row.ofSameKey rows row).mapM (foreignKeyOfRow folding) = .ok (keysOf keys name) := by
  refine Error.mapM_filter (fun other hother key hok => ?_) holds.keys_ok
  have hkeyFold := (foreignKeyOfRow_ok hok).2.1
  have hkeyName := foreignKeyOfRow_isName (holds.rowNames other hother) hok
  have hraw := Value.lawfulOn_isName _ _ (holds.rowNames other hother) (holds.rowNames row hrow)
  have hfolded := Value.lawfulOn_isName name key.name hname hkeyName
  rw [Bool.eq_iff_iff, hraw, hfolded]
  constructor
  · intro hsame
    obtain ⟨raw, hfield, -⟩ := Error.ok_of_bind hfold
    obtain ⟨raw', hfield', -⟩ := Error.ok_of_bind hkeyFold
    rw [Row.field_ok hfield, Row.field_ok hfield'] at hsame
    subst hsame
    rw [Row.folded, hfield] at hfold
    rw [Row.folded, hfield'] at hkeyFold
    exact Except.ok.inj (hfold.symm.trans hkeyFold)
  · intro hsame
    exact distinct other hother row hrow (hkeyFold.trans (hsame ▸ hfold.symm))

theorem foreignKeysFollow (distinct : ∀ row ∈ rows, ∀ other ∈ rows,
      row.folded folding "constraint_name" = other.folded folding "constraint_name" →
        row.fieldOrNull "constraint_name" = other.fieldOrNull "constraint_name")
    (apart : before.build.NamesApart folding rows) :
    after.build.ForeignKeysFollow folding rows := by
  intro c hc hforeign
  obtain ⟨name, hname, found⟩ := holds.mem_after.1 hc
  rw [holds.get?_after hname] at found
  by_cases hkeys : keysOf keys name = []
  · -- without a row of its own the constraint would be one of the index query
    rw [hkeys] at found
    exact absurd hforeign (holds.isPlain_before hname found).1.1
  · have hrefs : ∀ key ∈ keysOf keys name, key.IsReference :=
      fun key hkey => holds.isReference key (List.mem_filter.1 hkey).1
    obtain ⟨key, hkey⟩ := List.exists_mem_of_ne_nil _ hkeys
    obtain ⟨row, hrow, hfold⟩ := holds.row_of_keysOf hname hkey
    have hnone : get? name before.constraints = none := by
      cases hget : get? name before.constraints with
      | none => rfl
      | some c' =>
        have hname' := (holds.isPlain_before hname hget).2
        exact absurd (hname' ▸ hfold) (apart c' (holds.mem_before.2 ⟨name, hname, hget⟩) row hrow)
    obtain ⟨c', target, hc', -, ⟨key', hmem, hname'⟩, hcolumns, href⟩ :=
      Constraint.foldl_absorb_references hkeys hrefs (get? name before.constraints)
    obtain rfl := Option.some.inj (hc'.symm.trans found)
    rw [hnone] at hcolumns href
    have hsame := holds.ofSameKey_eq distinct hname hrow hfold
    obtain ⟨hmemKeys, heq⟩ := List.mem_filter.1 hmem
    obtain rfl := (Value.lawfulOn_isName name key'.name hname (holds.keyNames key' hmemKeys)).1 heq
    refine ⟨row, hrow, hname' ▸ hfold, ?_, target, _, href, ?_, ?_⟩
    · rw [hcolumns]
      refine Error.mapM_of_mapM (fun other _ k hok => ?_) hsame
      obtain ⟨-, -, hcolumn, -⟩ := foreignKeyOfRow_ok hok
      exact hcolumn
    · refine Error.mapM_of_mapM (fun other _ k hok => ?_) hsame
      obtain ⟨-, -, -, table, referenced, hok', href'⟩ := foreignKeyOfRow_ok hok
      exact ⟨referenced, hok', by rw [href']; rfl⟩
    · rw [hcolumns]
      exact Constraint.length_flatMap_references hrefs

theorem keepsUniqueKeys (apart : before.build.NamesApart folding rows) :
    before.build.KeepsUniqueKeys after.build := by
  intro c hc _
  obtain ⟨name, hname, found⟩ := holds.mem_before.1 hc
  have hnil : keysOf keys name = [] := by
    refine List.eq_nil_iff_forall_not_mem.2 fun key hkey => ?_
    obtain ⟨row, hrow, hfold⟩ := holds.row_of_keysOf hname hkey
    exact apart c hc row hrow ((holds.isPlain_before hname found).2 ▸ hfold)
  refine holds.mem_after.2 ⟨name, hname, ?_⟩
  rw [holds.get?_after hname, hnil]
  exact found

/-- A foreign key with the name of a constraint on an index has columns that refer to nothing. -/
theorem namesApart (follow : after.build.ForeignKeysFollow folding rows) :
    before.build.NamesApart folding rows := by
  intro c hc row hrow hfold
  obtain ⟨name, hname, found⟩ := holds.mem_before.1 hc
  obtain ⟨⟨-, habsent, hcolumns⟩, rfl⟩ := holds.isPlain_before hname found
  have hkeys := holds.keysOf_ne_nil hname hrow hfold
  have hrefs : ∀ key ∈ keysOf keys c.name, key.IsReference :=
    fun key hkey => holds.isReference key (List.mem_filter.1 hkey).1
  obtain ⟨merged, target, hmerged, hkind, -, hcols, href⟩ :=
    Constraint.foldl_absorb_references hkeys hrefs (get? c.name before.constraints)
  have hmem : merged ∈ after.build.constraints :=
    holds.mem_after.2 ⟨c.name, hname, (holds.get?_after hname).trans hmerged⟩
  obtain ⟨-, -, -, -, target', referenced, href', -, hlength⟩ := follow merged hmem hkind
  obtain ⟨-, rfl⟩ := References.to.inj (href'.symm.trans href)
  -- the plain constraint brings a column to the foreign key, and nothing that it refers to
  rw [hcols, found, List.length_append, List.length_append,
    Constraint.length_flatMap_references hrefs] at hlength
  have hearlier : Constraint.referencedOf (some c) = [] := by
    show c.references.columns = []
    rw [habsent]
    rfl
  have hpos : 0 < (Constraint.columnsOf (some c)).length := List.length_pos_iff.2 hcolumns
  rw [hearlier] at hlength
  simp only [List.length_nil] at hlength
  omega

end Holds

/-! ### The rows of the three queries -/

theorem keyConstraints_isPlain {parts : List IndexPart} {c : Constraint}
    (hc : c ∈ keyConstraints parts) : c.IsPlain := by
  obtain ⟨part, hpart, rfl⟩ := List.mem_map.1 hc
  obtain ⟨-, hkind⟩ := List.mem_filter.1 hpart
  refine ⟨?_, rfl, List.cons_ne_nil _ _⟩
  show part.kind ≠ .foreign
  intro hforeign
  rw [hforeign] at hkind
  exact Bool.false_ne_true hkind

theorem addRows_append {builder after : TableBuilder} {first second : List TableRow}
    {written written' : List Record}
    (h : (builder.addRows folding (first ++ second)).Gives written after written') :
    ∃ middle records, (builder.addRows folding first).Gives written middle records ∧
      (middle.addRows folding second).Gives records after written' := by
  unfold addRows at h
  rw [List.foldlM_append] at h
  exact Noted.gives_bind h

theorem holds_of_addRows {name : Value} {columnRows indexRows : List Row}
    (indexNames : ∀ row ∈ indexRows, (row.fieldOrNull "name").IsName)
    (keyNames : ∀ row ∈ rows, (row.fieldOrNull "constraint_name").IsName)
    (hbefore : (({ name } : TableBuilder).addRows folding
      (columnRows.map .column ++ indexRows.map .index)).outcome.1 = .ok before)
    (hafter : (before.addRows folding (rows.map .foreignKey)).outcome.1 = .ok after) :
    ∃ plain keys, Holds folding rows plain keys before after := by
  obtain ⟨records, hgives⟩ := Noted.gives_of_outcome hbefore
  obtain ⟨middle, _, hcolumns, hindexes⟩ := addRows_append hgives
  obtain ⟨parts, hparts, hplain⟩ := addRows_indexes indexNames hindexes
  obtain ⟨_, hgives'⟩ := Noted.gives_of_outcome hafter
  obtain ⟨keys, hkeys, hafterEq⟩ := addRows_foreignKeys keyNames hgives'
  refine ⟨keyConstraints parts, keys, ?_, hafterEq, ?_, fun c hc => keyConstraints_isPlain hc,
    hkeys, keyNames⟩
  · rw [hplain, addRows_columns hcolumns]
  · intro c hc
    obtain ⟨part, hpart, rfl⟩ := List.mem_map.1 hc
    obtain ⟨row, hrow, hok⟩ := Error.mem_of_mapM hparts (List.mem_filter.1 hpart).1
    exact indexPartOfRow_isName (indexNames row hrow) hok

/-- Foreign keys that folding keeps apart from each other follow their rows, and leave the unique
keys of the table as they are, exactly when none of them has the name of a key on an index. -/
theorem foreign_keys_follow_rows_iff {name : Value} {columnRows indexRows : List Row}
    (indexNames : ∀ row ∈ indexRows, (row.fieldOrNull "name").IsName)
    (keyNames : ∀ row ∈ rows, (row.fieldOrNull "constraint_name").IsName)
    (distinct : ∀ row ∈ rows, ∀ other ∈ rows,
      row.folded folding "constraint_name" = other.folded folding "constraint_name" →
        row.fieldOrNull "constraint_name" = other.fieldOrNull "constraint_name")
    (hbefore : (({ name } : TableBuilder).addRows folding
      (columnRows.map .column ++ indexRows.map .index)).outcome.1 = .ok before)
    (hafter : (before.addRows folding (rows.map .foreignKey)).outcome.1 = .ok after) :
    (after.build.ForeignKeysFollow folding rows ∧ before.build.KeepsUniqueKeys after.build) ↔
      before.build.NamesApart folding rows := by
  obtain ⟨plain, keys, holds⟩ := holds_of_addRows indexNames keyNames hbefore hafter
  constructor
  · intro h
    exact holds.namesApart h.1
  · intro apart
    exact ⟨holds.foreignKeysFollow distinct apart, holds.keepsUniqueKeys apart⟩

def uniqueRow (name column : String) : Row :=
  [("name", .text name), ("column_name", .text column), ("is_primary", .null),
    ("is_unique", .int 1)]

def departmentRow (name column referenced : String) : Row :=
  [("constraint_name", .text name), ("column_name", .text column),
    ("referenced_owner", .text "HR"), ("referenced_table_name", .text "DEPT"),
    ("referenced_column_name", .text referenced), ("delete_rule", .text "CASCADE")]

theorem two_column_foreign_key_follows_rows :
    ∃ before after,
      (({ name := .text "EMP" } : TableBuilder).addRows .lower
        ([].map .column ++ [uniqueRow "EMP_U1" "NO"].map .index)).outcome.1 = .ok before ∧
      (before.addRows .lower ([departmentRow "EMP_F1" "DEPT" "NO",
        departmentRow "EMP_F1" "SITE" "PLACE"].map .foreignKey)).outcome.1 = .ok after ∧
      after.build.ForeignKeysFollow .lower
        [departmentRow "EMP_F1" "DEPT" "NO", departmentRow "EMP_F1" "SITE" "PLACE"] ∧
      before.build.KeepsUniqueKeys after.build := by
  have hbefore : (({ name := .text "EMP" } : TableBuilder).addRows .lower
      ([].map .column ++ [uniqueRow "EMP_U1" "NO"].map .index)).outcome.1 = .ok _ := rfl
  have names : ∀ row ∈ [departmentRow "EMP_F1" "DEPT" "NO", departmentRow "EMP_F1" "SITE" "PLACE"],
      row.fieldOrNull "constraint_name" = .text "EMP_F1" ∧
        row.folded .lower "constraint_name" = .ok (.text "emp_f1") := by
    intro row hrow
    rcases List.mem_cons.1 hrow with rfl | hrow
    · exact ⟨rfl, rfl⟩
    · obtain rfl := List.mem_singleton.1 hrow
      exact ⟨rfl, rfl⟩
  refine ⟨_, _, hbefore, rfl, (foreign_keys_follow_rows_iff ?_ ?_ ?_ hbefore rfl).2 ?_⟩
  · intro row hrow
    obtain rfl := List.mem_singleton.1 hrow
    exact Value.isName_text _
  · intro row hrow
    rw [(names row hrow).1]
    exact Value.isName_text _
  · intro row hrow other hother _
    rw [(names row hrow).1, (names other hother).1]
  · intro c hc row hrow hsame
    obtain rfl := List.mem_singleton.1 hc
    have hequal := Value.text.inj (Except.ok.inj ((names row hrow).2.symm.trans hsame))
    exact absurd hequal (by decide)

/-- A unique index and a foreign key of one name: the one constraint that is left has two columns,
one of which refers to nothing, and the unique key is gone. -/
theorem foreign_key_of_shared_name_has_unreferenced_column :
    ∃ before after,
      (({ name := .text "EMP" } : TableBuilder).addRows .lower
        ([].map .column ++ [uniqueRow "K" "A"].map .index)).outcome.1 = .ok before ∧
      (before.addRows .lower ([departmentRow "K" "B" "C"].map .foreignKey)).outcome.1 = .ok after ∧
      after.build.constraints = [{
        name := .text "k", kind := .foreign, columns := [.text "a", .text "b"]
        references := .to (.text "hr.dept") [.text "c"]
        onDelete := some .cascade, onUpdate := some .setNull }] ∧
      ¬ after.build.ForeignKeysFollow .lower [departmentRow "K" "B" "C"] ∧
      ¬ before.build.KeepsUniqueKeys after.build := by
  refine ⟨_, _, rfl, rfl, rfl, ?_, ?_⟩
  · intro follow
    obtain ⟨_, _, _, _, _, _, href, _, hlength⟩ := follow _ List.mem_cons_self rfl
    obtain ⟨-, rfl⟩ := References.to.inj href
    exact absurd hlength (by decide)
  · intro keeps
    have hmem := keeps _ List.mem_cons_self rfl
    obtain heq := List.mem_singleton.1 hmem
    exact KeyKind.noConfusion (congrArg Constraint.kind heq)

end TableBuilder

end OracleCatalog
