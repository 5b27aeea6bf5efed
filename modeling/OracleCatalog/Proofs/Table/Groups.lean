import OracleCatalog.Proofs.Table.ForeignKeys
import OracleCatalog.Proofs.Table.Rows

/-!
# Keys of a described table as groups of rows

Where no name is used by keys of two kinds, the rows of the index query and of the foreign key query
are grouped by their names: every name gives one constraint or one index, with a column for each of
its rows. How the rows of different keys are mixed does not matter.
-/

namespace OracleCatalog

open OracleCatalog.OrderedMap (KeysIn keys values get?)

/-! ### What one name comes to -/

namespace Constraint

theorem columnsOf_foldl_absorb (group : List Constraint) (earlier : Option Constraint) :
    columnsOf (group.foldl absorb earlier) = columnsOf earlier ++ group.flatMap (·.columns) := by
  refine OrderedMap.foldl_join_append ?_ group earlier
  intro earlier c
  cases earlier <;> rfl

theorem namedBy_foldl_into {constraints : List Constraint}
    (names : ∀ c ∈ constraints, c.name.IsName) :
    OrderedMap.NamedBy (·.name) (constraints.foldl into []) :=
  OrderedMap.namedBy_foldl_gather Value.lawfulOn_isName OrderedMap.keysIn_nil OrderedMap.namedBy_nil
    names onto_name

end Constraint

namespace Index

theorem columnsOf_foldl_absorb (group : List Constraint) (earlier : Option Index) :
    columnsOf (group.foldl absorb earlier) = columnsOf earlier ++ group.flatMap (·.columns) :=
  OrderedMap.foldl_join_append (fun _ _ => rfl) group earlier

theorem namedBy_foldl_into {parts : List Constraint} (names : ∀ c ∈ parts, c.name.IsName) :
    OrderedMap.NamedBy (·.name) (parts.foldl into []) :=
  OrderedMap.namedBy_foldl_gather Value.lawfulOn_isName OrderedMap.keysIn_nil OrderedMap.namedBy_nil
    names fun _ _ => rfl

end Index

/-! ### Groups of rows -/

namespace KeyRow

variable {folding : CaseFolding} {rows : List KeyRow}

def named (folding : CaseFolding) (rows : List KeyRow) (name : Value) : List KeyRow :=
  rows.filter fun row => name == row.name folding

/-- No name is used by keys of two kinds. -/
def OneKind (folding : CaseFolding) (rows : List KeyRow) : Prop :=
  ∀ row ∈ rows, ∀ other ∈ rows, row.name folding = other.name folding → row.kind = other.kind

/-- What the rows of some kinds stand for. -/
def keysWhere (folding : CaseFolding) (p : KeyKind → Bool) (rows : List KeyRow) :
    List Constraint :=
  (rows.filter fun row => p row.kind).map (key folding)

variable {p : KeyKind → Bool}

theorem map_name_keysWhere : (keysWhere folding p rows).map (·.name) =
    (rows.filter fun row => p row.kind).map (·.name folding) := by
  unfold keysWhere
  rw [List.map_map]
  exact List.map_congr_left fun row _ => key_name folding row

theorem keysWhere_names (folding : CaseFolding) (p : KeyKind → Bool)
    (readable : ∀ row ∈ rows, row.IsReadable) : ∀ c ∈ keysWhere folding p rows, c.name.IsName := by
  intro c hc
  obtain ⟨row, hrow, rfl⟩ := List.mem_map.1 hc
  rw [key_name]
  exact (readable row (List.mem_filter.1 hrow).1).name_isName folding

theorem filter_keysWhere (name : Value) :
    (keysWhere folding p rows).filter (fun c => name == c.name) =
      keysWhere folding p (named folding rows name) := by
  have hname : (fun c : Constraint => name == c.name) ∘ key folding =
      fun row => name == row.name folding :=
    funext fun row => congrArg (name == ·) (key_name folding row)
  unfold keysWhere named
  rw [List.filter_map, hname, List.filter_filter, List.filter_filter]
  exact congrArg _ (List.filter_congr fun row _ => Bool.and_comm _ _)

theorem mem_named {name : Value} (readable : ∀ row ∈ rows, row.IsReadable) (hname : name.IsName)
    {row : KeyRow} : row ∈ named folding rows name ↔ row ∈ rows ∧ row.name folding = name := by
  unfold named
  rw [List.mem_filter]
  refine and_congr_right fun hrow => ?_
  rw [Value.lawfulOn_isName name _ hname ((readable row hrow).name_isName folding), eq_comm]

/-- What the rows of a name come to is made of one of them last. -/
theorem exists_last {α : Type} {join : Option α → Constraint → α} {value : α} {name : Value}
    (readable : ∀ row ∈ rows, row.IsReadable) (hname : name.IsName)
    (h : (keysWhere folding p (named folding rows name)).foldl
      (fun earlier key => some (join earlier key)) none = some value) :
    ∃ row ∈ rows, p row.kind = true ∧ row.name folding = name ∧
      ∃ before, value = join before (row.key folding) := by
  rcases OrderedMap.exists_of_foldl_join h with ⟨hnone, -⟩ | ⟨before, last, hlast, heq⟩
  · cases hnone
  obtain ⟨row, hrow, rfl⟩ := List.mem_map.1 hlast
  obtain ⟨hnamed, hkind⟩ := List.mem_filter.1 hrow
  obtain ⟨hmem, hsame⟩ := (mem_named readable hname).1 hnamed
  exact ⟨row, hmem, hkind, hsame, before, heq⟩

/-- Where one row of a name is of some kinds, all rows of that name are. -/
theorem keysWhere_named (readable : ∀ row ∈ rows, row.IsReadable) (oneKind : OneKind folding rows)
    {row : KeyRow} (hrow : row ∈ rows) (hkind : p row.kind = true) :
    keysWhere folding p (named folding rows (row.name folding)) =
      (named folding rows (row.name folding)).map (key folding) := by
  have hname := (readable row hrow).name_isName folding
  unfold keysWhere
  rw [List.filter_eq_self.2]
  intro other hother
  obtain ⟨hmem, hsame⟩ := (mem_named readable hname).1 hother
  rw [oneKind other hmem row hrow hsame]
  exact hkind

theorem flatMap_columns (rows : List KeyRow) :
    (rows.map (key folding)).flatMap (·.columns) = rows.map (·.column folding) := by
  rw [List.flatMap_map, List.map_eq_flatMap]
  exact congrArg (List.flatMap · rows) (funext fun row => key_columns folding row)

theorem key_isReference {row : KeyRow} (h : row.kind = .foreign) :
    (row.key folding).IsReference ∧
      (row.key folding).references.columns = [row.referenced folding] := by
  cases row with
  | index row => exact absurd h row.keyKind_ne_foreign
  | foreignKey row => exact ⟨⟨rfl, ⟨_, rfl⟩, _, _, rfl⟩, rfl⟩

theorem flatMap_referenced {rows : List KeyRow} (h : ∀ row ∈ rows, row.kind = .foreign) :
    (rows.map (key folding)).flatMap (·.references.columns) = rows.map (·.referenced folding) := by
  induction rows with
  | nil => rfl
  | cons row rest ih =>
    obtain ⟨hrow, hrest⟩ := List.forall_mem_cons.1 h
    rw [List.map_cons, List.flatMap_cons, (key_isReference hrow).2, ih hrest]
    rfl

end KeyRow

/-! ### Tables -/

/-- The constraints and the indexes of a table are the groups of rows by name. -/
structure Table.GroupsRows (folding : CaseFolding) (rows : List KeyRow) (table : Table) : Prop where
  /-- The names stand in the order of their first rows. -/
  constraintNames : table.constraints.map (·.name) =
    ((rows.filter (·.kind != .index)).map (·.name folding)).eraseDups
  indexNames : table.indexes.map (·.name) =
    ((rows.filter (·.kind == .index)).map (·.name folding)).eraseDups
  /-- Every name of a row is the name of one constraint or of one index. -/
  names : (table.constraints.map (·.name) ++ table.indexes.map (·.name)).Nodup ∧
    ∀ name, name ∈ table.constraints.map (·.name) ++ table.indexes.map (·.name) ↔
      name ∈ rows.map (·.name folding)
  constraints : ∀ c ∈ table.constraints,
    (∀ row ∈ KeyRow.named folding rows c.name, row.kind = c.kind) ∧
    c.columns = (KeyRow.named folding rows c.name).map (·.column folding) ∧
    (c.kind = .foreign → ∃ target,
      c.references = .to target ((KeyRow.named folding rows c.name).map (·.referenced folding)))
  indexes : ∀ index ∈ table.indexes,
    (∀ row ∈ KeyRow.named folding rows index.name, row.kind = .index) ∧
    index.columns = (KeyRow.named folding rows index.name).map (·.column folding)

namespace TableBuilder

variable {folding : CaseFolding} {rows : List KeyRow} {builder : TableBuilder}

def addKeys (folding : CaseFolding) (builder : TableBuilder) (rows : List KeyRow) : TableBuilder :=
  (rows.map (KeyRow.key folding)).foldl addKey builder

theorem constraints_addKeys (h : builder.constraints = []) :
    (builder.addKeys folding rows).constraints =
      (KeyRow.keysWhere folding (· != .index) rows).foldl Constraint.into [] := by
  have hkind : (fun c : Constraint => c.kind != .index) ∘ KeyRow.key folding =
      fun row => row.kind != .index :=
    funext fun row => congrArg (· != KeyKind.index) (KeyRow.key_kind folding row)
  rw [addKeys, constraints_foldl_addKey, h, List.filter_map, hkind]
  rfl

theorem indexes_addKeys (h : builder.indexes = []) :
    (builder.addKeys folding rows).indexes =
      (KeyRow.keysWhere folding (· == .index) rows).foldl Index.into [] := by
  have hkind : (fun c : Constraint => c.kind == .index) ∘ KeyRow.key folding =
      fun row => row.kind == .index :=
    funext fun row => congrArg (· == KeyKind.index) (KeyRow.key_kind folding row)
  rw [addKeys, indexes_foldl_addKey, h, List.filter_map, hkind]
  rfl

section Readable

variable (readable : ∀ row ∈ rows, row.IsReadable)

include readable

theorem get?_constraints_addKeys (h : builder.constraints = []) {name : Value}
    (hname : name.IsName) :
    get? name (builder.addKeys folding rows).constraints =
      (KeyRow.keysWhere folding (· != .index) (KeyRow.named folding rows name)).foldl
        Constraint.absorb none := by
  rw [constraints_addKeys h, Constraint.get?_foldl_into OrderedMap.keysIn_nil
    (KeyRow.keysWhere_names folding _ readable) hname, KeyRow.filter_keysWhere]
  rfl

theorem get?_indexes_addKeys (h : builder.indexes = []) {name : Value} (hname : name.IsName) :
    get? name (builder.addKeys folding rows).indexes =
      (KeyRow.keysWhere folding (· == .index) (KeyRow.named folding rows name)).foldl
        Index.absorb none := by
  rw [indexes_addKeys h]
  refine (OrderedMap.get?_foldl_gather Value.lawfulOn_isName OrderedMap.keysIn_nil
    (KeyRow.keysWhere_names folding _ readable) hname).trans ?_
  rw [KeyRow.filter_keysWhere]
  rfl

theorem get?_name_of_mem_constraints (h : builder.constraints = []) {c : Constraint}
    (hc : c ∈ (builder.addKeys folding rows).build.constraints) :
    c.name.IsName ∧ get? c.name (builder.addKeys folding rows).constraints = some c := by
  have names := KeyRow.keysWhere_names folding (· != .index) readable
  have hvalues : c ∈ values (builder.addKeys folding rows).constraints := hc
  rw [constraints_addKeys h] at hvalues ⊢
  exact (Constraint.namedBy_foldl_into names).get?_of_mem_values Value.lawfulOn_isName
    (Constraint.keysIn_foldl_into OrderedMap.keysIn_nil names)
    (Constraint.nodup_foldl_into OrderedMap.keysIn_nil List.nodup_nil names) hvalues

theorem get?_name_of_mem_indexes (h : builder.indexes = []) {index : Index}
    (hindex : index ∈ (builder.addKeys folding rows).build.indexes) :
    index.name.IsName ∧ get? index.name (builder.addKeys folding rows).indexes = some index := by
  have names := KeyRow.keysWhere_names folding (· == .index) readable
  have hvalues : index ∈ values (builder.addKeys folding rows).indexes := hindex
  rw [indexes_addKeys h] at hvalues ⊢
  exact (Index.namedBy_foldl_into names).get?_of_mem_values Value.lawfulOn_isName
    (OrderedMap.keysIn_foldl_gather OrderedMap.keysIn_nil names)
    (OrderedMap.nodup_foldl_gather Value.lawfulOn_isName OrderedMap.keysIn_nil List.nodup_nil names)
    hvalues

theorem constraint_of_rows (oneKind : KeyRow.OneKind folding rows) (h : builder.constraints = [])
    {c : Constraint} (hc : c ∈ (builder.addKeys folding rows).build.constraints) :
    (∀ row ∈ KeyRow.named folding rows c.name, row.kind = c.kind) ∧
    c.columns = (KeyRow.named folding rows c.name).map (·.column folding) ∧
    (c.kind = .foreign → ∃ target, c.references =
      .to target ((KeyRow.named folding rows c.name).map (·.referenced folding))) := by
  obtain ⟨hname, hget⟩ := get?_name_of_mem_constraints readable h hc
  rw [get?_constraints_addKeys readable h hname] at hget
  -- the last row of the name gives the kind, and with it all rows of the name
  obtain ⟨row, hmem, hkind, hsame, before, heq⟩ := KeyRow.exists_last readable hname hget
  have hckind : c.kind = row.kind := by
    rw [heq, Constraint.onto_kind, KeyRow.key_kind]
  have hall : ∀ other ∈ KeyRow.named folding rows c.name, other.kind = c.kind := by
    intro other hother
    obtain ⟨hmem', hsame'⟩ := (KeyRow.mem_named readable hname).1 hother
    rw [hckind]
    exact oneKind other hmem' row hmem (hsame'.trans hsame.symm)
  have hwhere := KeyRow.keysWhere_named (p := (· != .index)) readable oneKind hmem hkind
  rw [hsame] at hwhere
  rw [hwhere] at hget
  refine ⟨hall, ?_, ?_⟩
  · have hcolumns := Constraint.columnsOf_foldl_absorb
      ((KeyRow.named folding rows c.name).map (KeyRow.key folding)) none
    rw [hget, KeyRow.flatMap_columns] at hcolumns
    exact hcolumns
  · intro hforeign
    have hreferences : ∀ key ∈ (KeyRow.named folding rows c.name).map (KeyRow.key folding),
        key.IsReference := by
      intro key hkey
      obtain ⟨other, hother, rfl⟩ := List.mem_map.1 hkey
      exact (KeyRow.key_isReference ((hall other hother).trans hforeign)).1
    have hnamed := (KeyRow.mem_named readable hname).2 ⟨hmem, hsame⟩
    have hne : (KeyRow.named folding rows c.name).map (KeyRow.key folding) ≠ [] :=
      List.ne_nil_of_mem (List.mem_map.2 ⟨row, hnamed, rfl⟩)
    obtain ⟨c', target, hc', -, -, -, href⟩ :=
      Constraint.foldl_absorb_references hne hreferences none
    obtain rfl := Option.some.inj (hc'.symm.trans hget)
    rw [KeyRow.flatMap_referenced fun other hother => (hall other hother).trans hforeign] at href
    exact ⟨target, href⟩

theorem index_of_rows (oneKind : KeyRow.OneKind folding rows) (h : builder.indexes = [])
    {index : Index} (hindex : index ∈ (builder.addKeys folding rows).build.indexes) :
    (∀ row ∈ KeyRow.named folding rows index.name, row.kind = .index) ∧
    index.columns = (KeyRow.named folding rows index.name).map (·.column folding) := by
  obtain ⟨hname, hget⟩ := get?_name_of_mem_indexes readable h hindex
  rw [get?_indexes_addKeys readable h hname] at hget
  obtain ⟨row, hmem, hkind, hsame, -⟩ := KeyRow.exists_last readable hname hget
  have hwhere := KeyRow.keysWhere_named (p := (· == .index)) readable oneKind hmem hkind
  rw [hsame] at hwhere
  rw [hwhere] at hget
  constructor
  · intro other hother
    obtain ⟨hmem', hsame'⟩ := (KeyRow.mem_named readable hname).1 hother
    rw [oneKind other hmem' row hmem (hsame'.trans hsame.symm)]
    exact beq_iff_eq.1 hkind
  · have hcolumns := Index.columnsOf_foldl_absorb
      ((KeyRow.named folding rows index.name).map (KeyRow.key folding)) none
    rw [hget, KeyRow.flatMap_columns] at hcolumns
    exact hcolumns

theorem constraintNames_addKeys (folding : CaseFolding) (h : builder.constraints = []) :
    (builder.addKeys folding rows).build.constraints.map (·.name) =
        ((rows.filter (·.kind != .index)).map (·.name folding)).eraseDups ∧
      ((builder.addKeys folding rows).build.constraints.map (·.name)).Nodup ∧
      ∀ name, name ∈ (builder.addKeys folding rows).build.constraints.map (·.name) ↔
        name ∈ (rows.filter (·.kind != .index)).map (·.name folding) := by
  show (values (builder.addKeys folding rows).constraints).map (·.name) = _ ∧
    ((values (builder.addKeys folding rows).constraints).map (·.name)).Nodup ∧
    ∀ name, name ∈ (values (builder.addKeys folding rows).constraints).map (·.name) ↔ _
  rw [constraints_addKeys h, ← KeyRow.map_name_keysWhere (p := (· != .index))]
  exact OrderedMap.gathered_names Value.lawfulOn_isName (KeyRow.keysWhere_names folding _ readable)
    Constraint.onto_name

theorem indexNames_addKeys (folding : CaseFolding) (h : builder.indexes = []) :
    (builder.addKeys folding rows).build.indexes.map (·.name) =
        ((rows.filter (·.kind == .index)).map (·.name folding)).eraseDups ∧
      ((builder.addKeys folding rows).build.indexes.map (·.name)).Nodup ∧
      ∀ name, name ∈ (builder.addKeys folding rows).build.indexes.map (·.name) ↔
        name ∈ (rows.filter (·.kind == .index)).map (·.name folding) := by
  show (values (builder.addKeys folding rows).indexes).map (·.name) = _ ∧
    ((values (builder.addKeys folding rows).indexes).map (·.name)).Nodup ∧
    ∀ name, name ∈ (values (builder.addKeys folding rows).indexes).map (·.name) ↔ _
  rw [indexes_addKeys h, ← KeyRow.map_name_keysWhere (p := (· == .index))]
  exact OrderedMap.gathered_names Value.lawfulOn_isName (KeyRow.keysWhere_names folding _ readable)
    fun _ _ => rfl

theorem groupsRows_addKeys (oneKind : KeyRow.OneKind folding rows)
    (hconstraints : builder.constraints = []) (hindexes : builder.indexes = []) :
    (builder.addKeys folding rows).build.GroupsRows folding rows := by
  obtain ⟨hcnames, hcnodup, hcmem⟩ :=
    constraintNames_addKeys readable folding hconstraints
  obtain ⟨hinames, hinodup, himem⟩ := indexNames_addKeys readable folding hindexes
  refine ⟨hcnames, hinames, ⟨?_, ?_⟩,
    fun c hc => constraint_of_rows readable oneKind hconstraints hc,
    fun index hi => index_of_rows readable oneKind hindexes hi⟩
  · refine List.nodup_append.2 ⟨hcnodup, hinodup, ?_⟩
    intro a ha b hb hab
    obtain ⟨row, hrow, rfl⟩ := List.mem_map.1 ((hcmem a).1 ha)
    obtain ⟨other, hother, rfl⟩ := List.mem_map.1 ((himem b).1 hb)
    obtain ⟨hmem, hkind⟩ := List.mem_filter.1 hrow
    obtain ⟨hmem', hkind'⟩ := List.mem_filter.1 hother
    rw [oneKind row hmem other hmem' hab, bne, hkind'] at hkind
    cases hkind
  · intro name
    rw [List.mem_append, hcmem, himem, ← List.mem_append, ← List.map_append, List.mem_map,
      List.mem_map]
    refine exists_congr fun row => and_congr_left fun _ => ?_
    rw [List.mem_append, List.mem_filter, List.mem_filter, ← and_or_left, bne]
    refine and_iff_left ?_
    cases row.kind == .index
    · exact .inl rfl
    · exact .inr rfl

theorem constraint?_addKeys (h : builder.constraints = []) {name : Value} (hname : name.IsName) :
    (builder.addKeys folding rows).build.constraint? name =
      (KeyRow.keysWhere folding (· != .index) (KeyRow.named folding rows name)).foldl
        Constraint.absorb none := by
  have names := KeyRow.keysWhere_names folding (· != .index) readable
  rw [← get?_constraints_addKeys readable h hname]
  show (values (builder.addKeys folding rows).constraints).find? (·.name == name) = _
  rw [constraints_addKeys h]
  exact (Constraint.namedBy_foldl_into names).find?_values Value.lawfulOn_isName
    (Constraint.keysIn_foldl_into OrderedMap.keysIn_nil names) hname

theorem index?_addKeys (h : builder.indexes = []) {name : Value} (hname : name.IsName) :
    (builder.addKeys folding rows).build.index? name =
      (KeyRow.keysWhere folding (· == .index) (KeyRow.named folding rows name)).foldl
        Index.absorb none := by
  have names := KeyRow.keysWhere_names folding (· == .index) readable
  rw [← get?_indexes_addKeys readable h hname]
  show (values (builder.addKeys folding rows).indexes).find? (·.name == name) = _
  rw [indexes_addKeys h]
  exact (Index.namedBy_foldl_into names).find?_values Value.lawfulOn_isName
    (OrderedMap.keysIn_foldl_gather OrderedMap.keysIn_nil names) hname

end Readable

/-- Rows of keys, no name of which is used by two kinds, are grouped by their names. Any order of
the rows that leaves the rows of each name in their order gives the same constraints and indexes. -/
theorem addRows_groups_rows (hconstraints : builder.constraints = [])
    (hindexes : builder.indexes = []) (readable : ∀ row ∈ rows, row.IsReadable)
    (oneKind : KeyRow.OneKind folding rows) :
    ∃ after, (builder.addRows folding (rows.map KeyRow.toTableRow)).outcome = (.ok after, []) ∧
      after.build.GroupsRows folding rows ∧
      ∀ reordered, reordered.Perm rows →
        (∀ row ∈ rows, KeyRow.named folding reordered (row.name folding) =
          KeyRow.named folding rows (row.name folding)) →
        ∃ other,
          (builder.addRows folding (reordered.map KeyRow.toTableRow)).outcome = (.ok other, []) ∧
          ∀ name, name.IsName → other.build.constraint? name = after.build.constraint? name ∧
            other.build.index? name = after.build.index? name := by
  refine ⟨builder.addKeys folding rows, ?_, ?_, ?_⟩
  · rw [addRows_keys folding readable]
    rfl
  · exact groupsRows_addKeys readable oneKind hconstraints hindexes
  intro reordered hperm same
  have readable' : ∀ row ∈ reordered, row.IsReadable := fun row hrow =>
    readable row (hperm.mem_iff.1 hrow)
  have hnamed : ∀ name, name.IsName →
      KeyRow.named folding reordered name = KeyRow.named folding rows name := by
    intro name hname
    by_cases hrow : ∃ row ∈ rows, row.name folding = name
    · obtain ⟨row, hrow, rfl⟩ := hrow
      exact same row hrow
    · have hnone : ∀ {list : List KeyRow}, (∀ row ∈ list, row ∈ rows) →
          KeyRow.named folding list name = [] := by
        intro list hsub
        refine List.eq_nil_iff_forall_not_mem.2 fun row hmem => ?_
        have hin := (List.mem_filter.1 hmem).1
        obtain ⟨-, heq⟩ := (KeyRow.mem_named (fun row h => readable row (hsub row h)) hname).1 hmem
        exact hrow ⟨row, hsub row hin, heq⟩
      rw [hnone fun row h => hperm.mem_iff.1 h, hnone fun row h => h]
  refine ⟨builder.addKeys folding reordered, ?_, ?_⟩
  · rw [addRows_keys folding readable']
    rfl
  · intro name hname
    rw [constraint?_addKeys readable' hconstraints hname,
      constraint?_addKeys readable hconstraints hname, index?_addKeys readable' hindexes hname,
      index?_addKeys readable hindexes hname, hnamed name hname]
    exact ⟨rfl, rfl⟩

theorem uniqueRow_isReadable (name column : String) :
    (KeyRow.index (uniqueRow name column)).IsReadable :=
  ⟨⟨_, rfl, Value.isName_text name⟩, ⟨_, rfl, Value.isName_text column⟩, ⟨.unique, rfl⟩⟩

theorem departmentRow_isReadable (name column referenced : String) :
    (KeyRow.foreignKey (departmentRow name column referenced)).IsReadable :=
  ⟨⟨_, rfl, Value.isName_text name⟩, ⟨_, rfl, Value.isName_text column⟩, ⟨_, rfl⟩, ⟨_, rfl⟩,
    ⟨_, rfl, Value.isName_text referenced⟩, ⟨.cascade, rfl⟩⟩

/-- The rows of a unique key of two columns with a row of a foreign key between them. -/
def mixedRows : List KeyRow :=
  [.index (uniqueRow "EMP_U1" "NO"), .foreignKey (departmentRow "EMP_F1" "DEPT" "NO"),
    .index (uniqueRow "EMP_U1" "SITE")]

def sortedRows : List KeyRow :=
  [.index (uniqueRow "EMP_U1" "NO"), .index (uniqueRow "EMP_U1" "SITE"),
    .foreignKey (departmentRow "EMP_F1" "DEPT" "NO")]

theorem mixed_rows_grouped :
    ∃ after, (({ name := .text "EMP" } : TableBuilder).addRows .lower
        (mixedRows.map KeyRow.toTableRow)).outcome = (.ok after, []) ∧
      after.build.GroupsRows .lower mixedRows ∧
      ∃ other, (({ name := .text "EMP" } : TableBuilder).addRows .lower
          (sortedRows.map KeyRow.toTableRow)).outcome = (.ok other, []) ∧
        ∀ name, name.IsName → other.build.constraint? name = after.build.constraint? name ∧
          other.build.index? name = after.build.index? name := by
  have hmem : ∀ {row : KeyRow}, row ∈ mixedRows → row = .index (uniqueRow "EMP_U1" "NO") ∨
      row = .foreignKey (departmentRow "EMP_F1" "DEPT" "NO") ∨
      row = .index (uniqueRow "EMP_U1" "SITE") := by
    intro row hrow
    rw [mixedRows, List.mem_cons, List.mem_cons, List.mem_singleton] at hrow
    exact hrow
  have readable : ∀ row ∈ mixedRows, row.IsReadable := by
    intro row hrow
    rcases hmem hrow with rfl | rfl | rfl
    · exact uniqueRow_isReadable _ _
    · exact departmentRow_isReadable _ _ _
    · exact uniqueRow_isReadable _ _
  have oneKind : KeyRow.OneKind .lower mixedRows := by
    intro row hrow other hother hsame
    rcases hmem hrow with rfl | rfl | rfl <;> rcases hmem hother with rfl | rfl | rfl <;>
      first
        | rfl
        | exact absurd (Value.text.inj hsame) (by decide)
  have hperm : sortedRows.Perm mixedRows := .cons _ (.swap _ _ _)
  have hsame : ∀ row ∈ mixedRows, KeyRow.named .lower sortedRows (row.name .lower) =
      KeyRow.named .lower mixedRows (row.name .lower) := by
    intro row hrow
    rcases hmem hrow with rfl | rfl | rfl <;> rfl
  have hconstraints : ({ name := .text "EMP" } : TableBuilder).constraints = [] := rfl
  have hindexes : ({ name := .text "EMP" } : TableBuilder).indexes = [] := rfl
  obtain ⟨after, hafter, hgroups, hreordered⟩ :=
    addRows_groups_rows hconstraints hindexes readable oneKind
  exact ⟨after, hafter, hgroups, hreordered sortedRows hperm hsame⟩

end TableBuilder

end OracleCatalog
