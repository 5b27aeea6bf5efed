import OracleCatalog.Proofs.DataType.Mapped
import OracleCatalog.Proofs.Routine.Arguments
import OracleCatalog.Proofs.Table.Columns
import Mathlib.Data.List.Forall2
import Mathlib.Data.List.Induction

/-!
# Tables of the column query

No type of a column ends the description of a table. Every row of the column query becomes a column,
in the order of the rows, and a type that belongs to no family is kept by its name and noted once.
-/

namespace OracleCatalog

open OracleCatalog.OrderedMap (KeysIn keys values)
open OracleCatalog.Text

theorem CatalogType.ofFields_of_isText {name : Value} (h : name.IsText)
    (length precision scale : Option Int) (cursors : Bool) :
    ofFields name (Value.ofInt? length) (Value.ofInt? precision) (Value.ofInt? scale) cursors =
      .ok (ofName (upper name.toText) length precision scale cursors) := by
  obtain ⟨s, rfl⟩ := h
  exact ofFields_text s length precision scale cursors

/-- The record about a type that belongs to no family. -/
def unmappedNote (owner column : Value) (typeName : String) : Record where
  channel := .dialect
  level := .warning
  text := "Catalog type '" ++ typeName ++ "' of " ++ owner.toText ++ "." ++ column.toText ++
    " has no abstract mapping"

/-! ### Cells -/

namespace Row

/-- What a row holds under a field name in any letter case, the later of two; null where it holds
nothing. -/
def cell (field : String) (raw : Entries) : Value :=
  ((raw.reverse.find? fun entry => lower entry.1.toText == field).map (·.2)).getD .null

theorem get?_ofEntries (field : String) (raw : Entries) :
    OrderedMap.get? field (ofEntries raw) =
      (raw.reverse.find? fun entry => lower entry.1.toText == field).map (·.2) := by
  unfold ofEntries OrderedMap.ofEntries OrderedMap.update
  induction raw using List.reverseRecOn with
  | nil => rfl
  | append_singleton front entry ih =>
    rw [List.map_append, List.foldl_append, List.map_singleton, List.foldl_cons, List.foldl_nil,
      List.reverse_append, List.reverse_singleton, List.singleton_append, List.find?_cons]
    by_cases hfield : lower entry.1.toText = field
    · rw [← hfield, OrderedMap.get?_put_self, beq_self_eq_true]
      rfl
    · rw [OrderedMap.get?_put_of_ne (Ne.symm hfield), ih, beq_eq_false_iff_ne.2 hfield]

theorem fieldOrNull_ofEntries (field : String) (raw : Entries) :
    (ofEntries raw).fieldOrNull field = cell field raw := by
  unfold fieldOrNull cell
  rw [get?_ofEntries]

theorem field_ofEntries {field : String} {raw : Entries} (h : (cell field raw).IsText) :
    (ofEntries raw).field field = .ok (cell field raw) := by
  rw [← fieldOrNull_ofEntries] at h ⊢
  unfold fieldOrNull at h ⊢
  unfold Row.field
  cases hget : OrderedMap.get? field (ofEntries raw) with
  | some v => rfl
  | none =>
    rw [hget] at h
    obtain ⟨s, hs⟩ := h
    cases hs

/-- A row of the column query. -/
structure IsColumnRow (raw : Entries) : Prop where
  name : (cell "name" raw).IsText
  type : (cell "type" raw).IsText
  length : (cell "char_length" raw).IsCount
  precision : (cell "data_precision" raw).IsCount
  scale : (cell "data_scale" raw).IsCount
  position : (cell "ordinal_position" raw).IsCount

def typeName (raw : Entries) : String := upper (cell "type" raw).toText

def columnName (folding : CaseFolding) (raw : Entries) : Value := folding.fold (cell "name" raw)

/-- What is noted about the type of a column: nothing unless it belongs to no family. -/
def typeNotes (raw : Entries) : List Record :=
  if CatalogType.isMapped (typeName raw) then []
  else [unmappedNote (cell "table" raw) (cell "name" raw) (typeName raw)]

/-- A column says what its row says. -/
structure Describes (folding : CaseFolding) (raw : Entries) (column : Column) : Prop where
  name : column.name = columnName folding raw
  nullable : column.nullable = .bool ((cell "null" raw).isText "Y")
  default : column.default = cell "default" raw
  comment : column.comment = cell "comment" raw
  mapped : CatalogType.isMapped (typeName raw) = true →
    column.type ≠ .unknown ∧ column.nativeType = .null
  unmapped : CatalogType.isMapped (typeName raw) = false →
    column.type = .unknown ∧ column.nativeType = .text (typeName raw)

end Row

theorem noteUnknownType_notes (type : CatalogType) (owner column : Value) (before : List Record) :
    (noteUnknownType type owner column).Gives before ()
      (before ++ (type.nativeName.map (unmappedNote owner column)).toList) := by
  cases type with
  | unknown => rfl
  | _ => exact congrArg (Except.ok (), ·) (List.append_nil before).symm

namespace TableBuilder

variable {folding : CaseFolding} {builder : TableBuilder} {raw : Entries}

/-! ### One row -/

theorem describes_columnOfRow {type : CatalogType} {length precision scale : Option Int}
    (h : CatalogType.Classified (Row.typeName raw) length precision scale type)
    (position : Option Int) : Row.Describes folding raw
      (columnOfRow (Row.ofEntries raw) (Row.columnName folding raw) type position) := by
  have hunknown := h.abstract_eq_unknown_iff
  have hnative := h.nativeName_eq
  refine ⟨rfl, ?_, ?_, ?_, fun mapped => ?_, fun unmapped => ?_⟩
  · exact congrArg (fun v : Value => Value.bool (v.isText "Y"))
      (Row.fieldOrNull_ofEntries "null" raw)
  · exact Row.fieldOrNull_ofEntries "default" raw
  · exact Row.fieldOrNull_ofEntries "comment" raw
  · rw [mapped, if_pos rfl] at hnative
    rw [mapped] at hunknown
    exact ⟨fun heq => absurd (hunknown.1 heq) nofun, congrArg Value.ofText? hnative⟩
  · rw [unmapped, if_neg Bool.false_ne_true] at hnative
    exact ⟨hunknown.2 unmapped, congrArg Value.ofText? hnative⟩

/-- A row of the column query is always folded: its column is added and its type is noted if it
belongs to no family. -/
theorem addColumnRow_describes (folding : CaseFolding) (builder : TableBuilder)
    (h : Row.IsColumnRow raw) (before : List Record) :
    ∃ column, Row.Describes folding raw column ∧
      (builder.addColumnRow folding (Row.ofEntries raw)).Gives before
        { builder with columns := builder.columns.put column.name column }
        (before ++ Row.typeNotes raw) := by
  obtain ⟨length, hlength⟩ := h.length.eq_ofInt?
  obtain ⟨precision, hprecision⟩ := h.precision.eq_ofInt?
  obtain ⟨scale, hscale⟩ := h.scale.eq_ofInt?
  obtain ⟨position, hposition⟩ := h.position.catalogInteger
  have hname := h.name.isName
  have hclassified := CatalogType.classified_ofName (Row.typeName raw) length precision scale
  have hfields := CatalogType.ofFields_of_isText h.type length precision scale false
  have hkey : (Row.columnName folding raw).asKey = .ok (Row.columnName folding raw) :=
    (folding.fold_isName hname).asKey
  have hnotes : Row.typeNotes raw = ((CatalogType.ofName (Row.typeName raw) length precision scale
      false).nativeName.map (unmappedNote (Row.cell "table" raw) (Row.cell "name" raw))).toList := by
    rw [hclassified.nativeName_eq]
    unfold Row.typeNotes
    split <;> rfl
  refine ⟨_, describes_columnOfRow hclassified position, ?_⟩
  unfold addColumnRow
  rw [Row.field_ofEntries h.type, Error.ok_bind, Row.fieldOrNull_ofEntries, hlength,
    Row.fieldOrNull_ofEntries, hprecision, Row.fieldOrNull_ofEntries, hscale, hfields, Noted.ok_bind,
    Row.field_ofEntries h.name, Noted.ok_bind, Row.fieldOrNull_ofEntries, hnotes]
  refine Noted.bind_gives (noteUnknownType_notes _ _ _ before) ?_
  rw [Row.fieldOrNull_ofEntries, hposition, Error.ok_bind, foldedName_eq folding hname,
    Error.ok_bind]
  have hadd (column : Column) (hcolumn : column.name = Row.columnName folding raw) :
      builder.addColumn column =
        .ok { builder with columns := builder.columns.put column.name column } := by
    unfold addColumn
    rw [hcolumn, hkey]
    rfl
  exact congrArg (·, before ++ _) (hadd _ rfl)

/-! ### All rows -/

/-- Rows with names of their own are all folded, in order. -/
theorem addRows_describe (folding : CaseFolding) {raws : List Entries}
    (named : builder.ColumnsNamed) (columns : ∀ raw ∈ raws, Row.IsColumnRow raw)
    (distinct : (keys builder.columns ++ raws.map (Row.columnName folding)).Nodup)
    (before : List Record) :
    ∃ described after, List.Forall₂ (Row.Describes folding) raws described ∧
      (builder.addRows folding (raws.map fun raw => .column (Row.ofEntries raw))).Gives before
        after (before ++ raws.flatMap Row.typeNotes) ∧
      after.build = { builder.build with columns := builder.build.columns ++ described } := by
  -- the columns of the rows before count as the builder's own for the rest
  induction raws generalizing builder before with
  | nil =>
    refine ⟨[], builder, .nil, ?_, ?_⟩
    · rw [List.flatMap_nil, List.append_nil]
      rfl
    · rw [List.append_nil]
  | cons raw rest ih =>
    obtain ⟨hraw, hrest⟩ := List.forall_mem_cons.1 columns
    obtain ⟨column, hcolumn, hgives⟩ := addColumnRow_describes folding builder hraw before
    rw [List.map_cons, ← hcolumn.name] at distinct
    have hname : column.name.IsName := by
      rw [hcolumn.name]
      exact folding.fold_isName hraw.name.isName
    have fresh : column.name ∉ keys builder.columns := fun hmem =>
      (List.nodup_append.1 distinct).2.2 _ hmem _ List.mem_cons_self rfl
    have hput := OrderedMap.put_of_not_mem Value.lawfulOn_isName named.keys hname fresh column
    have hnames : (TableRow.column (Row.ofEntries raw)).HasNames := by
      show ((Row.ofEntries raw).fieldOrNull "name").IsName
      rw [Row.fieldOrNull_ofEntries]
      exact hraw.name.isName
    have hmiddle := named.addRow hnames hgives
    rw [hput] at hgives hmiddle
    rw [List.append_cons] at distinct
    have hkeys : keys (builder.columns ++ [(column.name, column)]) =
        keys builder.columns ++ [column.name] := List.map_append
    obtain ⟨described, after, hall, hrows, hbuild⟩ :=
      ih hmiddle hrest (hkeys ▸ distinct) (before ++ Row.typeNotes raw)
    refine ⟨column :: described, after, .cons hcolumn hall, ?_, ?_⟩
    · rw [List.flatMap_cons, ← List.append_assoc]
      exact Noted.bind_gives hgives hrows
    · rw [hbuild]
      have hvalues : values (builder.columns ++ [(column.name, column)]) =
          values builder.columns ++ [column] := List.map_append
      unfold build
      rw [hvalues, List.append_assoc]
      rfl

/-- The rows of the column query are never refused, whatever the types of the columns are: the
table has a column for each, in their order, and every type that belongs to no family is noted. -/
theorem columns_of_rows (folding : CaseFolding) (name temporary : Value) {raws : List Entries}
    (columns : ∀ raw ∈ raws, Row.IsColumnRow raw)
    (distinct : (raws.map (Row.columnName folding)).Nodup) :
    ∃ after, (addRows folding { name, temporary }
        (raws.map fun raw => .column (Row.ofEntries raw))).outcome =
          (.ok after, raws.flatMap Row.typeNotes) ∧
      List.Forall₂ (Row.Describes folding) raws after.build.columns ∧
      after.build = { name, temporary, columns := after.build.columns } := by
  obtain ⟨described, after, hall, hgives, hbuild⟩ :=
    addRows_describe folding (columnsNamed_empty name temporary) columns distinct []
  rw [List.nil_append] at hgives
  have hcolumns : after.build.columns = described := congrArg Table.columns hbuild
  refine ⟨after, hgives, hcolumns ▸ hall, ?_⟩
  rw [hcolumns]
  exact hbuild

/-- Two rows whose fields are spelled in different ways, the second one with a type of its own. -/
def placeRows : List Entries :=
  [[(.text "NAME", .text "ID"), (.text "Type", .text "Number"), (.text "DATA_precision", .int 10),
      (.text "NULL", .text "N"), (.text "Default", .text "seq.NEXTVAL\n")],
    [(.text "Null", .text "Y"), (.text "name", .text "Shape"), (.text "TYPE", .text "Sdo_Geometry"),
      (.text "Table", .text "PLACE"), (.text "COMMENT", .text " outline")]]

def shapeNote : Record :=
  { channel := .dialect, level := .warning
    text := "Catalog type 'SDO_GEOMETRY' of PLACE.Shape has no abstract mapping" }

theorem place_columns :
    (∀ raw ∈ placeRows, Row.IsColumnRow raw) ∧ (placeRows.map (Row.columnName .lower)).Nodup ∧
      ∃ after id shape, (addRows .lower { name := .text "PLACE" }
          (placeRows.map fun raw => .column (Row.ofEntries raw))).outcome =
            (.ok after, [shapeNote]) ∧
        after.build = { name := .text "PLACE", columns := [id, shape] } ∧
        id.name = .text "id" ∧ id.nullable = .bool false ∧ id.nativeType = .null ∧
        id.default = .text "seq.NEXTVAL\n" ∧
        shape.name = .text "shape" ∧ shape.nullable = .bool true ∧ shape.type = .unknown ∧
        shape.nativeType = .text "SDO_GEOMETRY" ∧ shape.comment = .text " outline" := by
  have columns : ∀ raw ∈ placeRows, Row.IsColumnRow raw := by
    refine List.forall_mem_cons.2 ⟨?_, List.forall_mem_singleton.2 ?_⟩
    · exact ⟨⟨"ID", rfl⟩, ⟨"Number", rfl⟩, .inl rfl, .inr ⟨10, rfl⟩, .inl rfl, .inl rfl⟩
    · exact ⟨⟨"Shape", rfl⟩, ⟨"Sdo_Geometry", rfl⟩, .inl rfl, .inl rfl, .inl rfl, .inl rfl⟩
  have hnames : placeRows.map (Row.columnName .lower) = [.text "id", .text "shape"] := rfl
  have distinct : (placeRows.map (Row.columnName .lower)).Nodup := by
    rw [hnames]
    simp
  obtain ⟨after, houtcome, hall, hbuild⟩ :=
    columns_of_rows .lower (.text "PLACE") (.bool false) columns distinct
  have hnotes : placeRows.flatMap Row.typeNotes = [shapeNote] := rfl
  rw [hnotes] at houtcome
  generalize after.build.columns = described at hall hbuild
  cases hall with
  | cons hid hrest =>
    cases hrest with
    | cons hshape hnone =>
      cases hnone
      obtain ⟨-, hidNative⟩ := hid.mapped rfl
      obtain ⟨hshapeType, hshapeNative⟩ := hshape.unmapped rfl
      exact ⟨columns, distinct, after, _, _, houtcome, hbuild, hid.name, hid.nullable, hidNative,
        hid.default, hshape.name, hshape.nullable, hshapeType, hshapeNative, hshape.comment⟩

end TableBuilder

end OracleCatalog
