import OracleCatalog.Proofs.Definition.Column
import OracleCatalog.Proofs.Literal
import OracleCatalog.Proofs.Table.Columns

/-!
# Defaults that are read and written

The catalog gives the default of a column as an expression, and a definition writes it as a value.
So a text becomes a literal of its own text, which no text is: only the two numbers of a truth value
come back as they were.
-/

namespace OracleCatalog

open OracleCatalog.Text

/-! ### Literals and trimmed texts -/

theorem Text.trimBoth_of_ends {p : Char → Bool} {a b : Char} (ha : p a = false) (hb : p b = false)
    (cs : List Char) : trimBoth p (a :: cs ++ [b]) = a :: cs ++ [b] := by
  have hfront : (a :: (cs ++ [b])).dropWhile p = a :: (cs ++ [b]) :=
    List.dropWhile_cons_of_neg (ne_true_of_eq_false ha)
  have hreverse : (a :: (cs ++ [b])).reverse = b :: (a :: cs).reverse := by simp
  have hback : (b :: (a :: cs).reverse).dropWhile p = b :: (a :: cs).reverse :=
    List.dropWhile_cons_of_neg (ne_true_of_eq_false hb)
  unfold trimBoth
  rw [List.cons_append, hfront, hreverse, hback, ← hreverse, List.reverse_reverse]

theorem Text.length_trim_le (s : String) : (trim s).toList.length ≤ s.toList.length := by
  have hfront : (s.toList.dropWhile isBlank).length ≤ s.toList.length :=
    (List.dropWhile_sublist isBlank).length_le
  have hback : ((s.toList.dropWhile isBlank).reverse.dropWhile isBlank).length ≤
      (s.toList.dropWhile isBlank).reverse.length := (List.dropWhile_sublist isBlank).length_le
  rw [List.length_reverse] at hback
  unfold trim trimBoth
  rw [String.toList_ofList, List.length_reverse]
  exact Nat.le_trans hback hfront

namespace Literal

theorem trim_quote (s : String) : trim (quote s) = quote s := by
  have happostrophe : isBlank '\'' = false := by decide
  unfold trim quote encode
  rw [String.toList_ofList, trimBoth_of_ends happostrophe happostrophe]

/-- A literal is longer than the text that it stands for, so it is never that text. -/
theorem trim_quote_ne (s : String) : trim (quote s) ≠ trim s := by
  rw [trim_quote]
  intro heq
  -- the two apostrophes are not blanks, so that trimming cannot make up for them
  have hlength : (quote s).toList.length = (trim s).toList.length :=
    congrArg (fun t : String => t.toList.length) heq
  have htrim := length_trim_le s
  have hquote := length_lt_quote s
  omega

end Literal

/-! ### Columns of the catalog -/

def CatalogType.size (type : CatalogType) : TypeSize :=
  { length := Value.ofInt? type.length, precision := Value.ofInt? type.precision
    scale := Value.ofInt? type.scale, fixed := .bool type.isFixed }

/-- A row of the column query for a column that refuses nulls and has a default. -/
structure Row.DescribesDefault (row : Row) (type : CatalogType) (default : String) : Prop where
  name : (row.fieldOrNull "name").IsText
  read : row.catalogType = .ok type
  size : type.size.IsTyped
  declared : type.abstract.isDeclared = true
  noTimestamp : type.abstract ≠ .timestamp
  refusesNulls : (row.fieldOrNull "null").isText "Y" = false
  default : row.fieldOrNull "default" = .text default

theorem CaseFolding.fold_isText (folding : CaseFolding) {name : Value} (h : name.IsText) :
    (folding.fold name).IsText := by
  obtain ⟨s, rfl⟩ := h
  cases folding <;> exact Value.isText_text _

theorem Row.DescribesDefault.columnOfRow_typed {row : Row} {type : CatalogType} {default : String}
    (describes : row.DescribesDefault type default) (folding : CaseFolding)
    (position : Option Int) :
    (TableBuilder.columnOfRow row (row.nameAt folding "name") type position).IsTyped := by
  refine ⟨folding.fold_isText describes.name, describes.size, ?_⟩
  show (row.fieldOrNull "default").isSignaling = false
  rw [describes.default]
  rfl

namespace Definition

theorem defaultExpression_boolean {column : Column} (h : column.type = .boolean) :
    defaultExpression column = (if column.default == .int 1 || column.default == .text "1" ||
      column.default == .text "true" then "1" else "0") :=
  if_pos h

theorem defaultExpression_text {column : Column} {default : String} (h : column.type ≠ .boolean)
    (hdefault : column.default = .text default) :
    defaultExpression column = Literal.quote default := by
  unfold defaultExpression
  rw [if_neg h, hdefault]
  rfl

/-- A default that is a text is written as that text for two numbers of a truth value alone. -/
theorem trim_defaultExpression_iff {column : Column} {default : String}
    (hdefault : column.default = .text default) :
    trim (defaultExpression column) = trim default ↔
      column.type = .boolean ∧ (default = "1" ∨ trim default = "0") := by
  by_cases hboolean : column.type = .boolean
  · have hint : (Value.text default == .int 1) = false := rfl
    have hone : trim "1" = "1" := by decide
    have hzero : trim "0" = "0" := by decide
    have htrue : trim "true" = "true" := by decide
    rw [defaultExpression_boolean hboolean, hdefault, hint, Bool.false_or, Value.text_beq,
      Value.text_beq, and_iff_right hboolean]
    -- only a default of these three texts is true, and the third is not the number it stands for
    by_cases h1 : default = "1"
    · rw [h1]
      exact iff_of_true rfl (.inl rfl)
    · rw [or_iff_right h1, beq_eq_false_iff_ne.2 h1, Bool.false_or]
      by_cases hword : default = "true"
      · rw [hword, if_pos (beq_self_eq_true _), hone, htrue]
        decide
      · rw [beq_eq_false_iff_ne.2 hword, if_neg Bool.false_ne_true, hzero, eq_comm]
  · rw [defaultExpression_text hboolean hdefault]
    exact iff_of_false (Literal.trim_quote_ne default) fun h => hboolean h.1

theorem column_of_default (dialect : Dialect) {table : Table} {c : Column}
    {declaration default : String} (found : table.column? c.name = some c) (typed : c.IsTyped)
    (hdeclaration : c.type.declaration (sizeOf c) = .ok declaration)
    (noTimestamp : c.type ≠ .timestamp) (refusesNulls : c.nullable.truthy = false)
    (hdefault : c.default = .text default) :
    column dialect table c.name = .ok (dialect.written c.name ++ " " ++ declaration ++
      identityText dialect table c ++ " DEFAULT " ++ defaultExpression c ++ " NOT NULL") := by
  have hhas : hasDefault c = true := by
    unfold hasDefault
    rw [refusesNulls, hdefault, beq_eq_false_iff_ne.2 noTimestamp]
    rfl
  rw [column_of_declaration dialect found typed hdeclaration]
  unfold defaultText refusal
  rw [refusesNulls, if_neg Bool.false_ne_true, if_neg Bool.false_ne_true, if_pos hhas]
  simp only [String.append_assoc]

variable (dialect : Dialect) {tableName temporary : Value} {front back : List TableRow} {row : Row}
  {type : CatalogType} {default : String} {after : TableBuilder}

/-- A column that refuses nulls is defined with its default exactly as the catalog gives it, up to
blanks, when it is a truth value and the default is one of its two numbers. -/
theorem default_kept_iff (names : ∀ r ∈ front ++ .column row :: back, r.HasNames)
    (last : ∀ other : Row, .column other ∈ back →
      other.nameAt dialect.folding "name" ≠ row.nameAt dialect.folding "name")
    (describes : row.DescribesDefault type default)
    (h : (TableBuilder.addRows dialect.folding { name := tableName, temporary }
      (front ++ .column row :: back)).outcome.1 = .ok after) :
    ∃ c declaration, after.build.column? (row.nameAt dialect.folding "name") = some c ∧
      c.type = type.abstract ∧ c.type.declaration (sizeOf c) = .ok declaration ∧
      column dialect after.build (row.nameAt dialect.folding "name") =
        .ok (dialect.written (row.nameAt dialect.folding "name") ++ " " ++ declaration ++
          identityText dialect after.build c ++ " DEFAULT " ++ defaultExpression c ++
          " NOT NULL") ∧
      (trim (defaultExpression c) = trim default ↔
        type.abstract = .boolean ∧ (default = "1" ∨ trim default = "0")) := by
  obtain ⟨written, h⟩ := Noted.gives_of_outcome h
  obtain ⟨type', position, htype, hfound⟩ := TableBuilder.column?_of_row
    (TableBuilder.columnsNamed_empty tableName temporary) names last h
  obtain rfl := Except.ok.inj (describes.read.symm.trans htype)
  obtain ⟨declaration, hdeclaration⟩ :=
    AbstractType.exists_declaration describes.declared describes.size
  have typed := describes.columnOfRow_typed dialect.folding position
  have hdefault : (TableBuilder.columnOfRow row (row.nameAt dialect.folding "name") type
      position).default = .text default := describes.default
  exact ⟨_, declaration, hfound, rfl, hdeclaration,
    column_of_default dialect hfound typed hdeclaration describes.noTimestamp
      describes.refusesNulls hdefault,
    trim_defaultExpression_iff hdefault⟩

/-- A row of the column query for a column that refuses nulls. -/
def columnRow (name type : String) (precision : Value) (default : String) : Row :=
  [("name", .text name), ("type", .text type), ("data_precision", precision), ("null", .text "N"),
    ("default", .text default)]

/-- A truth value that was a date in an earlier row. -/
def activeRows : List TableRow :=
  [.column (columnRow "ACTIVE" "DATE" .null "SYSDATE")]

def activeRow : Row := columnRow "ACTIVE" "NUMBER" (.int 1) "0 \n"

def statusRows : List TableRow := [.column (columnRow "STATUS" "CLOB" .null "'NEW'")]

theorem zero_default_kept :
    ∃ after, (TableBuilder.addRows .lower { name := .text "EMP" }
        (activeRows ++ .column activeRow :: statusRows)).outcome.1 = .ok after ∧
      column { settings := { folding := .lower } } after.build (.text "active") =
        .ok "active NUMBER(1) DEFAULT 0 NOT NULL" ∧
      trim "0" = trim "0 \n" := by
  have names : ∀ r ∈ activeRows ++ .column activeRow :: statusRows, r.HasNames :=
    List.forall_mem_append.2 ⟨List.forall_mem_singleton.2 (Value.isName_text "ACTIVE"),
      List.forall_mem_cons.2 ⟨Value.isName_text "ACTIVE",
        List.forall_mem_singleton.2 (Value.isName_text "STATUS")⟩⟩
  have last : ∀ other : Row, .column other ∈ statusRows →
      other.nameAt .lower "name" ≠ activeRow.nameAt .lower "name" := by
    intro other hother heq
    cases List.mem_singleton.1 hother
    exact absurd (Value.text.inj heq) (by decide)
  have size : CatalogType.boolean.size.IsTyped := ⟨.inl rfl, .inl rfl, .inl rfl⟩
  have describes : activeRow.DescribesDefault .boolean "0 \n" :=
    ⟨Value.isText_text "ACTIVE", rfl, size, rfl, nofun, rfl, rfl⟩
  have hrows : (TableBuilder.addRows .lower { name := .text "EMP" }
      (activeRows ++ .column activeRow :: statusRows)).outcome.1 = .ok _ := rfl
  obtain ⟨c, declaration, hfound, -, hdeclaration, hcolumn, hiff⟩ :=
    default_kept_iff { settings := { folding := .lower } } names last describes hrows
  cases hfound
  cases hdeclaration
  exact ⟨_, rfl, hcolumn, hiff.2 ⟨rfl, .inr (by decide)⟩⟩

/-- A literal is put into apostrophes once more. -/
theorem literal_default_quoted_twice :
    ∃ after, (TableBuilder.addRows .asIs { name := .text "EMP" } statusRows).outcome.1 = .ok after ∧
      column {} after.build (.text "STATUS") =
        .ok "STATUS CLOB DEFAULT '''NEW''' NOT NULL" ∧
      trim "'''NEW'''" ≠ trim "'NEW'" :=
  ⟨_, rfl, rfl, by decide⟩

end Definition

end OracleCatalog
