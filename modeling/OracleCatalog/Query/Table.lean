import OracleCatalog.Name
import OracleCatalog.Query.Basic

/-!
# Queries for one table

Three queries describe a table: its columns, its indexes with the keys on them, and its foreign
keys. All three bind the table and, when it is looked up in a schema, the schema.
-/

namespace OracleCatalog

open OracleCatalog.Text

def TableName.binds (name : TableName) : OrderedMap String Value :=
  ("tableParam", .text name.table) ::
    if name.hasSchema then [("ownerParam", name.schema)] else []

namespace Query

/-! ### Columns -/

def columnsText (owned : Bool) : String := lines [
  "SELECT",
  fieldLines 20 [
    "utc.table_name as \"table\"", "utc.column_name AS name", "utc.data_type AS type",
    "utc.data_length AS char_length", "utc.data_precision", "utc.data_scale",
    "utc.nullable AS \"null\"", "utc.data_default AS \"default\"", "ucc.comments AS \"comment\"",
    "utc.column_id AS ordinal_position"],
  indented 16 ("FROM " ++ viewName owned "tab_columns" ++ " utc"),
  indented 16 ("JOIN " ++ viewName owned "col_comments" ++ " ucc ON ("),
  indented 20 "utc.table_name = ucc.table_name",
  indented 20 "AND utc.column_name = ucc.column_name",
  indented 20 (whenOwned owned "AND utc.OWNER = ucc.OWNER"),
  indented 16 ")",
  indented 16 "WHERE UPPER(utc.table_name) = :tableParam",
  indented 16 (whenOwned owned "AND utc.OWNER = :ownerParam"),
  indented 16 "ORDER BY utc.column_id"]

def columns (name : TableName) : Query :=
  { text := columnsText name.hasSchema, binds := name.binds }

/-! ### Indexes and the keys on them -/

def indexLookup (owned : Bool) (width : Nat) (field : String) : List String := [
  indented width ("SELECT i." ++ field),
  indented width ("FROM   " ++ viewName owned "indexes" ++ " i"),
  indented width ("WHERE  i.index_name = ic.index_name" ++
    whenOwned owned " AND ic.table_owner = i.table_owner")]

def indexesText (owned : Bool) : String := lines (
  ["SELECT", indented 12 "ic.index_name AS name,", indented 12 "("] ++
  indexLookup owned 16 "index_type" ++
  [indented 12 ") AS type,", indented 12 "decode(", indented 16 "("] ++
  indexLookup owned 21 "uniqueness" ++
  [ indented 16 "),",
    indented 16 "'NONUNIQUE', 0,",
    indented 16 "'UNIQUE', 1",
    indented 12 ") AS is_unique,",
    indented 12 "ic.column_name AS column_name,",
    indented 12 "ic.column_position AS column_pos,",
    indented 12 "(",
    indented 16 "SELECT c.constraint_type",
    indented 16 ("FROM   " ++ viewName owned "constraints" ++ " c"),
    indented 16 ("WHERE  c.constraint_name = ic.index_name" ++
      whenOwned owned " AND c.owner = ic.index_owner"),
    indented 13 ") AS is_primary",
    indented 13 ("FROM " ++ viewName owned "ind_columns" ++ " ic"),
    indented 13
      ("WHERE upper(ic.table_name) = :tableParam" ++
        whenOwned owned " AND ic.table_owner = :ownerParam"),
    indented 12 "ORDER BY ic.index_name, ic.column_position ASC"])

def indexes (name : TableName) : Query :=
  { text := indexesText name.hasSchema, binds := name.binds }

/-! ### Foreign keys -/

def foreignKeyFields : List String := [
  "cc.column_name", "cc.constraint_name", "r.owner as referenced_owner",
  "r.table_name as referenced_table_name", "r.column_name as referenced_column_name",
  "c.delete_rule"]

/-- The text of the foreign key query in the views of the user. -/
def userForeignKeysText : String := lines [
  "SELECT",
  fieldLines 24 foreignKeyFields,
  indented 20 "FROM user_cons_columns cc",
  indented 20 "JOIN user_constraints c ON c.constraint_name = cc.constraint_name",
  indented 20 "JOIN user_cons_columns r ON (",
  indented 24 "r.constraint_name = c.r_constraint_name AND r.position = cc.position",
  indented 20 ")",
  indented 20 "WHERE c.constraint_type = 'R'",
  indented 20 "AND upper(cc.table_name) = :tableParam",
  indented 20 "ORDER BY cc.constraint_name, cc.position"]

/-- The text of the foreign key query in the views of all users. -/
def allForeignKeysText : String := lines [
  "SELECT",
  fieldLines 16 foreignKeyFields,
  indented 12 "FROM all_cons_columns cc",
  indented 12
    "JOIN all_constraints c ON (c.constraint_name = cc.constraint_name AND c.owner = cc.owner)",
  indented 12 "JOIN all_cons_columns r ON (",
  indented 16 "r.constraint_name = c.r_constraint_name AND r.owner = c.r_owner",
  indented 16 "AND r.position = cc.position",
  indented 12 ")",
  indented 12 "WHERE c.constraint_type = 'R'",
  indented 12 "AND cc.owner = :ownerParam",
  indented 12 "AND upper(cc.table_name) = :tableParam",
  indented 12 "ORDER BY cc.constraint_name, cc.position"]

def foreignKeysText (owned : Bool) : String :=
  if owned then allForeignKeysText else userForeignKeysText

def foreignKeys (name : TableName) : Query :=
  { text := foreignKeysText name.hasSchema, binds := name.binds }

end Query

end OracleCatalog
