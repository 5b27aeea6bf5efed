import OracleCatalog.Catalog.Query
import OracleCatalog.Query.Listing
import OracleCatalog.Query.Table
import OracleCatalog.Row.Table

/-!
# Tables of the catalog

A table is described by three queries in a fixed order: columns, indexes with the keys on them, and
foreign keys. A table without columns is not there.
-/

namespace OracleCatalog.Catalog

def listTables : Action Connection (List Value) := do
  let connection ← Action.state
  firstColumn .tables
    (← Action.ofExcept (Query.tables connection.dialect.folding connection.settings))

def foldQuery (name : Value) (query : TableName → Query) (kind : Row → TableRow)
    (builder : TableBuilder) : Action Connection TableBuilder := do
  let connection ← Action.state
  let target ← Action.ofExcept (TableName.ofValue name connection.settings)
  let builder ← withQuery .tables (query target) do
    let rows ← fetchRows
    Action.ofNoted (builder.addRows connection.dialect.folding (rows.map kind))
  if builder.hasColumns then return builder else throw (.noColumns name.toText)

def describeTable (name : Value) : Action Connection Table := do
  let builder ← foldQuery name Query.columns .column { name }
  let builder ← foldQuery name Query.indexes .index builder
  let builder ← foldQuery name Query.foreignKeys .foreignKey builder
  return builder.build

end OracleCatalog.Catalog
