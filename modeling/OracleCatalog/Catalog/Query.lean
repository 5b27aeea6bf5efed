import OracleCatalog.Query.Basic
import OracleCatalog.Row.Basic
import OracleCatalog.Session.Connection

/-!
# Running catalog queries

A catalog query opens one cursor, reads what it needs, and closes the cursor whether reading fails
or not. A failure of the database below a query is wrapped into an execution error.
-/

namespace OracleCatalog.Catalog

/-- Executes a catalog query for the part of the catalog that writes to the channel. -/
def execute (channel : Channel) (query : Query) : Action Connection PlainStatement := do
  match ← Action.attempt
      (Connection.execute (.text query.text) (.map query.boundEntries) false) with
  | .ok statement => return statement
  | .error e =>
    if e.isCatalog then throw e
    else
      Action.note channel .error ("Catalog query failed: " ++ e.message)
      throw e.wrap

/-- Executes a catalog query, reads from its statement, and closes that at last. -/
def withQuery {α : Type} (channel : Channel) (query : Query) (read : Action PlainStatement α) :
    Action Connection α := do
  let statement ← execute channel query
  let (outcome, statement) ← Action.apart statement read
  let (closed, _) ← Action.apart statement PlainStatement.close
  Action.ofExcept (closed.bind fun _ => outcome)

/-- The first values of the rows that are left, `bound` of them at most. -/
def firstValues : Nat → Action PlainStatement (List Value)
  | 0 => return []
  | bound + 1 => do
    match ← PlainStatement.onCursor Cursor.fetchOne with
    | none => return []
    | some [] => throw (.noPosition "list")
    | some (v :: _) => return v :: (← firstValues bound)

def firstColumn (channel : Channel) (query : Query) : Action Connection (List Value) :=
  withQuery channel query do firstValues ((← Action.state).cursor.rows.length + 1)

/-- The rows of a query by field names, all of them fetched before the first is looked at. -/
def fetchRows : Action PlainStatement (List Row) := do
  let rows ← PlainStatement.fetchAll .keyed
  return rows.map fun row =>
    match row with
    | .map entries => Row.ofEntries entries
    | _ => []

end OracleCatalog.Catalog
