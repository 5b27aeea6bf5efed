import OracleCatalog.Dialect
import OracleCatalog.Journal
import OracleCatalog.Text.Character

/-!
# Select statements

A select statement is put together from the bodies of its clauses, each in the template of its
clause. The clauses that skip and limit rows exist only on engines that can.
-/

namespace OracleCatalog

open OracleCatalog.Text

/-- The clauses of a select statement. -/
inductive Clause where
  | select | from | join | where | group | having | order | offset | limit | union | epilog
  deriving DecidableEq, Inhabited

namespace Clause

def name : Clause → String
  | .select => "select"
  | .from => "from"
  | .join => "join"
  | .where => "where"
  | .group => "group"
  | .having => "having"
  | .order => "order"
  | .offset => "offset"
  | .limit => "limit"
  | .union => "union"
  | .epilog => "epilog"

/-- What stands before and after the body of a clause. -/
def frame : Clause → String × String
  | .select => ("SELECT ", "")
  | .from => (" FROM ", "")
  | .join => (" ", "")
  | .where => (" WHERE ", "")
  | .group => (" GROUP BY ", " ")
  | .having => (" HAVING ", " ")
  | .order => (" ORDER BY ", "")
  | .offset => (" OFFSET ", " ROWS ")
  | .limit => (" FETCH NEXT ", " ROWS ONLY ")
  | .union => (" ", "")
  | .epilog => (" ", "")

def template (clause : Clause) : String := clause.frame.1 ++ "%s" ++ clause.frame.2

def around (clause : Clause) (body : String) : String := clause.frame.1 ++ body ++ clause.frame.2

/-- The clauses that come first, in order. -/
def leading : List Clause := [.select, .from, .join, .where, .group, .having, .order]

/-- The clauses that skip and limit rows. -/
def paging : List Clause := [.offset, .limit]

/-- The clauses that come last, in order. -/
def trailing : List Clause := [.union, .epilog]

/-- The clauses of an engine in the order in which they stand. -/
def ofEngine (paginates : Bool) : List Clause :=
  leading ++ (if paginates then paging else []) ++ trailing

end Clause

namespace Select

/-- The text of a clause body. A tuple supplies the body as its only item. -/
def bodyText (body : Value) : Except Error String :=
  match body with
  | .tuple [item] => item.writeText
  | .tuple _ => .error (.wrongKind "a template takes exactly one argument")
  | body => body.writeText

/-- The body given for a clause, null where there is none. -/
def bodyOf (bodies : Entries) (clause : Clause) : Value := Value.fieldOrNull clause.name bodies

/-- A clause with the body given for it; nothing where that is missing. -/
def part (bodies : Entries) (clause : Clause) : Except Error String :=
  let body := bodyOf bodies clause
  if body.isMissing then .ok "" else (bodyText body).map clause.around

/-- The paging clauses that are given and that the engine does not have. -/
def dropped (paginates : Bool) (bodies : Entries) : List Clause :=
  if paginates then [] else Clause.paging.filter fun clause => !(bodyOf bodies clause).isNull

/-- The select statement of the given bodies. -/
def compile (dialect : Dialect) (bodies : Entries) : Noted String := do
  let paginates := dialect.engine.paginates
  let parts ← Noted.ofExcept ((Clause.ofEngine paginates).mapM (part bodies))
  let dropped := dropped paginates bodies
  if !dropped.isEmpty then
    Noted.note .dialect .warning
      ("Variant " ++ dialect.engine.name.toText ++ " does not support " ++
        join ", " (dropped.map (·.name)) ++ "; clause dropped")
  return trim (join "" parts)

/-- A paging clause with the number given for it; nothing where that is null. -/
def pagingPart (clause : Clause) (number : Value) : Except Error String :=
  if number.isNull then .ok "" else number.wholeText.map clause.around

/-- The clauses that skip and limit rows, with single blanks; nothing on engines without them. -/
def pagination (dialect : Dialect) (limit offset : Value) : Except Error String := do
  if !dialect.engine.paginates then return ""
  let offset ← pagingPart .offset offset
  let limit ← pagingPart .limit limit
  return join " " (words (offset ++ limit))

end Select

end OracleCatalog
