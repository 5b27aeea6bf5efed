import OracleCatalog.Journal
import OracleCatalog.Text.Character
import OracleCatalog.Text.Split
import OracleCatalog.Value.Members

/-!
# Converting statements

Statements written for another engine are converted. The engines that are known limit rows at the
end of a statement with `LIMIT`; here that is `FETCH FIRST`. Without an engine, the statement is
taken as it reads.
-/

namespace OracleCatalog.Conversion

open OracleCatalog.Text

/-- The engines whose statements can be converted. -/
def knownEngines : List String := ["oracle", "postgres", "mysql", "sqlite"]

/-- Whether statements of the engine can be converted; none at all is fine. -/
def isKnown (engine : Value) : Bool := !engine.truthy || knownEngines.any (engine.isText ·)

/-- The statement with a limit at its end written the way of this engine. -/
def convertLimit (sql : String) : String :=
  match (segments ' ' sql).reverse with
  | count :: "LIMIT" :: rest =>
    if allDigits count then
      join " " (rest.reverse ++ ["FETCH", "FIRST", count, "ROWS", "ONLY"])
    else sql
  | _ => sql

/-- How records name an engine. -/
def engineText (engine : Value) : String := (engine.orElse (.text "auto-detect")).toText

/-- Converts a statement; a missing or blank one stays as it is. -/
def convert (sql engine : Value) : Noted Value := do
  if !sql.truthy then return sql
  let text ← Noted.ofExcept (sql.asText "strip")
  if isBlankText text then return sql
  if isKnown engine then
    Noted.note .dialect .debug ("Converted SQL from " ++ engineText engine ++ " to oracle")
    return .text (convertLimit text)
  else
    let reason := "Unknown dialect '" ++ engine.toText ++ "'."
    Noted.note .dialect .error
      ("Failed to convert SQL from " ++ engineText engine ++ " to oracle: " ++ reason)
    throw (.refused (.conversion reason))

end OracleCatalog.Conversion
