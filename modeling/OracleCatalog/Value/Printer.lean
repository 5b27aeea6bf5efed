import OracleCatalog.Binary64.Printer
import OracleCatalog.Decimal.Numeral
import OracleCatalog.Text.Quoted
import OracleCatalog.Text.Split
import OracleCatalog.Value.Basic

/-!
# The text of values

A value has two texts: the one it has inside a message or a statement, and the one in which it is
shown as a member of a container. They differ for texts, which are quoted when shown, and for
decimal numbers, which are shown with their type.
-/

namespace OracleCatalog.Value

open OracleCatalog.Text

mutual

/-- A value as a member of a container. -/
def shown : Value → String
  | .null => "None"
  | .bool b => if b then "True" else "False"
  | .int i => intText i
  | .float x => Binary64.toText x
  | .decimal d => "Decimal('" ++ d.toText ++ "')"
  | .text s => quoted s
  | .bytes b => quotedBytes b
  | .list xs => "[" ++ join ", " (shownAll xs) ++ "]"
  | .tuple [x] => "(" ++ x.shown ++ ",)"
  | .tuple xs => "(" ++ join ", " (shownAll xs) ++ ")"
  | .map es => "\x7b" ++ join ", " (shownEntries es) ++ "\x7d"
  | .lob _ => "<LOB>"

def shownAll : List Value → List String
  | [] => []
  | x :: xs => x.shown :: shownAll xs

/-- The entries of a map, a colon between key and value. -/
def shownEntries : List (Value × Value) → List String
  | [] => []
  | (k, v) :: es => (k.shown ++ ": " ++ v.shown) :: shownEntries es

end

/-- A value inside a message or a statement. -/
def toText : Value → String
  | .text s => s
  | .decimal d => d.toText
  | v => v.shown

@[simp] theorem toText_text (s : String) : (Value.text s).toText = s := rfl

end OracleCatalog.Value
