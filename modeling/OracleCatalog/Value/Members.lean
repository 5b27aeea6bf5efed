import OracleCatalog.Error
import OracleCatalog.Text.Case

/-!
# Members of values

Going through a value member by member, reading a value as a map, and the operations on texts that
a value has only when it is a text or bytes.

A document is a map of named fields: how descriptions of tables, routines, settings and
states are written down and read.
-/

namespace OracleCatalog.Value

open OracleCatalog.Text

/-! ### Kinds -/

/-- The name that messages about a missing operation use for the kind of a value. -/
def qualifiedKind : Value → String
  | .decimal _ => "decimal.Decimal"
  | v => v.kind

/-- Whether comparing the value to a number has no result. -/
def isSignaling : Value → Bool
  | .decimal (.nan _ signaling _) => signaling
  | _ => false

def isNumber (v : Value) (i : Int) : Except Error Bool :=
  if v.isSignaling then .error (.signaled .invalidOperation) else .ok (v == .int i)

/-! ### Going through a value -/

/-- The members of a value that has some: items, characters, byte values or keys. -/
def members? : Value → Option (List Value)
  | .text s => some (s.toList.map fun c => .text c.toString)
  | .bytes b => some (b.map fun n => .int n.toNat)
  | .list xs => some xs
  | .tuple xs => some xs
  | .map es => some (OrderedMap.keys es)
  | _ => none

def members (v : Value) : Except Error (List Value) :=
  match v.members? with
  | some xs => .ok xs
  | none => .error (.notIterable v.qualifiedKind)

/-! ### Reading a value as a map -/

/-- The error that a value cannot be a key: the first part of it that cannot is at fault. -/
def keyFault : Value → Error
  | .decimal _ => .wrongKind "Cannot hash a signaling NaN value"
  | v => .wrongKind ("unhashable type: '" ++ v.kind ++ "'")

mutual

/-- The first part of a value that cannot be a key. -/
def nonKey? : Value → Option Value
  | .tuple xs => firstNonKey xs
  | v => if v.isKey then none else some v

/-- The first of several values that cannot be a key. -/
def firstNonKey : List Value → Option Value
  | [] => none
  | x :: xs => (nonKey? x).or (firstNonKey xs)

end

def asKey (v : Value) : Except Error Value :=
  match v.nonKey? with
  | none => .ok v
  | some part => .error part.keyFault

/-- The entry that the member at `index` of a list of pairs stands for. -/
def pairAt (index : Nat) (v : Value) : Except Error (Value × Value) :=
  match v.members? with
  | some [key, value] => key.asKey.map fun key => (key, value)
  | some xs => .error (.refused (.notAPair index xs.length))
  | none =>
    .error (.wrongKind
      ("cannot convert dictionary update sequence element #" ++ natText index ++ " to a sequence"))

/-- The map that arises from writing pairs one after the other into `map`. -/
def putPairs (index : Nat) (map : Entries) : List Value → Except Error Entries
  | [] => .ok map
  | v :: vs =>
    match pairAt index v with
    | .ok (key, value) => putPairs (index + 1) (map.put key value) vs
    | .error e => .error e

/-- A value as a map: a map itself, or the map of a sequence of pairs. -/
def toEntries : Value → Except Error Entries
  | .map es => .ok es
  | v =>
    match v.members with
    | .ok xs => putPairs 0 [] xs
    | .error e => .error e

def field (name : String) (map : Entries) : Except Error Value :=
  match OrderedMap.get? (.text name) map with
  | some v => .ok v
  | none => .error (.noField name)

/-- The value of an optional field of a map, null when it is absent. -/
def fieldOrNull (name : String) (map : Entries) : Value :=
  (OrderedMap.get? (.text name) map).getD .null

/-! ### Letter case -/

/-- Bytes with their letters of seven bits mapped. -/
def mapLetters (first shift : UInt8) (up : Bool) (bytes : List UInt8) : List UInt8 :=
  bytes.map fun b =>
    if first ≤ b && b < first + 26 then if up then b - shift else b + shift else b

/-- A text or bytes in capitals. -/
def toUpper : Value → Except Error Value
  | .text s => .ok (.text (upper s))
  | .bytes b => .ok (.bytes (mapLetters 97 32 true b))
  | v => .error (.noOperation v.qualifiedKind "upper")

/-- A text or bytes in small letters. -/
def toLower : Value → Except Error Value
  | .text s => .ok (.text (lower s))
  | .bytes b => .ok (.bytes (mapLetters 65 32 false b))
  | v => .error (.noOperation v.qualifiedKind "lower")

/-- The text that a value is; bytes have a different `operation`, others none. -/
def asText (operation : String) : Value → Except Error String
  | .text s => .ok s
  | .bytes _ => .error (.wrongKind "a bytes-like object is required, not 'str'")
  | v => .error (.noOperation v.qualifiedKind operation)

/-- The text that a value put together with another text is. -/
def operand : Value → Except Error String
  | .text s => .ok s
  | v => .error (.wrongKind ("can only put 'str' together with 'str', not '" ++ v.kind ++ "'"))

/-- The text that a member of a joined list is. -/
def joinable : Value → Except Error String
  | .text s => .ok s
  | v => .error (.wrongKind ("expected str instance, " ++ v.kind ++ " found"))

/-- Texts joined by a separator; every member has to be a text. -/
def joinTexts (sep : String) (vs : List Value) : Except Error String :=
  (vs.mapM joinable).map (join sep)

end OracleCatalog.Value

namespace OracleCatalog

/-! ### Documents -/

/-- The error that a description lacks a field. -/
def missingField (name : String) : Error := .wrongKind ("missing required field '" ++ name ++ "'")

def requiredField (name : String) (fields : Entries) : Except Error Value :=
  match OrderedMap.get? (.text name) fields with
  | some v => .ok v
  | none => .error (missingField name)

def fieldOr (default : Value) (name : String) (fields : Entries) : Value :=
  (OrderedMap.get? (.text name) fields).getD default

/-- Refuses fields that are not among the known ones. -/
def checkFields (known : List String) (fields : Entries) : Except Error Unit :=
  match fields.find? fun field => !known.any (field.1.isText ·) with
  | some field => .error (.wrongKind ("unexpected field '" ++ field.1.toText ++ "'"))
  | none => .ok ()

/-- The values of a map whose fields are named by texts. -/
def document (fields : List (String × Value)) : Value :=
  .map (fields.map fun (name, v) => (.text name, v))

end OracleCatalog
