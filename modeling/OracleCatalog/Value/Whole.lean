import OracleCatalog.Decimal.Numeral
import OracleCatalog.Value.Members

/-!
# Integers from values

Three ways of taking an integer out of a value: reading any value as an integer, reading a number of
the catalog, which may be missing, and coercing a value that is bound as an integer.
-/

namespace OracleCatalog.Value

open OracleCatalog.Text

/-! ### Any value -/

/-- The integer of a numeral, where `shown` is how a message shows the numeral. -/
def wholeOfText (shown s : String) : Except Error Int :=
  match readInteger s with
  | .integer i => .ok i
  | .malformed => .error (.refused (.numeral 10 shown))
  | .tooLong digits => .error (.refused (.numeralTooLong digits))

/-- The integer of a numeral in bytes, which have to be of seven bits. -/
def wholeOfBytes (bytes : List UInt8) : Except Error Int :=
  let char (b : UInt8) : Char := if b < 0x80 then Char.ofNat b.toNat else '?'
  wholeOfText (quotedBytes (bytes.take 200)) (String.ofList (bytes.map char))

/-- A binary number without its fractional part. -/
def wholeOfFloat (x : Float) : Except Error Int :=
  match Binary64.read x with
  | .finite negative m e => .ok (signed negative (Binary64.wholePart m e))
  | .infinite _ => .error .infiniteFloat
  | .nan => .error (.refused .floatNotANumber)

/-- A decimal number without its fractional part. -/
def wholeOfDecimal : Decimal → Except Error Int
  | .finite negative c e => .ok (signed negative (Decimal.wholePart c e))
  | .infinite _ => .error .infiniteDecimal
  | .nan .. => .error (.refused .decimalNotANumber)

/-- The integer of a value: fractional parts are cut off and texts are read. -/
def whole : Value → Except Error Int
  | .bool b => .ok b.toNat
  | .int i => .ok i
  | .float x => wholeOfFloat x
  | .decimal d => wholeOfDecimal d
  | .text s => wholeOfText (quoted s) s
  | .bytes b => wholeOfBytes b
  | v =>
    .error (.wrongKind (
      "int() argument must be a string, a bytes-like object or a real number, not '" ++
      v.kind ++ "'"))

/-- A number of the catalog, none when it is null or empty. -/
def catalogInteger (v : Value) : Except Error (Option Int) :=
  if v.isMissing then .ok none else v.whole.map some

/-- An integer in decimal; one of too many digits cannot be written. -/
def writeInteger (i : Int) : Except Error String :=
  if Nat.pow 10 digitLimit ≤ i.natAbs then .error (.refused .integerTooLong) else .ok (intText i)

def wholeText (v : Value) : Except Error String := v.whole.bind writeInteger

mutual

/-- Whether every integer that the text of the value shows can be written. -/
def writable : Value → Bool
  | .int i => i.natAbs < Nat.pow 10 digitLimit
  | .list xs => allWritable xs
  | .tuple xs => allWritable xs
  | .map es => entriesWritable es
  | _ => true

def allWritable : List Value → Bool
  | [] => true
  | x :: xs => x.writable && allWritable xs

def entriesWritable : List (Value × Value) → Bool
  | [] => true
  | (k, v) :: es => k.writable && v.writable && entriesWritable es

end

/-- The text of a value; one that shows an integer of too many digits has none. -/
def writeText (v : Value) : Except Error String :=
  if v.writable then .ok v.toText else .error (.refused .integerTooLong)

/-! ### Integer-bound values -/

/-- The integer of a number, a truth value or a decimal numeral. -/
def integral : Value → Except Error Int
  | .bool b => .ok b.toNat
  | .int i => .ok i
  | .float x => wholeOfFloat x
  | .decimal d => wholeOfDecimal d
  | .text s =>
    match (Decimal.read? s).filter Decimal.isInRange with
    | some d => wholeOfDecimal d
    | none => .error (.refused (.notIntegral "str"))
  | v => .error (.refused (.notIntegral v.kind))

/-- The integer that is sent to the database, none for a missing value. -/
def toDatabase (v : Value) : Except Error (Option Int) :=
  if v.isMissing then .ok none else v.integral.map some

/-- The integer of a value that came from the database, none for null. -/
def fromDatabase (v : Value) : Except Error (Option Int) :=
  if v.isNull then .ok none else v.whole.map some

/-- The integer of user input: what is refused becomes none. -/
def marshal (v : Value) : Except Error (Option Int) :=
  match v.toDatabase with
  | .error (.refused _) => .ok none
  | answer => answer

/-- The row with the named fields made integers; missing and null fields stay as they are. -/
def integralFields (row : Entries) : List Value → Except Error Entries
  | [] => .ok row
  | field :: fields => do
    match OrderedMap.get? (← field.asKey) row with
    | none | some .null => integralFields row fields
    | some v => integralFields (row.put field (.int (← v.integral))) fields

end OracleCatalog.Value
