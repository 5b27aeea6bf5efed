import OracleCatalog.Value.Printer

/-!
# Errors

An error is its cause. The wording of every error is in `Error.message`.
-/

namespace OracleCatalog

open OracleCatalog.Text

/-! ### Faults of the database -/

/-- The family of an error that the database raised. -/
inductive FaultKind where
  /-- One of the catalog's own families, raised below it. -/
  | catalog | notFound | unsupportedType | execution
  /-- Any other family, by name. -/
  | other (name : String)
  deriving DecidableEq, Inhabited

/-- An error that the database raised. -/
structure Fault where
  kind : FaultKind
  text : String
  /-- The code on the error itself. -/
  code : Value := .null
  /-- The code on the first thing that the error carries. -/
  detailCode : Value := .null
  deriving Inhabited

/-! ### Causes -/

/-- Why a value of the right kind was refused. -/
inductive Refusal where
  /-- A text is no integer numeral of the base. -/
  | numeral (base : Nat) (shown : String)
  | numeralTooLong (digits : Nat)
  /-- An integer has too many digits to be written. -/
  | integerTooLong
  /-- A text is no numeral of a binary number. -/
  | floatNumeral (shown : String)
  /-- A binary number that is none has no integer. -/
  | floatNotANumber
  | decimalNotANumber
  /-- A value of this kind stands for no integer. -/
  | notIntegral (kind : String)
  /-- A word is not in its vocabulary. -/
  | notAMember (shown vocabulary : String)
  | caseOption (option : String)
  | portRange
  | portDigits
  | variant (name : String)
  /-- The return value was declared as an input. -/
  | resultDirection
  | noReferences (constraint : String)
  | conversion (reason : String)
  | alreadyDescribed (key : String)
  | noTarget
  /-- A member of a list of pairs is not a pair. -/
  | notAPair (index length : Nat)
  | placesOf (kind : String)
  /-- A number is the code of no character. -/
  | codeRange
  /-- A number is none of a calendar or a clock. -/
  | calendar (reason : String)
  deriving DecidableEq

/-- Why an operation failed. -/
inductive Error where
  /-- Values of this kind lack the operation. -/
  | noOperation (kind operation : String)
  /-- Values of this kind have no members to go through. -/
  | notIterable (kind : String)
  /-- An argument of a wrong kind, or a wrong set of arguments. -/
  | wrongKind (reason : String)
  /-- A position outside a sequence. -/
  | noPosition (kind : String)
  /-- The cache format has no form for a value of this kind. -/
  | notStorable (kind : String)
  /-- A file cannot have a name of this length. -/
  | nameTooLong (path : String)
  /-- A map lacks a field that is required. -/
  | noField (name : String)
  | noColumn (name table : String)
  | noConstraint (name table : String)
  | noIndex (name table : String)
  | refused (refusal : Refusal)
  /-- An infinite number has no integer. -/
  | infiniteFloat
  | infiniteDecimal
  | integerTooLarge
  /-- A number is too large to be the code of a character. -/
  | codeTooLarge
  | signaled (signal : Decimal.Signal)
  | unsupportedType (name : Value) (text : String)
  | noSuchRoutine (name : String)
  | noColumns (table : String)
  /-- A catalog query failed; the cause is kept where there is one. -/
  | execution (text : String) (code : Value) (cause : Option Error)
  /-- The database driver is not there. -/
  | driverMissing
  /-- A large object could not be read. -/
  | lobUnreadable (text : String)
  | raised (fault : Fault)
  deriving Inhabited

/-- The binary number nearest to an integer, which can be too large for one. -/
def Binary64.ofInteger (i : Int) : Except Error Float :=
  let x := Float.ofInt i
  if x.isInf then .error .integerTooLarge else .ok x

/-! ### Wording -/

/-- The wording of an unsupported type without a text of its own. -/
def unsupportedTypeText (name : Value) : String :=
  "Data type '" ++ name.toText ++ "' is not supported by Oracle"

/-- As much of a text as a message shows. -/
def excerpt (s : String) : String := String.ofList (s.toList.take 200)

def Refusal.message : Refusal → String
  | .numeral base shown =>
    "invalid literal for int() with base " ++ natText base ++ ": " ++ excerpt shown
  | .numeralTooLong digits =>
    "Exceeds the limit (4300 digits) for integer string conversion: value has " ++ natText digits ++
      " digits; use sys.set_int_max_str_digits() to increase the limit"
  | .integerTooLong =>
    "Exceeds the limit (4300 digits) for integer string conversion; " ++
      "use sys.set_int_max_str_digits() to increase the limit"
  | .floatNumeral shown => "could not convert string to float: " ++ shown
  | .floatNotANumber => "cannot convert float NaN to integer"
  | .decimalNotANumber => "cannot convert NaN to integer"
  | .notIntegral kind => "Cannot convert value of type `" ++ kind ++ "` to integer"
  | .notAMember shown vocabulary => shown ++ " is not a valid " ++ vocabulary
  | .caseOption option => "Unsupported case option '" ++ option ++ "'. Use 'lower' or leave unset"
  | .portRange => "Port must be between 1 and 65535"
  | .portDigits => "Port must be an integer"
  | .variant name =>
    "Unsupported Oracle variant: " ++ name ++
      ". Supported variants: ['oracle', 'oracle11', 'oracle12']"
  | .resultDirection => "Parameter ':result' must be OUT only"
  | .noReferences constraint => "Foreign key '" ++ constraint ++ "' has no references"
  | .conversion reason => "SQL dialect conversion failed: " ++ reason
  | .alreadyDescribed key =>
    "You cannot configure '" ++ key ++ "', it has already been constructed."
  | .noTarget => "Oracle connection requires user and dsn (or host)"
  | .notAPair index length =>
    "dictionary update sequence element #" ++ natText index ++ " has length " ++ natText length ++
      "; 2 is required"
  | .placesOf kind => "Unknown format code 'f' for object of type '" ++ kind ++ "'"
  | .codeRange => "chr() arg not in range(0x110000)"
  | .calendar reason => reason

def Decimal.Signal.message : Decimal.Signal → String
  | .invalidOperation => "[<class 'decimal.InvalidOperation'>]"
  | .overflow => "[<class 'decimal.Overflow'>]"

def Fault.message (fault : Fault) : String :=
  match fault.kind with
  | .unsupportedType => unsupportedTypeText (.text fault.text)
  | _ => fault.text

def Error.message : Error → String
  | .noOperation kind operation => "'" ++ kind ++ "' object has no attribute '" ++ operation ++ "'"
  | .notIterable kind => "'" ++ kind ++ "' object is not iterable"
  | .wrongKind reason => reason
  | .noPosition kind => kind ++ " index out of range"
  | .notStorable kind => "cannot represent an object of kind " ++ kind
  | .nameTooLong path => "[Errno 36] File name too long: " ++ quoted path
  | .noField name => name
  | .noColumn name table => "Column '" ++ name ++ "' not found in table '" ++ table ++ "'"
  | .noConstraint name table => "Constraint '" ++ name ++ "' not found in table '" ++ table ++ "'"
  | .noIndex name table => "Index '" ++ name ++ "' not found in table '" ++ table ++ "'"
  | .refused refusal => refusal.message
  | .infiniteFloat => "cannot convert float infinity to integer"
  | .infiniteDecimal => "cannot convert Infinity to integer"
  | .integerTooLarge => "int too large to convert to float"
  | .codeTooLarge => "Python int too large to convert to C int"
  | .signaled signal => signal.message
  | .unsupportedType _ text => text
  | .noSuchRoutine name => "Cannot describe " ++ name ++ ". Method not found."
  | .noColumns table => "Cannot describe " ++ table ++ ". It has 0 columns."
  | .execution text _ _ => text
  | .driverMissing => "oracledb is not installed. Install it with: pip install oracledb"
  | .lobUnreadable text => text
  | .raised fault => fault.message

/-! ### Execution errors -/

/-- Whether the error is of one of the catalog's own families. -/
def Error.isCatalog : Error → Bool
  | .unsupportedType .. | .noSuchRoutine _ | .noColumns _ | .execution .. => true
  | .raised fault =>
    match fault.kind with
    | .other _ => false
    | _ => true
  | _ => false

/-- The code of an error: its own, else that of the first thing it carries. -/
def Error.code : Error → Value
  | .execution _ code _ => code
  | .raised fault => if fault.code.isNull then fault.detailCode else fault.code
  | _ => .null

/-- The execution error for a failed catalog query. -/
def Error.wrap (cause : Error) : Error := .execution cause.message cause.code (some cause)

/-- An unsupported type, with a text of its own unless that is missing or empty. -/
def Error.ofTypeName (name : Value) (text : Option String) : Error :=
  match text with
  | some text => .unsupportedType name (if text = "" then unsupportedTypeText name else text)
  | none => .unsupportedType name (unsupportedTypeText name)

/-- The execution error for an error report, which may lack its message and its code. -/
def Error.ofReport (report : Entries) : Error :=
  .execution (((OrderedMap.get? (Value.text "message") report).getD (.text "Unknown error")).toText)
    ((OrderedMap.get? (Value.text "code") report).getD .null) none

end OracleCatalog
