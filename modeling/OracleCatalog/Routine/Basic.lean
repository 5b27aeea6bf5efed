import OracleCatalog.DataType.Abstract
import OracleCatalog.Value.Members

/-!
# Routines

A procedure or function has parameters in catalog order. The value that a function returns is a
parameter of its own, under a name that no argument has; it can only be an output.
-/

namespace OracleCatalog

/-- A parameter. -/
structure Parameter where
  name : Value
  type : AbstractType
  isIn : Value := .bool true
  isOut : Value := .bool false
  position : Value := .null
  length : Value := .null
  precision : Value := .null
  scale : Value := .null
  /-- The catalog's name of a type that has no abstract one. -/
  nativeType : Value := .null
  deriving Inhabited

/-- A procedure, a function or a member of a package. -/
structure Routine where
  name : Value
  parameters : List Parameter := []
  deriving Inhabited

/-- The name of the parameter that receives the value of a function. -/
def resultName : String := ":result"

namespace Parameter

/-- Whether the parameter receives the value of a function. -/
def isResult (parameter : Parameter) : Bool := parameter.name.isText resultName

/-- Whether the parameter is both an input and an output. -/
def inOut (parameter : Parameter) : Value :=
  if parameter.isIn.truthy then parameter.isOut else parameter.isIn

/-- Whether the parameter may be declared: the value of a function is an output alone. -/
def isSound (parameter : Parameter) : Bool :=
  !parameter.isResult || (!parameter.isIn.truthy && parameter.isOut.truthy)

/-- Refuses a parameter that may not be declared. -/
def check (parameter : Parameter) : Except Error Parameter :=
  if parameter.isSound then .ok parameter else .error (.refused .resultDirection)

end Parameter

namespace Routine

/-- Whether the object returns a value. -/
def isFunction (routine : Routine) : Bool := routine.parameters.any (·.isResult)

def parameter? (routine : Routine) (name : Value) : Option Parameter :=
  routine.parameters.find? (·.name == name)

def parameterNames (routine : Routine) : List Value := routine.parameters.map (·.name)

/-- The parameters that are passed in a call. -/
def arguments (routine : Routine) : List Parameter := routine.parameters.filter (!·.isResult)

end Routine

/-! ### Building -/

/-- A routine in the making: its parameters under their names. -/
structure RoutineBuilder where
  name : Value
  parameters : OrderedMap Value Parameter := []
  deriving Inhabited

namespace RoutineBuilder

/-- Adds a parameter, in the place of an earlier one of its name. -/
def addParameter (builder : RoutineBuilder) (parameter : Parameter) :
    Except Error RoutineBuilder := do
  let parameter ← parameter.check
  let name ← parameter.name.asKey
  return { builder with parameters := builder.parameters.put name parameter }

/-- The object of everything that has been added. -/
def build (builder : RoutineBuilder) : Routine :=
  { name := builder.name, parameters := OrderedMap.values builder.parameters }

end RoutineBuilder

end OracleCatalog
