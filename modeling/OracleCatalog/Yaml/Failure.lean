import OracleCatalog.Error

/-!
# Failures of reading

A document that breaks a rule of the format is unreadable. Where a scalar has a form of its own and
its content is no value of that form, reading fails with the error of that value.
-/

namespace OracleCatalog.Yaml

/-- Why a document has no value. -/
inductive Failure where
  | unreadable
  | raised (error : Error)
  deriving Inhabited

def Failure.refused (refusal : Refusal) : Failure := .raised (.refused refusal)

abbrev Reading (α : Type) := Except Failure α

def orUnreadable {α : Type} (result : Option α) : Reading α :=
  match result with
  | some a => .ok a
  | none => .error .unreadable

end OracleCatalog.Yaml
