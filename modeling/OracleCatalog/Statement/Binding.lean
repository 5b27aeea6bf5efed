import OracleCatalog.Value.Members

/-!
# Bindings

A statement binds values to placeholders. A placeholder is a position, which is an integer or a
truth value, or a name, which may be given with leading colons and is bound without them. Positions
and names are kept apart; as long as a position is bound, names are neither shown nor sent.
-/

namespace OracleCatalog

/-- The position that a placeholder is, if it is one. -/
def Value.position? : Value → Option Int
  | .int i => some i
  | .bool b => some b.toNat
  | _ => none

/-- The values bound in a statement. -/
structure Bindings where
  named : Entries := []
  positional : Entries := []
  deriving Inhabited

namespace Bindings

/-- Whether nothing is bound by position. -/
def isNamed (bindings : Bindings) : Bool := bindings.positional.isEmpty

/-- The name that a placeholder is, without leading colons. -/
def nameOf (placeholder : Value) : Except Error String :=
  (placeholder.asText "lstrip").map fun s => String.ofList (s.toList.dropWhile (· = ':'))

def bind (bindings : Bindings) (placeholder value : Value) : Except Error Bindings :=
  match placeholder.position? with
  | some _ => .ok { bindings with positional := bindings.positional.put placeholder value }
  | none =>
    (nameOf placeholder).map fun name =>
      { bindings with named := bindings.named.put (.text name) value }

/-- Whether the first of two positions does not come after the second. -/
def inOrder (a b : Value × Value) : Bool := (a.1.position?.getD 0) ≤ (b.1.position?.getD 0)

/-- The values bound by position, in the order of their positions. -/
def sorted (bindings : Bindings) : Entries := bindings.positional.mergeSort inOrder

def shown (bindings : Bindings) : Entries :=
  if bindings.isNamed then bindings.named else bindings.sorted

def sent (bindings : Bindings) : Value :=
  if bindings.isNamed then .map bindings.named
  else .list (OrderedMap.values bindings.sorted)

end Bindings

/-! ### Parameters -/

/-- The members of a list of values behind their positions, counted from `index`. -/
def enumerated (index : Nat) : List Value → Entries
  | [] => []
  | v :: vs => (.int index, v) :: enumerated (index + 1) vs

/-- The placeholders and values that a value stands for: the entries of a map, or the members of any
other value by position. -/
def Value.placements : Value → Except Error Entries
  | .map entries => .ok entries
  | v => v.members.map (enumerated 0)

end OracleCatalog
