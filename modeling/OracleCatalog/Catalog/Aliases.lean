import OracleCatalog.Catalog.Routines

/-!
# Descriptions under aliases

An alias stands for a routine. It is described once, on first use, under the name that its options
give, or else under itself. Its options can be changed until then.
-/

namespace OracleCatalog

/-- Descriptions and options under aliases. -/
structure Aliases where
  /-- The collection that describes aliases. -/
  routines : Routines
  options : OrderedMap String Entries := []
  described : OrderedMap String Routine := []
  deriving Inhabited

namespace Aliases

def optionsOf (aliases : Aliases) (key : String) : Entries :=
  (OrderedMap.get? key aliases.options).getD []

/-- Whether the alias has a description. -/
def exists? (aliases : Aliases) (key : String) : Bool := OrderedMap.has key aliases.described

def allOptions (aliases : Aliases) : Value :=
  document (aliases.options.map fun (key, options) => (key, .map options))

/-- Gives an alias other options, as long as it has no description. -/
def configure (aliases : Aliases) (key : String) (options : Value) : Except Error Aliases :=
  if aliases.exists? key then .error (.refused (.alreadyDescribed key))
  else options.toEntries.map fun options =>
    { aliases with options := aliases.options.put key options }

def keep (aliases : Aliases) (key : String) (routine : Routine) : Aliases :=
  { aliases with described := aliases.described.put key routine }

/-- Forgets the description and the options of an alias. -/
def remove (aliases : Aliases) (key : String) : Aliases :=
  { aliases with
    options := aliases.options.erase key
    described := aliases.described.erase key }

/-- Forgets all descriptions and options. -/
def clear (aliases : Aliases) : Aliases := { aliases with options := [], described := [] }

/-- The name that an alias is described under, where `given` are options besides its own. -/
def nameFor (aliases : Aliases) (key : String) (given : Value) : Except Error Value :=
  let merge (given : Entries) : Value :=
    let merged := (aliases.optionsOf key).update given
    (OrderedMap.get? (Value.text "name") merged).getD (.text key)
  if !given.truthy then .ok (merge [])
  else
    match given with
    | .map given => .ok (merge given)
    | v => .error (.wrongKind ("'" ++ v.kind ++ "' object is not a mapping"))

/-- The description under an alias, made by `describe` on first use. -/
def get {σ : Type} (describe : Value → Action σ Routine) (key : String) (given : Value) :
    Action (Aliases × σ) Routine := do
  let (aliases, _) ← Action.state
  match OrderedMap.get? key aliases.described with
  | some routine => return routine
  | none =>
    let name ← Action.ofExcept (aliases.nameFor key given)
    Action.note .aliases .debug ("Describing method " ++ name.toText ++ " for alias " ++ key)
    let routine ← (describe name).within (·.2) fun outer state => (state.1, outer)
    Action.change fun (aliases, outer) => (aliases.keep key routine, outer)
    return routine

end Aliases

end OracleCatalog
