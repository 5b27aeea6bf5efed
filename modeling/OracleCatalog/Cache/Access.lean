import OracleCatalog.Cache.Basic
import OracleCatalog.Yaml.Printer
import OracleCatalog.Yaml.Reader

/-!
# Reading and writing caches

Both kinds of caches are read and written in the same way. A file holds its value as YAML. It may
have been put into the directory by someone else: one that is no YAML is warned of and counts as
missing, one with a malformed scalar is an error.
-/

namespace OracleCatalog

namespace Cache

variable {σ : Type}

def openMemory : Action σ Cache := Action.onEnvironment fun env =>
  (.memory env.memories.length, { env with memories := env.memories ++ [[]] })

/-- Whether the file of a key cannot have its name. A directory that is not there is not looked
into. -/
def isTooLong (path key : String) (env : Environment) : Bool :=
  (nameLimit < (fileName key).utf8ByteSize && (env.directory? path).isSome) ||
    pathLimit < (filePath path key).utf8ByteSize

/-- Fails where the file of a key cannot have its name. -/
def checkName (path key : String) : Action σ Unit := do
  if ← Action.onEnvironment fun env => (isTooLong path key env, env) then
    throw (.nameTooLong (filePath path key))

/-- The value under a key; null where there is none. -/
def get (key : String) : Cache → Action σ Value
  | .memory number => Action.onEnvironment fun env =>
    ((OrderedMap.get? key (env.memory number)).getD .null, env)
  | .files path => do
    checkName path key
    match ← Action.onEnvironment fun env => (env.file? path (fileName key), env) with
    | none => return .null
    | some text =>
      match Yaml.read text with
      | .ok v => return v
      | .error .unreadable =>
        Action.note .cache .warning "Ignoring unreadable cache entry "
        return .null
      | .error (.raised error) => throw error

/-- Keeps a value under a key. A value that files cannot keep leaves an empty file. -/
def set (key : String) (value : Value) : Cache → Action σ Unit
  | .memory number =>
    Action.onEnvironment fun env => ((), env.changeMemory number (·.put key value))
  | .files path => do
    let write (text : String) : Action σ Unit :=
      Action.onEnvironment fun env => ((), env.writeFile path (fileName key) text)
    Action.onEnvironment fun env => ((), env.makeDirectory path)
    checkName path key
    write ""
    write (Yaml.print (← Action.ofExcept value.storable))

def delete (key : String) : Cache → Action σ Unit
  | .memory number =>
    Action.onEnvironment fun env => ((), env.changeMemory number (OrderedMap.erase key))
  | .files path => do
    checkName path key
    Action.onEnvironment fun env =>
      match env.directory? path with
      | none => ((), env)
      | some directory =>
        ((), env.withDirectory path (OrderedMap.erase (fileName key) directory))

/-- Forgets everything; of a directory, the files that belong to caches. -/
def clear : Cache → Action σ Unit
  | .memory number => Action.onEnvironment fun env => ((), env.changeMemory number fun _ => [])
  | .files path => Action.onEnvironment fun env =>
    match env.directory? path with
    | none => ((), env)
    | some directory =>
      ((), env.withDirectory path (directory.filter fun entry => !isCacheFile entry.1))

end Cache

/-! ### Files as they are -/

namespace Environment

/-- The names of the files of a directory in order, none while it is not there. -/
def fileNames? (path : String) (env : Environment) : Option (List String) :=
  (env.directory? path).map fun directory =>
    (OrderedMap.keys directory).mergeSort fun a b => decide (a ≤ b)

end Environment

end OracleCatalog
