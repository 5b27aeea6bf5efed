import OracleCatalog.Session.Action
import OracleCatalog.Value.Whole

/-!
# Caches

A cache keeps values under texts, in memory or as files of a directory. Each key has a file of its
own name, in which only letters, digits, underscores, dots and dashes stand for themselves, so that
no key leads out of the directory.
-/

namespace OracleCatalog

/-- A place that keeps values. -/
inductive Cache where
  /-- A cache in memory, by its number. -/
  | memory (number : Nat)
  /-- A directory with one file for each key, by its path in the shortest spelling. -/
  | files (path : String)
  deriving DecidableEq, Inhabited

/-! ### Names of files -/

def isFileChar (c : Char) : Bool := c.isAlphanum || c = '_' || c = '.' || c = '-'

def fileEnding : String := ".yaml"

def fileName (key : String) : String :=
  String.ofList (key.toList.map fun c => if isFileChar c then c else '_') ++ fileEnding

def isCacheFile (name : String) : Bool := fileEnding.toList.isSuffixOf name.toList

theorem isFileChar_fileName (key : String) : (fileName key).toList.all isFileChar = true := by
  have h : ∀ c : Char, isFileChar (if isFileChar c then c else '_') = true := by
    intro c
    split
    · assumption
    · decide
  have e : fileEnding.toList.all isFileChar = true := by decide
  simp only [fileName, String.toList_append, String.toList_ofList, List.all_append, e,
    Bool.and_true, List.all_map]
  exact List.all_eq_true.2 fun c _ => h c

theorem isCacheFile_fileName (key : String) : isCacheFile (fileName key) = true := by
  simp only [isCacheFile, fileName, String.toList_append]
  exact List.isSuffixOf_iff_suffix.2 ⟨_, rfl⟩

/-- The most bytes that the name of a file may have. -/
def nameLimit : Nat := 255

/-- The most bytes that the path of a file may have. -/
def pathLimit : Nat := 4095

/-! ### Paths of directories -/

/-- The names on the way to a directory, the last one first, after one more step: an empty name and
a dot stay where they are, two dots go back. -/
def pathStep (absolute : Bool) (names : List String) (name : String) : List String :=
  if name = "" || name = "." then names
  else if name = ".." then
    match names with
    | [] => if absolute then [] else [".."]
    | last :: before => if last = ".." then ".." :: names else before
  else name :: names

def shortestPath (path : String) : String :=
  let absolute : Bool := path.toList.head? = some '/'
  let names := ((Text.segments '/' path).foldl (pathStep absolute) []).reverse
  if absolute then "/" ++ Text.join "/" names
  else if names.isEmpty then "."
  else Text.join "/" names

def filePath (path key : String) : String :=
  if path = "." then fileName key
  else if path = "/" then path ++ fileName key
  else path ++ "/" ++ fileName key

/-! ### Stored values -/

mutual

/-- A value as files keep it: tuples become lists. Decimals, large objects and integers of too many
digits have no form. -/
def Value.storable : Value → Except Error Value
  | .int i => do
    let _ ← Value.writeInteger i
    return .int i
  | .list items => do return .list (← storableAll items)
  | .tuple items => do return .list (← storableAll items)
  | .map entries => do return .map (← storableEntries entries)
  | .decimal d => .error (.notStorable (Value.decimal d).kind)
  | .lob handle => .error (.notStorable (Value.lob handle).kind)
  | v => .ok v

/-- Values as files keep them. -/
def Value.storableAll : List Value → Except Error (List Value)
  | [] => .ok []
  | v :: vs => do return (← v.storable) :: (← storableAll vs)

/-- The entries of a map as files keep them. -/
def Value.storableEntries : List (Value × Value) → Except Error (List (Value × Value))
  | [] => .ok []
  | (key, v) :: entries => do
    return (← key.storable, ← v.storable) :: (← storableEntries entries)

end

/-! ### Directories -/

namespace Environment

/-- The directory of a path, if it is there. -/
def directory? (path : String) (env : Environment) : Option Directory :=
  OrderedMap.get? path env.directories

def withDirectory (path : String) (directory : Directory) (env : Environment) : Environment :=
  { env with directories := env.directories.put path directory }

def makeDirectory (path : String) (env : Environment) : Environment :=
  env.withDirectory path ((env.directory? path).getD [])

/-- Writes a file; the directory is made if it is not there. -/
def writeFile (path name text : String) (env : Environment) : Environment :=
  env.withDirectory path (((env.directory? path).getD []).put name text)

def file? (path name : String) (env : Environment) : Option String :=
  (env.directory? path).bind (OrderedMap.get? name)

def memory (number : Nat) (env : Environment) : OrderedMap String Value :=
  (env.memories[number]?).getD []

def changeMemory (number : Nat) (f : OrderedMap String Value → OrderedMap String Value)
    (env : Environment) : Environment :=
  { env with memories := env.memories.modify number f }

end Environment

end OracleCatalog
