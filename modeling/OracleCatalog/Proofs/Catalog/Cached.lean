import OracleCatalog.Proofs.Cache.Access
import OracleCatalog.Proofs.Catalog.Routines

/-!
# Descriptions from a cache

A collection with a cache describes a name as the catalog has it, until the cache has a description
under the key of the name. From then on it answers with that one, which is the description of the
first name with this key that could be described. Names have one key when they are the same in small
letters, so that names in different letter case share a description.
-/

namespace OracleCatalog.Routines

variable {reply : String → Value → Reply} {origin : Connection} (routines : Routines)

/-! ### What a cache remembers -/

/-- The description of the first name with the key that could be described. -/
def recalled (settings : Settings) (answer : Value → Except Error Routine) (names : List Value)
    (key : String) : Option Routine :=
  names.findSome? fun name => if cacheKey settings name = key then (answer name).toOption else none

/-- What a collection with a cache answers after it has been asked for other names. -/
def recallOr (settings : Settings) (answer : Value → Except Error Routine) (earlier : List Value)
    (name : Value) : Except Error Routine :=
  match recalled settings answer earlier (cacheKey settings name) with
  | some routine => .ok routine
  | none => answer name

/-- A cache in memory keeps the descriptions that are recalled. -/
def Remembers (settings : Settings) (answer : Value → Except Error Routine) (names : List Value)
    (number : Nat) (env : Environment) : Prop :=
  ∃ store, env.memories[number]? = some store ∧
    ∀ key, OrderedMap.get? key store = (recalled settings answer names key).map Routine.toDocument

section Recalling

variable {settings : Settings} {answer : Value → Except Error Routine} {earlier : List Value}

theorem exists_of_recalled {key : String} {routine : Routine}
    (h : recalled settings answer earlier key = some routine) :
    ∃ name ∈ earlier, cacheKey settings name = key ∧ answer name = .ok routine := by
  obtain ⟨name, hname, h⟩ := List.exists_of_findSome?_eq_some h
  split at h
  · rename_i hkey
    refine ⟨name, hname, hkey, ?_⟩
    cases hanswer : answer name with
    | error e =>
      rw [hanswer] at h
      cases h
    | ok r =>
      rw [hanswer] at h
      exact congrArg _ (Option.some.inj h)
  · cases h

/-- Another name changes what is recalled under its own key alone, and only where nothing was. -/
theorem recalled_append (name : Value) (key : String) :
    recalled settings answer (earlier ++ [name]) key =
      (recalled settings answer earlier key).or
        (if cacheKey settings name = key then (answer name).toOption else none) := by
  unfold recalled
  rw [List.findSome?_append, List.findSome?_cons]
  split
  · rename_i h
    rw [h]
  · rename_i h
    rw [h]
    rfl

end Recalling

theorem memory_of_remembers {settings : Settings} {answer : Value → Except Error Routine}
    {names : List Value} {number : Nat} {env : Environment}
    (h : Remembers settings answer names number env) (key : String) :
    OrderedMap.get? key (env.memory number) =
      (recalled settings answer names key).map Routine.toDocument := by
  obtain ⟨store, hstore, hkeys⟩ := h
  rw [Environment.memory_of_getElem? hstore]
  exact hkeys key

theorem cached?_hit {number : Nat} {key : String} {name : Value} {routine : Routine}
    (connection : Connection) {env : Environment}
    (found : OrderedMap.get? key (env.memory number) = some routine.toDocument)
    (sound : routine.IsSound) :
    (cached? (.memory number) key name).perform connection env =
      { result := .ok (some routine)
        state := connection
        environment := env.note .cachedRoutines .debug
          ("Method metadata for " ++ name.toText ++ " read from cache") } := by
  unfold cached? Cache.get
  rw [Action.perform_bind, Action.perform_onEnvironment, Outcome.andThen_ok, found]
  dsimp only [Option.getD_some]
  rw [if_pos (Routine.truthy_toDocument routine), Action.perform_bind, Action.perform_note,
    Outcome.andThen_ok, Routine.ofDocument_toDocument sound]
  rfl

theorem cached?_miss {number : Nat} {key : String} {name : Value} (connection : Connection)
    {env : Environment} (missing : OrderedMap.get? key (env.memory number) = none) :
    (cached? (.memory number) key name).perform connection env =
      { result := .ok none, state := connection, environment := env } := by
  unfold cached? Cache.get
  rw [Action.perform_bind, Action.perform_onEnvironment, Outcome.andThen_ok, missing]
  rfl

/-- A description from the catalog is put into the memory; a failure is passed on. -/
theorem describeAndKeep_memory (number : Nat) (key : String) (name : Value)
    (connection : Connection) (env : Environment) :
    let plain := (routines.describeFresh name).perform connection env
    (routines.describeAndKeep (.memory number) key name).perform connection env =
      { result := plain.result
        state := plain.state
        environment := match plain.result with
          | .ok routine => plain.environment.changeMemory number (·.put key routine.toDocument)
          | .error _ => plain.environment } := by
  unfold describeAndKeep
  rw [Action.perform_bind]
  generalize (routines.describeFresh name).perform connection env = plain
  obtain ⟨result, connection', env'⟩ := plain
  cases result <;> rfl

/-! ### Runs of descriptions -/

/-- What a collection answers to names that it describes one after the other. -/
def describeEach (names : List Value) (connection : Connection) (env : Environment) :
    List (Except Error Routine) :=
  (Action.outcomes (names.map fun name => routines.describe name false) connection env).map
    (·.result)

theorem describeEach_cons (name : Value) (names : List Value) (connection : Connection)
    (env : Environment) :
    routines.describeEach (name :: names) connection env =
      ((routines.describe name false).perform connection env.nextStep).result ::
        routines.describeEach names
          ((routines.describe name false).perform connection env.nextStep).state
          ((routines.describe name false).perform connection env.nextStep).environment := rfl

section Runs

variable {routines} {env env' : Environment} {connection : Connection} {number : Nat}

theorem describe_uncached (hcache : routines.cache = none) (name : Value) :
    routines.describe name false = routines.describeFresh name := by
  unfold describe
  rw [hcache]

theorem describeEach_uncached (hcache : routines.cache = none)
    (later : Later reply origin env connection env') (names : List Value) :
    routines.describeEach names connection env' = names.map (answer origin env) := by
  induction names generalizing connection env' with
  | nil => rfl
  | cons name rest ih =>
    obtain ⟨hresult, hlater, -, -⟩ := later.nextStep.describeFresh routines name
    rw [← describe_uncached hcache] at hresult hlater
    rw [describeEach_cons, hresult, ih hlater, List.map_cons]

theorem describe_perform {cache : Cache} (hcache : routines.cache = some cache) (name : Value)
    (fresh : Bool) (connection : Connection) (env : Environment) :
    (routines.describe name fresh).perform connection env =
      ((if fresh then pure none else cached? cache (cacheKey connection.settings name) name).perform
        connection env).andThen fun found =>
          match found with
          | some routine => return routine
          | none => routines.describeAndKeep cache (cacheKey connection.settings name) name := by
  unfold describe
  rw [hcache]
  dsimp only
  rw [Action.perform_bind, Action.perform_state, Outcome.andThen_ok]
  exact Action.perform_bind _ _ _ _

/-- What a collection with a cache comes to when it describes one more name. -/
structure Describes (reply : String → Value → Reply) (origin : Connection) (env : Environment)
    (number : Nat) (earlier : List Value) (name : Value) (o : Outcome Connection Routine) :
    Prop where
  result_eq : o.result = recallOr origin.settings (answer origin env) earlier name
  later : Later reply origin env o.state o.environment
  remembers : Remembers origin.settings (answer origin env) (earlier ++ [name]) number
    o.environment

section Describe

variable {earlier : List Value} (hcache : routines.cache = some (.memory number))
  (later : Later reply origin env connection env')
  (remembers : Remembers origin.settings (answer origin env) earlier number env')

include hcache later remembers

theorem describe_recalled {name : Value} {routine : Routine}
    (hrecalled : recalled origin.settings (answer origin env) earlier
      (cacheKey origin.settings name) = some routine) :
    Describes reply origin env number earlier name
      ((routines.describe name false).perform connection env') := by
  have hsettings : connection.settings = origin.settings := congrArg Dialect.settings later.akin.1
  have found := memory_of_remembers remembers (cacheKey origin.settings name)
  rw [hrecalled] at found
  -- only descriptions of the catalog are kept, and those can be read back
  obtain ⟨first, -, -, hfirst⟩ := exists_of_recalled hrecalled
  have sound : routine.IsSound := (later.describeFresh routines first).2.2.2 routine hfirst
  rw [describe_perform hcache, hsettings, if_neg Bool.false_ne_true,
    cached?_hit connection found sound, Outcome.andThen_ok]
  obtain ⟨store, hstore, hkeys⟩ := remembers
  refine ⟨?_, ⟨later.akin, later.fixed⟩, store, hstore, fun key => ?_⟩
  · rw [recallOr, hrecalled]
    rfl
  · rw [hkeys, recalled_append]
    split
    · rename_i hkey
      rw [← hkey, hrecalled]
      rfl
    · rw [Option.or_none]

theorem describe_unrecalled {name : Value}
    (hrecalled : recalled origin.settings (answer origin env) earlier
      (cacheKey origin.settings name) = none) :
    Describes reply origin env number earlier name
      ((routines.describe name false).perform connection env') := by
  have hsettings : connection.settings = origin.settings := congrArg Dialect.settings later.akin.1
  have missing := memory_of_remembers remembers (cacheKey origin.settings name)
  rw [hrecalled] at missing
  obtain ⟨hresult, hlater, hmemories, -⟩ := later.describeFresh routines name
  rw [describe_perform hcache, hsettings, if_neg Bool.false_ne_true,
    cached?_miss connection missing, Outcome.andThen_ok]
  dsimp only
  rw [describeAndKeep_memory]
  generalize (routines.describeFresh name).perform connection env' = reached at *
  obtain ⟨result, connection', env''⟩ := reached
  obtain ⟨store, hstore, hkeys⟩ := remembers
  have hstore' : env''.memories[number]? = some store :=
    (congrArg (·[number]?) hmemories).trans hstore
  have hanswer : recallOr origin.settings (answer origin env) earlier name =
      answer origin env name := by
    rw [recallOr, hrecalled]
  cases result with
  | error e =>
    refine ⟨hresult.trans hanswer.symm, hlater, store, hstore', fun key => ?_⟩
    rw [hkeys, recalled_append, ← hresult, Except.toOption, ite_self, Option.or_none]
  | ok routine =>
    refine ⟨hresult.trans hanswer.symm, ⟨hlater.akin, hlater.fixed.answering,
      hlater.fixed.otherAnswering, hlater.fixed.cursorFaults, hlater.fixed.otherCursorFaults,
      hlater.fixed.opening⟩, store.put (cacheKey origin.settings name) routine.toDocument, ?_,
      fun key => ?_⟩
    · exact Environment.getElem?_changeMemory hstore' _
    · rw [recalled_append, ← hresult]
      by_cases hkey : cacheKey origin.settings name = key
      · subst hkey
        rw [OrderedMap.get?_put_self, hrecalled, if_pos rfl]
        rfl
      · rw [OrderedMap.get?_put_of_ne (Ne.symm hkey), hkeys, if_neg hkey, Option.or_none]

theorem describe_cached (name : Value) :
    Describes reply origin env number earlier name
      ((routines.describe name false).perform connection env') := by
  cases hrecalled : recalled origin.settings (answer origin env) earlier
      (cacheKey origin.settings name) with
  | some routine => exact describe_recalled hcache later remembers hrecalled
  | none => exact describe_unrecalled hcache later remembers hrecalled

end Describe

/-- With a cache, a name is answered with the description that is recalled for its key, if there is
one. -/
theorem describeEach_cached (hcache : routines.cache = some (.memory number))
    (later : Later reply origin env connection env') {earlier : List Value}
    (remembers : Remembers origin.settings (answer origin env) earlier number env')
    (names : List Value) (i : Nat) (hi : i < names.length) :
    (routines.describeEach names connection env')[i]? =
      some (recallOr origin.settings (answer origin env) (earlier ++ names.take i) names[i]) := by
  -- the names before count as earlier ones for the rest
  induction names generalizing connection env' earlier i with
  | nil => exact absurd hi (Nat.not_lt_zero i)
  | cons name rest ih =>
    have remembers' : Remembers origin.settings (answer origin env) earlier number env'.nextStep :=
      remembers
    obtain ⟨hresult, hlater, hremembers⟩ := describe_cached hcache later.nextStep remembers' name
    rw [describeEach_cons]
    cases i with
    | zero =>
      rw [List.getElem?_cons_zero, hresult, List.take_zero, List.append_nil]
      rfl
    | succ i =>
      have hi' : i < rest.length := Nat.lt_of_succ_lt_succ hi
      rw [List.getElem?_cons_succ, ih hlater hremembers i hi', List.take_succ_cons,
        List.append_assoc, List.singleton_append]
      rfl

theorem recallOr_eq {settings : Settings} {answer : Value → Except Error Routine}
    {earlier : List Value} {name : Value}
    (same : ∀ other ∈ earlier, cacheKey settings other = cacheKey settings name → other = name) :
    recallOr settings answer earlier name = answer name := by
  unfold recallOr
  split
  · rename_i routine hrecalled
    obtain ⟨other, hother, hkey, hanswer⟩ := exists_of_recalled hrecalled
    rw [← same other hother hkey, hanswer]
  · rfl

end Runs

/-- A collection over an empty cache in memory answers a name with the description of the first name
that had its key and could be described, and otherwise as the catalog does. In particular it answers
like a collection without a cache to names that are the same whenever their keys are. -/
theorem describeEach_over_memory {routines plain : Routines} {connection : Connection}
    {env : Environment} {number : Nat} (fixed : env.answering = .fixed reply)
    (faultless : env.cursorFaults = []) (hcache : routines.cache = some (.memory number))
    (hplain : plain.cache = none) (empty : env.memories[number]? = some []) (names : List Value) :
    plain.describeEach names connection env = names.map (answer connection env) ∧
      (∀ (i : Nat) (hi : i < names.length),
        (routines.describeEach names connection env)[i]? =
          some (recallOr connection.settings (answer connection env) (names.take i) names[i])) ∧
      ((∀ name ∈ names, ∀ other ∈ names,
          cacheKey connection.settings other = cacheKey connection.settings name → other = name) →
        routines.describeEach names connection env = plain.describeEach names connection env) := by
  have later : Later reply connection env connection env :=
    ⟨⟨rfl, rfl⟩, fixed, fixed, faultless, faultless, rfl⟩
  have remembers : Remembers connection.settings (answer connection env) [] number env :=
    ⟨[], empty, fun _ => rfl⟩
  have huncached := describeEach_uncached hplain later names
  have hcached := describeEach_cached hcache later remembers names
  refine ⟨huncached, hcached, fun same => ?_⟩
  have hlength : (routines.describeEach names connection env).length = names.length := by
    rw [describeEach, List.length_map, Action.length_outcomes, List.length_map]
  rw [huncached]
  refine List.ext_getElem? fun i => ?_
  by_cases hi : i < names.length
  · rw [hcached i hi, List.getElem?_map, List.getElem?_eq_getElem hi, List.nil_append]
    refine congrArg some (recallOr_eq fun other hother hkey => ?_)
    exact same names[i] (List.getElem_mem hi) other (List.mem_of_mem_take hother) hkey
  · have hle : names.length ≤ i := Nat.le_of_not_lt hi
    rw [List.getElem?_eq_none (hlength ▸ hle), List.getElem?_eq_none]
    rw [List.length_map]
    exact hle

/-- A database that knows one routine, by its name in capitals. -/
def soleRoutine (_ : String) (parameters : Value) : Reply :=
  match parameters with
  | .map [(_, .text "P")] => { rows := [[.text "P"]] }
  | _ => {}

def soleEnvironment : Environment := { answering := .fixed soleRoutine, memories := [[]] }

def soleConnection : Connection := { driver := { dialect := {} }, link := some 0 }

theorem describeEach_repeated_name :
    (∀ name ∈ [Value.text "P", .text "P"], ∀ other ∈ [Value.text "P", .text "P"],
      cacheKey soleConnection.settings other = cacheKey soleConnection.settings name →
        other = name) ∧
    describeEach { cache := some (.memory 0) } [.text "P", .text "P"] soleConnection
        soleEnvironment =
      describeEach {} [.text "P", .text "P"] soleConnection soleEnvironment := by
  have all : ∀ v ∈ [Value.text "P", .text "P"], v = .text "P" := by
    intro v hv
    rcases List.mem_cons.1 hv with rfl | hv
    · rfl
    · exact List.mem_singleton.1 hv
  have same : ∀ name ∈ [Value.text "P", .text "P"], ∀ other ∈ [Value.text "P", .text "P"],
      cacheKey soleConnection.settings other = cacheKey soleConnection.settings name →
        other = name := by
    intro name hname other hother _
    rw [all name hname, all other hother]
  exact ⟨same, (describeEach_over_memory rfl rfl rfl rfl rfl _).2.2 same⟩

/-- A name in small letters that the catalog does not know is answered with the description of the
routine in capitals. -/
theorem describeEach_other_letter_case :
    describeEach {} [.text "P", .text "p"] soleConnection soleEnvironment =
        [.ok { name := .text "P" }, .error (.noSuchRoutine "p")] ∧
      describeEach { cache := some (.memory 0) } [.text "P", .text "p"] soleConnection
          soleEnvironment =
        [.ok { name := .text "P" }, .ok { name := .text "P" }] :=
  ⟨rfl, rfl⟩

end OracleCatalog.Routines
