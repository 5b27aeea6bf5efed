import Mathlib.Data.List.DropRight
import OracleCatalog.Catalog.Session
import OracleCatalog.Proofs.Session.Runs

/-!
# The collections of a session and of its aliases

The aliases of a session keep the collection that was current when they were made. A change of the
cache setting does away with both, so that they are made anew together, while another collection can
be made the current one on its own: then the aliases go on with the one that they have.
-/

namespace OracleCatalog.Session

/-! ### Calls and their histories -/

inductive Call where
  | routines
  /-- Makes a collection the current one. -/
  | install (routines : Routines)
  | cacheMetadata (setting : Value)
  | aliases
  | tables
  | execute (sql parameters : Value) (convert : Bool)
  | close

inductive Answer where
  | done
  | routines (routines : Routines)
  | aliases (aliases : Aliases)
  | tables (number : Nat)
  | statement (statement : PlainStatement)

namespace Call

def on : Call → Action Session Answer
  | .routines => return .routines (← currentRoutines)
  | .install next => do
    Session.install next
    return .routines next
  | .cacheMetadata setting => do
    Session.cacheMetadata setting
    return .done
  | .aliases => return .aliases (← currentAliases)
  | .tables => return .tables (← currentTables)
  | .execute sql parameters convert =>
    return .statement (← onConnection (Connection.execute sql parameters convert))
  | .close => do
    onConnection Connection.close
    return .done

def resets : Call → Bool
  | .cacheMetadata _ => true
  | _ => false

def asksAliases : Call → Bool
  | .aliases => true
  | _ => false

def installed? : Call → Option Routines
  | .install next => some next
  | _ => none

end Call

abbrev Calls := Action.History Call Session Answer

/-- The calls behind the last change of the cache setting, from the first one for the aliases on. -/
def fromAliases (calls : Calls) : Calls :=
  (calls.rtakeWhile fun call => !call.1.resets).dropWhile fun call => !call.1.asksAliases

/-- The collection that was made the current one last. -/
def lastInstalled (calls : Calls) : Option Routines :=
  (calls.filterMap fun call => call.1.installed?).getLast?

/-- Behind the making of the aliases no other collection than theirs was made the current one
last. -/
def InStep (calls : Calls) : Prop :=
  ∀ o aliases later, fromAliases calls = (.aliases, o) :: later →
    o.result = .ok (.aliases aliases) →
      ∀ routines, lastInstalled later = some routines → routines = aliases.routines

/-- Whether the aliases have the current collection. -/
def shareCollection : Action Session Bool := do
  let aliases ← currentAliases
  let routines ← currentRoutines
  return aliases.routines == routines

theorem fromAliases_append (calls : Calls) (call : Call) (o : Outcome Session Answer) :
    fromAliases (calls ++ [(call, o)]) =
      if call.resets then []
      else if fromAliases calls = [] then if call.asksAliases then [(call, o)] else []
      else fromAliases calls ++ [(call, o)] := by
  unfold fromAliases
  rw [List.rtakeWhile_concat]
  cases call.resets with
  | true => rfl
  | false =>
    simp only [Bool.not_false, Bool.false_eq_true, ↓reduceIte, List.dropWhile_append,
      List.isEmpty_iff]
    cases hask : call.asksAliases <;> simp [hask]

theorem lastInstalled_append (calls : Calls) (call : Call) (o : Outcome Session Answer) :
    lastInstalled (calls ++ [(call, o)]) = call.installed?.or (lastInstalled calls) := by
  unfold lastInstalled
  rw [List.filterMap_append, List.getLast?_append, List.filterMap_cons]
  dsimp only
  cases call.installed? <;> rfl

/-! ### One call -/

theorem makeCache_ok (setting : Value) (session : Session) (env : Environment) :
    ∃ cache env', (makeCache setting).perform session env =
      { result := .ok cache, state := session, environment := env' } := by
  unfold makeCache
  split
  · exact ⟨_, _, rfl⟩
  · split <;> exact ⟨_, _, rfl⟩

theorem currentRoutines_of_some {session : Session} {routines : Routines}
    (h : session.routines = some routines) (env : Environment) :
    currentRoutines.perform session env =
      { result := .ok routines, state := session, environment := env } := by
  unfold currentRoutines
  rw [Action.perform_bind, Action.perform_state, Outcome.andThen_ok, h]
  rfl

theorem currentRoutines_of_none {session : Session} (h : session.routines = none)
    (env : Environment) :
    ∃ routines env', currentRoutines.perform session env =
      { result := .ok routines
        state := { session with routines := some routines, made := session.made + 1 }
        environment := env' } := by
  obtain ⟨cache, env', hcache⟩ := makeCache_ok session.connection.settings.cacheMetadata session env
  refine ⟨{ number := session.made, cache }, env', ?_⟩
  unfold currentRoutines
  rw [Action.perform_bind, Action.perform_state, Outcome.andThen_ok, h]
  dsimp only
  rw [Action.perform_bind, Action.perform_state, Outcome.andThen_ok, Action.perform_bind, hcache]
  rfl

/-- There always is a current collection, and asking for it leaves the aliases as they are. -/
theorem currentRoutines_ok (session : Session) (env : Environment) :
    ∃ routines env' reached, currentRoutines.perform session env =
        { result := .ok routines, state := reached, environment := env' } ∧
      reached.routines = some routines ∧ reached.aliases = session.aliases ∧
        ∀ earlier, session.routines = some earlier → routines = earlier := by
  cases h : session.routines with
  | some routines =>
    refine ⟨routines, env, session, currentRoutines_of_some h env, h, rfl, ?_⟩
    intro earlier hearlier
    exact Option.some.inj hearlier
  | none =>
    obtain ⟨routines, env', hreached⟩ := currentRoutines_of_none h env
    exact ⟨routines, env', _, hreached, rfl, rfl, nofun⟩

theorem currentAliases_of_some {session : Session} {aliases : Aliases}
    (h : session.aliases = some aliases) (env : Environment) :
    currentAliases.perform session env =
      { result := .ok aliases, state := session, environment := env } := by
  unfold currentAliases
  rw [Action.perform_bind, Action.perform_state, Outcome.andThen_ok, h]
  rfl

theorem currentAliases_of_none {session : Session} (h : session.aliases = none)
    (env : Environment) :
    ∃ aliases env' reached, currentAliases.perform session env =
        { result := .ok aliases, state := reached, environment := env' } ∧
      reached.aliases = some aliases ∧ reached.routines = some aliases.routines := by
  obtain ⟨routines, env', reached, hroutines, hcurrent, -, -⟩ := currentRoutines_ok session env
  refine ⟨{ routines }, env', { reached with aliases := some { routines } }, ?_, rfl, hcurrent⟩
  unfold currentAliases
  rw [Action.perform_bind, Action.perform_state, Outcome.andThen_ok, h]
  dsimp only
  rw [Action.perform_bind, hroutines]
  rfl

/-- What a call makes of the current collection and of the aliases. -/
inductive Turns (session : Session) : Call → Except Error Answer → Session → Prop where
  | kept {call : Call} {answer : Except Error Answer} {reached : Session}
      (hresets : call.resets = false) (hinstalls : call.installed? = none)
      (hasks : call.asksAliases = true → session.aliases ≠ none)
      (haliases : reached.aliases = session.aliases)
      (hroutines : session.routines ≠ none → reached.routines = session.routines) :
      Turns session call answer reached
  | installed (next : Routines) {reached : Session} (haliases : reached.aliases = session.aliases)
      (hroutines : reached.routines = some next) :
      Turns session (.install next) (.ok (.routines next)) reached
  | reset (setting : Value) {reached : Session} (haliases : reached.aliases = none) :
      Turns session (.cacheMetadata setting) (.ok .done) reached
  | made (aliases : Aliases) {reached : Session} (hnone : session.aliases = none)
      (haliases : reached.aliases = some aliases)
      (hroutines : reached.routines = some aliases.routines) :
      Turns session .aliases (.ok (.aliases aliases)) reached

/-- What is done with the connection alone leaves the collections as they are. -/
theorem turns_onConnection {α : Type} {call : Call} {action : Action Connection α}
    {answer : α → Answer} (hon : call.on = onConnection action >>= fun a => pure (answer a))
    (hresets : call.resets = false) (hinstalls : call.installed? = none)
    (hasks : call.asksAliases = false) (session : Session) (env : Environment) :
    Turns session call (call.on.perform session env).result
      (call.on.perform session env).state := by
  have hstate : (call.on.perform session env).state =
      ((onConnection action).perform session env).state := by
    rw [hon, Action.perform_bind, Outcome.state_andThen_pure]
  have hquiet : call.asksAliases = true → session.aliases ≠ none := by
    intro hask
    rw [hasks] at hask
    cases hask
  unfold onConnection at hstate
  rw [Action.perform_within] at hstate
  rw [hstate]
  exact .kept hresets hinstalls hquiet rfl fun _ => rfl

theorem turns_on (call : Call) (session : Session) (env : Environment) :
    Turns session call (call.on.perform session env).result
      (call.on.perform session env).state := by
  cases call with
  | routines =>
    obtain ⟨routines, env', reached, hreached, hcurrent, haliases, hsame⟩ :=
      currentRoutines_ok session env
    refine .kept rfl rfl nofun ?_ ?_
    · rw [Call.on, Action.perform_bind, hreached]
      exact haliases
    · intro hsome
      obtain ⟨earlier, hearlier⟩ := Option.ne_none_iff_exists'.1 hsome
      rw [Call.on, Action.perform_bind, hreached, hearlier, ← hsame earlier hearlier]
      exact hcurrent
  | install next => exact .installed next rfl rfl
  | cacheMetadata setting => exact .reset setting rfl
  | aliases =>
    cases haliases : session.aliases with
    | some aliases =>
      have hsame : (Call.aliases.on.perform session env).state = session := by
        rw [Call.on, Action.perform_bind, currentAliases_of_some haliases]
        rfl
      refine .kept rfl rfl (fun _ hnone => ?_) ?_ ?_
      · rw [haliases] at hnone
        cases hnone
      · rw [hsame]
      · intro _
        rw [hsame]
    | none =>
      obtain ⟨aliases, env', reached, hreached, hmade, hcurrent⟩ :=
        currentAliases_of_none haliases env
      rw [Call.on, Action.perform_bind, hreached]
      exact .made aliases haliases hmade hcurrent
  | tables =>
    have hsame : (Call.tables.on.perform session env).state.aliases = session.aliases ∧
        (Call.tables.on.perform session env).state.routines = session.routines := by
      unfold Call.on currentTables
      simp only [Action.perform_bind, Action.perform_state, Outcome.andThen_ok]
      cases session.tables <;> exact ⟨rfl, rfl⟩
    exact .kept rfl rfl nofun hsame.1 fun _ => hsame.2
  | execute sql parameters convert => exact turns_onConnection rfl rfl rfl rfl session env
  | close => exact turns_onConnection rfl rfl rfl rfl session env

/-! ### Any calls -/

/-- What a session holds behind the calls: no aliases when none were asked for, and else those that
were answered first, beside the collection that was made the current one last. -/
def Holds (calls : Calls) (session : Session) : Prop :=
  session.aliases = none ∧ fromAliases calls = [] ∨
    ∃ aliases o later, session.aliases = some aliases ∧
      fromAliases calls = (.aliases, o) :: later ∧ o.result = .ok (.aliases aliases) ∧
      session.routines = some ((lastInstalled later).getD aliases.routines)

theorem Holds.step {calls : Calls} {session reached : Session} (holds : Holds calls session)
    {call : Call} {o : Outcome Session Answer} (h : Turns session call o.result reached) :
    Holds (calls ++ [(call, o)]) reached := by
  generalize hresult : o.result = answer at h
  unfold Holds
  rw [fromAliases_append]
  rcases holds with ⟨hnone, hcalls⟩ | ⟨aliases, first, later, haliases, hcalls, hfirst, hcurrent⟩
  -- Without aliases only the call that makes them brings them to the current collection.
  · cases h with
    | kept hresets hinstalls hasks haliases' hroutines =>
      have hquiet : call.asksAliases = false := by
        cases hask : call.asksAliases with
        | false => rfl
        | true => exact absurd hnone (hasks hask)
      left
      exact ⟨haliases'.trans hnone, by simp [hresets, hcalls, hquiet]⟩
    | installed next haliases' hroutines =>
      left
      exact ⟨haliases'.trans hnone, by simp [hcalls, Call.resets, Call.asksAliases]⟩
    | reset setting haliases' => exact .inl ⟨haliases', rfl⟩
    | made aliases hnone' haliases' hroutines =>
      right
      exact ⟨aliases, o, [], haliases', by simp [hcalls, Call.resets, Call.asksAliases], hresult,
        hroutines⟩
  -- With aliases the calls behind their making grow, or a reset does away with both.
  · have hsome : session.routines ≠ none := by simp [hcurrent]
    cases h with
    | kept hresets hinstalls hasks haliases' hroutines =>
      right
      have hlast : lastInstalled (later ++ [(call, o)]) = lastInstalled later := by
        rw [lastInstalled_append, hinstalls, Option.none_or]
      refine ⟨aliases, first, later ++ [(call, o)], haliases'.trans haliases, ?_, hfirst, ?_⟩
      · simp [hresets, hcalls]
      · rw [hlast, hroutines hsome, hcurrent]
    | installed next haliases' hroutines =>
      right
      have hlast : lastInstalled (later ++ [(.install next, o)]) = some next :=
        lastInstalled_append _ _ _
      refine ⟨aliases, first, later ++ [(.install next, o)], haliases'.trans haliases, ?_, hfirst,
        ?_⟩
      · simp [hcalls, Call.resets]
      · rw [hlast, hroutines, Option.getD_some]
    | reset setting haliases' => exact .inl ⟨haliases', rfl⟩
    | made aliases' hnone' haliases' hroutines =>
      rw [haliases] at hnone'
      cases hnone'

theorem holds_history (connection : Connection) (env : Environment) (calls : List Call) :
    Holds (Action.history Call.on calls { connection } env)
      (Action.ending (calls.map Call.on) { connection } env).1 := by
  have start : Holds [] { connection } := .inl ⟨rfl, rfl⟩
  have hstep : ∀ (earlier : Calls) (call : Call) (session : Session) (env : Environment),
      (fun _ : Call => True) call → Holds earlier session →
        let o := call.on.perform session env.nextStep
        Holds (earlier ++ [(call, o)]) o.state :=
    fun earlier call session env _ holds => holds.step (turns_on call session env.nextStep)
  have holds : Holds ([] ++ Action.history Call.on calls { connection } env)
      (Action.ending (calls.map Call.on) { connection } env).1 :=
    Action.invariant_of_history hstep (fun _ _ => trivial) start
  exact holds

/-- Aliases that are asked for anew have the current collection. -/
theorem shareCollection_of_none {session : Session} (h : session.aliases = none)
    (env : Environment) : (shareCollection.perform session env).result = .ok true := by
  obtain ⟨aliases, env', reached, hreached, -, hcurrent⟩ := currentAliases_of_none h env
  unfold shareCollection
  rw [Action.perform_bind, hreached, Outcome.andThen_ok, Action.perform_bind,
    currentRoutines_of_some hcurrent]
  simp

theorem shareCollection_of_some {session : Session} {aliases : Aliases} {routines : Routines}
    (haliases : session.aliases = some aliases) (hroutines : session.routines = some routines)
    (env : Environment) :
    (shareCollection.perform session env).result = .ok (aliases.routines == routines) := by
  unfold shareCollection
  rw [Action.perform_bind, currentAliases_of_some haliases, Outcome.andThen_ok,
    Action.perform_bind, currentRoutines_of_some hroutines]
  rfl

def plainConnection : Connection := { driver := { dialect := {} } }

end OracleCatalog.Session
