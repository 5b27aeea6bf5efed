import OracleCatalog.Proofs.Cache.Access
import OracleCatalog.Proofs.Catalog.Asking
import OracleCatalog.Proofs.Catalog.Cached
import OracleCatalog.Proofs.Session.Runs

/-!
# A cache that follows the catalog

A collection with a cache in memory is asked for names, for any of them afresh, and the catalog
answers or fails as it likes. At any time the cache has under a key what was last described under it
from the catalog. It answers for itself when it has an entry and no fresh description is wanted;
every other inquiry goes to the catalog, and one that fails changes no entry.
-/

namespace OracleCatalog

namespace Routines

variable (routines : Routines)

/-- A name that is asked for; `fresh` wants its description from the catalog. -/
structure Inquiry where
  name : Value
  fresh : Bool := false

abbrev History := Action.History Inquiry Connection Routine

def ask (inquiry : Inquiry) : Action Connection Routine :=
  routines.describe inquiry.name inquiry.fresh

/-- The description under a key that an inquiry got from the catalog: its answer, if the database
has been asked for something. -/
def fromCatalog? (settings : Settings) (key : String) (inquiry : Inquiry)
    (o : Outcome Connection Routine) : Option Routine :=
  if cacheKey settings inquiry.name = key ∧ o.environment.events ≠ [] then o.result.toOption
  else none

/-- The last description under a key that came from the catalog. -/
def lastFromCatalog (settings : Settings) (key : String) (history : History) : Option Routine :=
  (history.filterMap fun (inquiry, o) => fromCatalog? settings key inquiry o).getLast?

theorem lastFromCatalog_append (settings : Settings) (key : String) (history : History)
    (inquiry : Inquiry) (o : Outcome Connection Routine) :
    lastFromCatalog settings key (history ++ [(inquiry, o)]) =
      (fromCatalog? settings key inquiry o).or (lastFromCatalog settings key history) := by
  unfold lastFromCatalog
  rw [List.filterMap_append, List.getLast?_append, List.filterMap_cons, List.filterMap_nil]
  dsimp only
  cases fromCatalog? settings key inquiry o <;> rfl

/-- Nothing but a success that has been asked for changes what came last. -/
theorem lastFromCatalog_append_of_none {settings : Settings} {history : History}
    {inquiry : Inquiry} {o : Outcome Connection Routine}
    (h : o.environment.events ≠ [] → o.result.toOption = none) (key : String) :
    lastFromCatalog settings key (history ++ [(inquiry, o)]) =
      lastFromCatalog settings key history := by
  have hnone : fromCatalog? settings key inquiry o = none := by
    unfold fromCatalog?
    split
    · rename_i hasked
      exact h hasked.2
    · rfl
  rw [lastFromCatalog_append, hnone, Option.none_or]

/-! ### One inquiry -/

/-- What an inquiry comes to at a collection with a cache in memory. -/
structure Answers (number : Nat) (inquiry : Inquiry) (connection : Connection) (env : Environment)
    (o : Outcome Connection Routine) : Prop where
  /-- A failure leaves every entry as it was. -/
  kept : ∀ e, o.result = .error e → o.environment.memories = env.memories
  /-- An entry is read when no fresh description is wanted, and nothing is asked of the database. -/
  recalled : inquiry.fresh = false → ∀ document,
    OrderedMap.get? (cacheKey connection.settings inquiry.name) (env.memory number) =
        some document →
      o.environment.events = env.events ∧
        ∃ routine, Routine.ofDocument document = .ok routine ∧ o.result = .ok routine
  /-- Otherwise the inquiry comes to what it comes to without a cache, and when name and schema are
  texts or missing, it puts the listing query of the name to the database. -/
  asked : (inquiry.fresh = true ∨
      OrderedMap.get? (cacheKey connection.settings inquiry.name) (env.memory number) = none) →
    let plain := (routines.describeFresh inquiry.name).perform connection env
    o.result = plain.result ∧ o.state = plain.state ∧
      o.environment.events = plain.environment.events ∧
      (connection.settings.schema.IsName → inquiry.name.IsName →
        ∃ query, Query.routines connection.dialect.folding
            { connection.settings with objectName := inquiry.name } = .ok query ∧
          Catalog.Asks query connection env o)

/-- The cache in memory follows the catalog. -/
structure Follows (settings : Settings) (number : Nat) (history : History)
    (connection : Connection) (env : Environment) : Prop where
  settings_eq : connection.settings = settings
  sound : ∀ key routine, lastFromCatalog settings key history = some routine → routine.IsSound
  entries : ∃ store, env.memories[number]? = some store ∧ ∀ key,
    OrderedMap.get? key store = (lastFromCatalog settings key history).map Routine.toDocument

namespace Follows

variable {settings : Settings} {number : Nat} {history : History} {connection : Connection}
  {env : Environment}

theorem get?_memory (h : Follows settings number history connection env) (key : String) :
    OrderedMap.get? key (env.memory number) =
      (lastFromCatalog settings key history).map Routine.toDocument := by
  obtain ⟨store, hstore, hkeys⟩ := h.entries
  rw [Environment.memory_of_getElem? hstore]
  exact hkeys key

theorem nextStep (h : Follows settings number history connection env) :
    Follows settings number history connection env.nextStep :=
  ⟨h.settings_eq, h.sound, h.entries⟩

/-- An inquiry that gets nothing from the catalog leaves the history as good as it was. -/
theorem unchanged (h : Follows settings number history connection env) {inquiry : Inquiry}
    {o : Outcome Connection Routine}
    (hnothing : o.environment.events ≠ [] → o.result.toOption = none)
    (hsettings : o.state.settings = connection.settings)
    (hmemories : o.environment.memories = env.memories) :
    Follows settings number (history ++ [(inquiry, o)]) o.state o.environment := by
  have hlast : ∀ key, lastFromCatalog settings key (history ++ [(inquiry, o)]) =
      lastFromCatalog settings key history := lastFromCatalog_append_of_none hnothing
  refine ⟨hsettings.trans h.settings_eq, fun key routine hroutine => ?_, ?_⟩
  · rw [hlast] at hroutine
    exact h.sound key routine hroutine
  · obtain ⟨store, hstore, hkeys⟩ := h.entries
    refine ⟨store, (congrArg (·[number]?) hmemories).trans hstore, fun key => ?_⟩
    rw [hlast]
    exact hkeys key

/-- A description that came from the catalog is what its key has from then on. -/
theorem renewed (h : Follows settings number history connection env) {inquiry : Inquiry}
    {routine : Routine} {connection' : Connection} {env' : Environment}
    (hasked : env'.events ≠ []) (sound : routine.IsSound)
    (hsettings : connection'.settings = connection.settings)
    (hmemories : env'.memories = env.memories) :
    let after := env'.changeMemory number
      (·.put (cacheKey connection.settings inquiry.name) routine.toDocument)
    let o : Outcome Connection Routine :=
      { result := .ok routine, state := connection', environment := after }
    Follows settings number (history ++ [(inquiry, o)]) o.state o.environment := by
  obtain ⟨rfl, hsound, store, hstore, hkeys⟩ := h
  have hlast : ∀ key, lastFromCatalog connection.settings key (history ++ [(inquiry,
      { result := .ok routine
        state := connection'
        environment := env'.changeMemory number
          (·.put (cacheKey connection.settings inquiry.name) routine.toDocument) })]) =
        if cacheKey connection.settings inquiry.name = key then some routine
        else lastFromCatalog connection.settings key history := by
    intro key
    rw [lastFromCatalog_append, fromCatalog?]
    by_cases hkey : cacheKey connection.settings inquiry.name = key
    · rw [if_pos ⟨hkey, hasked⟩, if_pos hkey]
      rfl
    · rw [if_neg fun h => hkey h.1, if_neg hkey, Option.none_or]
  have hstore' : env'.memories[number]? = some store :=
    (congrArg (·[number]?) hmemories).trans hstore
  refine ⟨hsettings, fun key other hother => ?_,
    store.put (cacheKey connection.settings inquiry.name) routine.toDocument,
    Environment.getElem?_changeMemory hstore' _, fun key => ?_⟩
  · rw [hlast] at hother
    split at hother
    · obtain rfl := Option.some.inj hother
      exact sound
    · exact hsound key other hother
  · rw [hlast]
    by_cases hkey : cacheKey connection.settings inquiry.name = key
    · rw [hkey, OrderedMap.get?_put_self, if_pos rfl]
      rfl
    · rw [OrderedMap.get?_put_of_ne (Ne.symm hkey), hkeys, if_neg hkey]

end Follows

section Step

variable {routines} {settings : Settings} {number : Nat} {history : History}
  {connection : Connection} {env : Environment} {inquiry : Inquiry}

theorem ask_recalled (hcache : routines.cache = some (.memory number))
    (fresh : inquiry.fresh = false) {routine : Routine} (sound : routine.IsSound)
    (found : OrderedMap.get? (cacheKey connection.settings inquiry.name) (env.memory number) =
      some routine.toDocument) :
    (routines.ask inquiry).perform connection env =
      { result := .ok routine
        state := connection
        environment := env.note .cachedRoutines .debug
          ("Method metadata for " ++ inquiry.name.toText ++ " read from cache") } := by
  rw [ask, describe_perform hcache, fresh, if_neg Bool.false_ne_true,
    cached?_hit connection found sound, Outcome.andThen_ok]
  rfl

theorem ask_asked (hcache : routines.cache = some (.memory number))
    (h : inquiry.fresh = true ∨
      OrderedMap.get? (cacheKey connection.settings inquiry.name) (env.memory number) = none) :
    (routines.ask inquiry).perform connection env =
      (routines.describeAndKeep (.memory number) (cacheKey connection.settings inquiry.name)
        inquiry.name).perform connection env := by
  rw [ask, describe_perform hcache]
  cases hfresh : inquiry.fresh with
  | true => rfl
  | false =>
    have missing := h.resolve_left (by rw [hfresh]; exact Bool.false_ne_true)
    rw [if_neg Bool.false_ne_true, cached?_miss connection missing, Outcome.andThen_ok]

/-- A description that comes from the cache leaves the cache and its history as they are. -/
theorem follows_recalled (hcache : routines.cache = some (.memory number))
    (follows : Follows settings number history connection env.nextStep)
    (fresh : inquiry.fresh = false) {routine : Routine}
    (hlast : lastFromCatalog settings (cacheKey settings inquiry.name) history = some routine) :
    let o := (routines.ask inquiry).perform connection env.nextStep
    Answers routines number inquiry connection env.nextStep o ∧
      Follows settings number (history ++ [(inquiry, o)]) o.state o.environment := by
  have sound := follows.sound _ routine hlast
  have found := follows.get?_memory (cacheKey settings inquiry.name)
  rw [hlast, ← follows.settings_eq] at found
  dsimp only
  rw [ask_recalled hcache fresh sound found]
  refine ⟨⟨nofun, fun _ document hdocument => ⟨rfl, routine, ?_, rfl⟩, fun hasked => ?_⟩,
    follows.unchanged (fun hevents => absurd rfl hevents) rfl rfl⟩
  · obtain rfl := Option.some.inj (found.symm.trans hdocument)
    exact Routine.ofDocument_toDocument sound
  · rcases hasked with hfresh | hnone
    · rw [fresh] at hfresh
      cases hfresh
    · rw [found] at hnone
      cases hnone

/-- A description from the catalog becomes the entry of its key; a failure changes no entry. -/
theorem follows_asked (hcache : routines.cache = some (.memory number))
    (follows : Follows settings number history connection env.nextStep)
    (hasked : inquiry.fresh = true ∨
      lastFromCatalog settings (cacheKey settings inquiry.name) history = none) :
    let o := (routines.ask inquiry).perform connection env.nextStep
    Answers routines number inquiry connection env.nextStep o ∧
      Follows settings number (history ++ [(inquiry, o)]) o.state o.environment := by
  have hmissing : inquiry.fresh = true ∨ OrderedMap.get?
      (cacheKey connection.settings inquiry.name) (env.nextStep.memory number) = none := by
    refine hasked.imp_right fun hlast => ?_
    rw [follows.get?_memory, follows.settings_eq, hlast]
    rfl
  obtain ⟨hdialect, hstores, hsound⟩ :=
    routines.spares_describeFresh inquiry.name connection env.nextStep
  have hmemories := congrArg Stores.memories hstores
  have hasks : connection.settings.schema.IsName → inquiry.name.IsName →
      ∃ query, Query.routines connection.dialect.folding
          { connection.settings with objectName := inquiry.name } = .ok query ∧
        Catalog.Asks query connection env.nextStep
          ((routines.describeFresh inquiry.name).perform connection env.nextStep) :=
    routines.exists_asks_describeFresh
  have hevents : ∀ routine,
      ((routines.describeFresh inquiry.name).perform connection env.nextStep).result = .ok routine →
        ((routines.describeFresh inquiry.name).perform connection
          env.nextStep).environment.events ≠ [] :=
    fun _ hresult => routines.events_ne_nil_of_describeFresh hresult
  -- the inquiry finds no entry that it may read
  have hunread : inquiry.fresh = false → ∀ document, OrderedMap.get?
      (cacheKey connection.settings inquiry.name) (env.nextStep.memory number) ≠
        some document := by
    intro hfresh document hfound
    rcases hmissing with h | h
    · rw [h] at hfresh
      cases hfresh
    · rw [h] at hfound
      cases hfound
  dsimp only
  rw [ask_asked hcache hmissing, describeAndKeep_memory]
  dsimp only
  generalize hplain : (routines.describeFresh inquiry.name).perform connection env.nextStep =
    plain at *
  obtain ⟨result, connection', env'⟩ := plain
  have hsettings : connection'.settings = connection.settings := congrArg Dialect.settings hdialect
  cases result with
  | error e =>
    refine ⟨⟨fun _ _ => hmemories, fun hfresh document h => absurd h (hunread hfresh document),
      fun _ => ?_⟩, follows.unchanged (fun _ => rfl) hsettings hmemories⟩
    rw [hplain]
    exact ⟨rfl, rfl, rfl, hasks⟩
  | ok routine =>
    refine ⟨⟨nofun, fun hfresh document h => absurd h (hunread hfresh document), fun _ => ?_⟩,
      follows.renewed (hevents routine rfl) (hsound routine rfl) hsettings hmemories⟩
    rw [hplain]
    exact ⟨rfl, rfl, rfl, hasks⟩

theorem follows_ask (hcache : routines.cache = some (.memory number))
    (follows : Follows settings number history connection env.nextStep) (inquiry : Inquiry) :
    let o := (routines.ask inquiry).perform connection env.nextStep
    Answers routines number inquiry connection env.nextStep o ∧
      Follows settings number (history ++ [(inquiry, o)]) o.state o.environment := by
  cases hfresh : inquiry.fresh with
  | true => exact follows_asked hcache follows (.inl hfresh)
  | false =>
    cases hlast : lastFromCatalog settings (cacheKey settings inquiry.name) history with
    | none => exact follows_asked hcache follows (.inr hlast)
    | some routine => exact follows_recalled hcache follows hfresh hlast

end Step

/-! ### Any inquiries -/

theorem follows_history {routines : Routines} {settings : Settings} {number : Nat}
    (hcache : routines.cache = some (.memory number)) {earlier : History}
    {connection : Connection} {env : Environment}
    (follows : Follows settings number earlier connection env) (inquiries : List Inquiry) :
    Follows settings number (earlier ++ Action.history routines.ask inquiries connection env)
      (Action.ending (inquiries.map routines.ask) connection env).1
      (Action.ending (inquiries.map routines.ask) connection env).2 := by
  have hstep : ∀ earlier inquiry connection env, Action.anyAnswer inquiry →
      Follows settings number earlier connection env →
        let o := (routines.ask inquiry).perform connection env.nextStep
        Follows settings number (earlier ++ [(inquiry, o)]) o.state o.environment :=
    fun earlier inquiry connection env _ follows =>
      (follows_ask hcache follows.nextStep inquiry).2
  exact Action.invariant_of_history hstep (fun _ _ => trivial) follows

/-- Whatever the catalog answers: after any inquiries over a cache in memory that was empty at
first, the entry of every key is the description that came last from the catalog under this key,
and the next inquiry is answered from its entry, or else from the catalog, without touching an
entry when it fails. -/
theorem memory_follows_catalog {routines : Routines} {number : Nat} {connection : Connection}
    {env : Environment} (hcache : routines.cache = some (.memory number))
    (empty : env.memories[number]? = some []) (inquiries : List Inquiry) :
    let reached := Action.ending (inquiries.map routines.ask) connection env
    (∀ key, OrderedMap.get? key (reached.2.memory number) =
        (lastFromCatalog connection.settings key
          (Action.history routines.ask inquiries connection env)).map Routine.toDocument) ∧
      ∀ inquiry, Answers routines number inquiry reached.1 reached.2.nextStep
        ((routines.ask inquiry).perform reached.1 reached.2.nextStep) := by
  have start : Follows connection.settings number [] connection env := by
    refine ⟨rfl, nofun, [], empty, fun key => rfl⟩
  have follows := follows_history hcache start inquiries
  refine ⟨follows.get?_memory, fun inquiry => ?_⟩
  exact (follows_ask hcache follows.nextStep inquiry).1

/-- A database that lists a routine without parameters, then with one, and fails from then on. -/
def changingEnvironment : Environment :=
  { answering := .inTurn [{ rows := [[.text "P"]] }, {}, { rows := [[.text "P"]] },
      { columns := some [.text "NAME", .text "TYPE", .text "DIRECTION"]
        rows := [[.text "A", .text "CLOB", .text "IN"]] },
      { failure := some { kind := .other "DatabaseError", text := "ORA-03113" } }]
    memories := [[]] }

/-- A description that is wanted afresh takes the place of the first one, and stays when asking for
another one fails. -/
theorem memory_follows_catalog_refreshed :
    Routines.cache { cache := some (.memory 0) } = some (.memory 0) ∧
      changingEnvironment.memories[0]? = some [] ∧
      OrderedMap.get? "default_p" ((Action.ending
        ([⟨.text "P", false⟩, ⟨.text "P", true⟩, ⟨.text "p", true⟩].map
          (ask { cache := some (.memory 0) })) soleConnection changingEnvironment).2.memory 0) =
        some (Routine.toDocument
          { name := .text "P", parameters := [{ name := .text "A", type := .text }] }) := by
  obtain ⟨hentries, -⟩ := @memory_follows_catalog { cache := some (.memory 0) } 0 soleConnection
    changingEnvironment rfl rfl [⟨.text "P", false⟩, ⟨.text "P", true⟩, ⟨.text "p", true⟩]
  refine ⟨rfl, rfl, (hentries "default_p").trans ?_⟩
  rfl

end Routines

end OracleCatalog
