import OracleCatalog.Proofs.Cache.Access
import OracleCatalog.Proofs.Catalog.Asking
import OracleCatalog.Proofs.Catalog.Cached

/-!
# Entries that may be damaged

The file of a key may hold anything. Where it holds a complete description, this is what the name is
answered with. Where it is no YAML or says nothing, it counts as missing: the catalog is asked and
the file is written anew. But a malformed scalar, and a value that says something else, end the
description with an error of their own; then nothing is asked, and the file stays as it is, so that
the next description ends in the same way.
-/

namespace OracleCatalog

open OracleCatalog.Action (Spares anyAnswer)

/-! ### What a file holds -/

/-- What the file of a key holds, as far as a description is concerned. -/
inductive Entry where
  /-- A complete description. -/
  | written (routine : Routine)
  /-- Something else, with the error that it leads to. -/
  | damaged (e : Error)
  /-- Nothing, or no YAML, which is warned of. -/
  | missing (unreadable : Bool)

namespace Entry

def ofText (text : String) : Entry :=
  match Yaml.read text with
  | .ok v =>
    if v.truthy then
      match Routine.ofDocument v with
      | .ok routine => .written routine
      | .error e => .damaged e
    else .missing false
  | .error .unreadable => .missing true
  | .error (.raised e) => .damaged e

/-- What is left of the environment by a file that counts as missing. -/
def afterReading (unreadable : Bool) (env : Environment) : Environment :=
  if unreadable then env.note .cache .warning "Ignoring unreadable cache entry " else env

/-- A text that is read as a description holds a complete one. -/
theorem ofText_of_ofDocument {text : String} {v : Value} {routine : Routine}
    (hread : Yaml.read text = .ok v) (h : Routine.ofDocument v = .ok routine) :
    ofText text = .written routine := by
  have htruthy : v.truthy = true := by
    obtain ⟨fields, hfields, hrest⟩ := Error.ok_of_bind h
    cases v with
    | map entries =>
      obtain ⟨name, hname, -⟩ := Error.ok_of_bind hrest
      cases entries with
      | nil =>
        cases hfields
        cases hname
      | cons entry rest => rfl
    | _ => cases hfields
  rw [ofText, hread]
  dsimp only
  rw [if_pos htruthy, h]

end Entry

/-- The other environment has the same events and the same stores. -/
def Environment.StaysIn (env env' : Environment) : Prop :=
  env'.events = env.events ∧ env'.stores = env.stores

namespace Routines

variable {routines : Routines} {path text : String} {name : Value} {connection : Connection}
  {env : Environment}

/-- What looking for an entry comes to where its file has a text. -/
theorem cached?_text {key : String} (fits : Cache.Fits path key)
    (hfile : env.file? path (fileName key) = some text) (name : Value) (connection : Connection) :
    let o := (cached? (.files path) key name).perform connection env
    match Entry.ofText text with
    | .written routine => o.result = .ok (some routine) ∧ env.StaysIn o.environment
    | .damaged e => o.result = .error e ∧ env.StaysIn o.environment
    | .missing unreadable => o =
      { result := .ok none
        state := connection
        environment := Entry.afterReading unreadable env } := by
  unfold cached? Entry.ofText
  rw [Action.perform_bind, Cache.perform_get_text fits connection hfile]
  cases Yaml.read text with
  | error failure =>
    cases failure with
    | unreadable => rfl
    | raised e => exact ⟨rfl, rfl, rfl⟩
  | ok v =>
    dsimp only
    rw [Outcome.andThen_ok]
    cases v.truthy with
    | false => rfl
    | true =>
      rw [if_pos rfl, if_pos rfl, Action.perform_bind, Action.perform_note, Outcome.andThen_ok,
        Action.perform_bind, Action.perform_ofExcept]
      cases Routine.ofDocument v with
      | error e => exact ⟨rfl, rfl, rfl⟩
      | ok routine => exact ⟨rfl, rfl, rfl⟩

/-- What a name is answered with where the file of its key has a text. -/
theorem describe_text (hcache : routines.cache = some (.files path))
    (fits : Cache.Fits path (cacheKey connection.settings name))
    (hfile : env.file? path (fileName (cacheKey connection.settings name)) = some text) :
    let o := (routines.describe name false).perform connection env
    match Entry.ofText text with
    | .written routine => o.result = .ok routine ∧ env.StaysIn o.environment
    | .damaged e => o.result = .error e ∧ env.StaysIn o.environment
    | .missing unreadable => o =
      (routines.describeAndKeep (.files path) (cacheKey connection.settings name) name).perform
        connection (Entry.afterReading unreadable env) := by
  have hfound := cached?_text fits hfile name connection
  dsimp only at hfound ⊢
  rw [describe_perform hcache, if_neg Bool.false_ne_true]
  generalize (cached? (.files path) (cacheKey connection.settings name) name).perform connection
    env = found at hfound
  obtain ⟨result, connection', env'⟩ := found
  cases hentry : Entry.ofText text with
  | written routine =>
    rw [hentry] at hfound
    obtain ⟨rfl, hstays⟩ := hfound
    exact ⟨rfl, hstays⟩
  | damaged e =>
    rw [hentry] at hfound
    obtain ⟨rfl, hstays⟩ := hfound
    exact ⟨rfl, hstays⟩
  | missing unreadable =>
    rw [hentry] at hfound
    rw [hfound, Outcome.andThen_ok]

/-! ### Writing an entry anew -/

/-- The catalog is asked, and what it says is written into the file of the key. -/
structure Renews (routines : Routines) (path : String) (name : Value) (connection : Connection)
    (env : Environment) (o : Outcome Connection Routine) : Prop where
  /-- When name and schema are texts or missing, the listing query of the name is put. -/
  asked : connection.settings.schema.IsName → name.IsName →
    ∃ query, Query.routines connection.dialect.folding
        { connection.settings with objectName := name } = .ok query ∧
      Catalog.Asks query connection env o
  overwritten : ∀ routine w,
    ((routines.describeFresh name).perform connection env).result = .ok routine →
      routine.toDocument.storable = .ok w →
        o.result = .ok routine ∧
          o.environment.file? path (fileName (cacheKey connection.settings name)) =
            some (Yaml.print w)
  failed : ∀ e, ((routines.describeFresh name).perform connection env).result = .error e →
    o.result = .error e ∧ o.environment.stores = env.stores

theorem renews_describeAndKeep (fits : Cache.Fits path (cacheKey connection.settings name)) :
    routines.Renews path name connection env
      ((routines.describeAndKeep (.files path) (cacheKey connection.settings name) name).perform
        connection env) := by
  have hgrows : ∀ routine : Routine, Catalog.Grows (do
      Cache.set (cacheKey connection.settings name) routine.toDocument (.files path)
      return routine : Action Connection Routine) := by
    intro routine connection' env'
    refine ⟨[], ?_⟩
    rw [Action.perform_bind, Outcome.environment_andThen_pure, List.append_nil]
    exact (Cache.quiet_set _ _ _ connection' env').1
  obtain ⟨-, hstores, -⟩ := routines.spares_describeFresh name connection env
  unfold describeAndKeep
  rw [Action.perform_bind]
  refine ⟨fun hschema hname => ?_, fun routine w hplain hw => ?_, fun e hplain => ?_⟩
  · obtain ⟨query, hquery, hasks⟩ := routines.exists_asks_describeFresh hschema hname
    exact ⟨query, hquery, hasks.andThen hgrows⟩
  · rw [Outcome.andThen_of_ok hplain, Action.perform_bind, Cache.perform_set fits, hw]
    refine ⟨rfl, ?_⟩
    show (((_ : Environment).writeFile path _ "").writeFile path _ (Yaml.print w)).file? path _ = _
    rw [Environment.file?_eq_get?, Environment.files_writeFile, OrderedMap.get?_put_self]
  · generalize (routines.describeFresh name).perform connection env = plain at hplain hstores
    obtain ⟨result, connection', env'⟩ := plain
    obtain rfl : result = .error e := hplain
    exact ⟨rfl, hstores⟩

/-! ### Every content -/

/-- A complete description is what the name is answered with, and nothing changes. Anything else
counts as missing. -/
def Heeded (routines : Routines) (path : String) (name : Value) (connection : Connection)
    (env : Environment) (text : String) : Prop :=
  let o := (routines.describe name false).perform connection env
  match Entry.ofText text with
  | .written routine => o.result = .ok routine ∧ env.StaysIn o.environment
  | .damaged _ => routines.Renews path name connection env o
  | .missing unreadable =>
    routines.Renews path name connection (Entry.afterReading unreadable env) o

/-- A text is where a collection looks for the description of a name. -/
structure FoundAt (routines : Routines) (path : String) (name : Value) (connection : Connection)
    (env : Environment) (text : String) : Prop where
  cache_eq : routines.cache = some (.files path)
  fits : Cache.Fits path (cacheKey connection.settings name)
  file_eq : env.file? path (fileName (cacheKey connection.settings name)) = some text

theorem describe_damaged (found : FoundAt routines path name connection env text) {e : Error}
    (h : Entry.ofText text = .damaged e) :
    ((routines.describe name false).perform connection env).result = .error e ∧
      env.StaysIn ((routines.describe name false).perform connection env).environment := by
  have htext := describe_text found.cache_eq found.fits found.file_eq
  rw [h] at htext
  exact htext

/-- A database that knows one routine, whose description has a text in a directory. -/
def textEnvironment (text : String) : Environment :=
  { answering := .fixed soleRoutine, directories := [("meta", [("default_p.yaml", text)])] }

theorem foundAt_textEnvironment (text : String) :
    FoundAt { cache := some (.files "meta") } "meta" (.text "P") soleConnection
      (textEnvironment text) text :=
  ⟨rfl, by decide +kernel, rfl⟩

theorem describeFresh_textEnvironment (text : String) :
    ((describeFresh { cache := some (.files "meta") } (.text "P")).perform soleConnection
      (textEnvironment text)).result = .ok { name := .text "P" } := by
  have later : Later soleRoutine soleConnection soleEnvironment soleConnection
      (textEnvironment text) := ⟨⟨rfl, rfl⟩, rfl, rfl, rfl, rfl, rfl⟩
  have hknown : answer soleConnection soleEnvironment (.text "P") = .ok { name := .text "P" } := rfl
  exact (later.describeFresh _ _).1.trans hknown

theorem storable_soleDocument : Value.storable (Routine.toDocument { name := .text "P" }) =
    .ok (Routine.toDocument { name := .text "P" }) := rfl

theorem print_soleDocument : Yaml.print (Routine.toDocument { name := .text "P" }) =
    "name: P\nparameters: []\n" := by decide +kernel

/-- A text is heeded wherever it is found exactly when it is not damaged. A damaged one ends every
description in its error, without a word to the catalog and without a change of the file. -/
theorem entry_heeded_iff (text : String) :
    ((∀ routines path name connection env, FoundAt routines path name connection env text →
        Heeded routines path name connection env text) ↔
      ∀ e, Entry.ofText text ≠ .damaged e) ∧
    ∀ e, Entry.ofText text = .damaged e →
      ∀ routines path name connection env, FoundAt routines path name connection env text →
        let o := (routines.describe name false).perform connection env
        o.result = .error e ∧ env.StaysIn o.environment := by
  refine ⟨⟨fun heeded e hentry => ?_, fun hsound => ?_⟩,
    fun e hentry _ _ _ _ _ found => describe_damaged found hentry⟩
  · -- the catalog has a description where there is nothing but the text
    have found := foundAt_textEnvironment text
    obtain ⟨hresult, -⟩ := describe_damaged found hentry
    have hheeded := heeded _ _ _ _ _ found
    unfold Heeded at hheeded
    rw [hentry] at hheeded
    obtain ⟨hrenewed, -⟩ := hheeded.overwritten _ _ (describeFresh_textEnvironment text)
      storable_soleDocument
    rw [hresult] at hrenewed
    cases hrenewed
  · intro routines path name connection env ⟨hcache, fits, hfile⟩
    have htext := describe_text hcache fits hfile
    unfold Heeded
    dsimp only at htext ⊢
    cases hentry : Entry.ofText text with
    | written routine =>
      rw [hentry] at htext
      exact htext
    | damaged e => exact absurd hentry (hsound e)
    | missing unreadable =>
      rw [hentry] at htext
      dsimp only at htext ⊢
      rw [htext]
      exact renews_describeAndKeep fits

/-- An empty file is written anew. -/
theorem empty_entry_renewed :
    FoundAt { cache := some (.files "meta") } "meta" (.text "P") soleConnection
        (textEnvironment "") "" ∧
      let o := (describe { cache := some (.files "meta") } (.text "P") false).perform soleConnection
        (textEnvironment "")
      o.result = .ok { name := .text "P" } ∧
        o.environment.file? "meta" "default_p.yaml" = some "name: P\nparameters: []\n" := by
  have found := foundAt_textEnvironment ""
  have hsound : ∀ e, Entry.ofText "" ≠ .damaged e := nofun
  have heeded := (entry_heeded_iff "").1.2 hsound _ _ _ _ _ found
  have renews : Renews _ "meta" (.text "P") soleConnection (textEnvironment "") _ := heeded
  obtain ⟨hresult, hfile⟩ :=
    renews.overwritten _ _ (describeFresh_textEnvironment "") storable_soleDocument
  exact ⟨found, hresult, print_soleDocument ▸ hfile⟩

/-- A file that holds a text alone keeps a routine that the catalog knows from being described, and
stays. -/
theorem damaged_entry_stays :
    ((describeFresh { cache := some (.files "meta") } (.text "P")).perform soleConnection
        (textEnvironment "P\n")).result = .ok { name := .text "P" } ∧
      let o := (describe { cache := some (.files "meta") } (.text "P") false).perform soleConnection
        (textEnvironment "P\n")
      o.result = .error (.wrongKind "'str' is no description") ∧
        o.environment.file? "meta" "default_p.yaml" = some "P\n" := by
  have hentry : Entry.ofText "P\n" = .damaged (.wrongKind "'str' is no description") := rfl
  obtain ⟨hresult, -, hstores⟩ := describe_damaged (foundAt_textEnvironment "P\n") hentry
  have hsame := Environment.file?_of_stores hstores "meta" "default_p.yaml"
  exact ⟨describeFresh_textEnvironment _, hresult, hsame⟩

end Routines

end OracleCatalog
