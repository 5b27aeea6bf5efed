import OracleCatalog.Catalog.Query
import OracleCatalog.Catalog.Routines
import OracleCatalog.Proofs.Routine.Document
import OracleCatalog.Proofs.Session.Connection

/-!
# Descriptions from the catalog

A database that answers a statement with its parameters always in the same way gives a catalog query
the same answer at any time, whatever channel the query writes to. A collection that asks the
catalog then gets the same description of a name at any time.
-/

namespace OracleCatalog.Catalog

open OracleCatalog.Action (Agree)
open Outlook (Seen)

/-! ### Queries -/

variable {reply : String → Value → Reply} {v w : Outlook} {origin : Connection}

theorem agree_execute (fixed : Outlook.Fixed reply v w) (channel channel' : Channel)
    (query : Query) :
    Agree (Seen v w) (Connection.Alike v.opening origin) PlainStatement.Renumbered
      (execute channel query) (execute channel' query) := by
  refine Action.agree_bind (Action.agree_attempt (Connection.agree_execute fixed _ _)) ?_
  rintro (e | s) (e' | t) hst
  · obtain rfl : e = e' := hst
    dsimp only
    cases e.isCatalog with
    | true => exact Action.agree_throw e
    | false =>
      refine Action.agree_bind_eq (Action.agree_note _ _ _ _ _ _) fun _ => Action.agree_throw e.wrap
  · exact hst.elim
  · exact hst.elim
  · exact Action.agree_pure hst

/-- Queries agree whose reading does: on any connections, and whichever channel they write to. -/
theorem agree_withQuery {α : Type} {Q : α → α → Prop} (fixed : Outlook.Fixed reply v w)
    (channel channel' : Channel) (query : Query) {read : Action PlainStatement α}
    (h : Agree (Seen v w) PlainStatement.Renumbered Q read read) :
    Agree (Seen v w) (Connection.Alike v.opening origin) Q (withQuery channel query read)
      (withQuery channel' query read) := by
  refine Action.agree_bind (agree_execute fixed channel channel' query) fun s t hst => ?_
  refine Action.agree_bind (Action.agree_apart hst h) ?_
  rintro ⟨outcome, s'⟩ ⟨outcome', t'⟩ ⟨houtcome, hst'⟩
  refine Action.agree_bind (Action.agree_apart hst' PlainStatement.agree_close) ?_
  rintro ⟨closed, _⟩ ⟨closed', _⟩ ⟨hclosed, -⟩
  obtain rfl := hclosed.eq
  cases closed with
  | ok _ => exact Action.agree_ofExcept houtcome
  | error e => exact Action.agree_ofExcept rfl

theorem agree_firstValues (bound : Nat) :
    Agree (Seen v w) PlainStatement.Renumbered Eq (firstValues bound) (firstValues bound) := by
  induction bound with
  | zero => exact Action.agree_pure rfl
  | succ bound ih =>
    refine Action.agree_bind_eq (PlainStatement.agree_onCursor Cursor.agree_fetchOne) fun row => ?_
    cases row with
    | none => exact Action.agree_pure rfl
    | some row =>
      cases row with
      | nil => exact Action.agree_throw _
      | cons v rest => exact Action.agree_bind_eq ih fun _ => Action.agree_pure rfl

theorem agree_firstColumn (fixed : Outlook.Fixed reply v w) (channel channel' : Channel)
    (query : Query) :
    Agree (Seen v w) (Connection.Alike v.opening origin) Eq (firstColumn channel query)
      (firstColumn channel' query) := by
  refine agree_withQuery fixed channel channel' query (Action.agree_bind Action.agree_state ?_)
  rintro s _ ⟨_, ⟨number, rfl⟩, rfl⟩
  exact agree_firstValues _

theorem agree_fetchRows : Agree (Seen v w) PlainStatement.Renumbered Eq fetchRows fetchRows :=
  Action.agree_bind_eq (PlainStatement.agree_fetchAll .keyed) fun _ => Action.agree_pure rfl

end OracleCatalog.Catalog

namespace OracleCatalog.Routines

open OracleCatalog.Action (Agree)
open Outlook (Seen)

variable {reply : String → Value → Reply} {v w : Outlook} {origin : Connection}
  (routines other : Routines)

/-! ### Two collections -/

theorem agree_find (fixed : Outlook.Fixed reply v w) (name : Value) :
    Agree (Seen v w) (Connection.Alike v.opening origin) Eq (routines.find name)
      (other.find name) := by
  refine Action.agree_bind Action.agree_state fun c d hcd => ?_
  have hdialect := hcd.dialect_eq
  have hsettings : c.settings = d.settings := congrArg Dialect.settings hdialect
  dsimp only
  rw [hdialect, hsettings]
  refine Action.agree_bind_eq (Action.agree_ofExcept (Error.agree_refl _)) fun query => ?_
  exact Catalog.agree_firstColumn fixed _ _ query

/-- Rows that have been fetched make the same parameters, which may all be declared. -/
theorem agree_foldParameters (fixed : Outlook.Fixed reply v w) (name : Value) :
    Agree (Seen v w) (Connection.Alike v.opening origin) (fun b b' => b = b' ∧ b.IsSound)
      (routines.foldParameters name) (other.foldParameters name) := by
  refine Action.agree_bind_eq (Action.agree_ofExcept (Error.agree_refl _)) fun target => ?_
  refine Catalog.agree_withQuery fixed _ _ _ ?_
  refine Action.agree_bind_eq Catalog.agree_fetchRows fun rows => Action.agree_ofNoted ?_
  cases hfold : (rows.foldlM RoutineBuilder.addParameterRow { name }).outcome.1 with
  | error e => exact rfl
  | ok builder =>
    obtain ⟨_, hgives⟩ := Noted.gives_of_outcome hfold
    refine ⟨rfl, RoutineBuilder.isSound_foldlM ?_ hgives⟩
    intro p hp
    cases hp

theorem agree_describeFresh (fixed : Outlook.Fixed reply v w) (name : Value) :
    Agree (Seen v w) (Connection.Alike v.opening origin) (fun r r' => r = r' ∧ r.IsSound)
      (routines.describeFresh name) (other.describeFresh name) := by
  refine Action.agree_bind_eq (agree_find routines other fixed name) fun found => ?_
  have hfold : Agree (Seen v w) (Connection.Alike v.opening origin) (fun r r' => r = r' ∧ r.IsSound)
      (do return (← routines.foldParameters name).build)
      (do return (← other.foldParameters name).build) := by
    refine Action.agree_bind (agree_foldParameters routines other fixed name) ?_
    rintro builder _ ⟨rfl, hsound⟩
    exact Action.agree_pure ⟨rfl, hsound⟩
  cases found.isEmpty with
  | true => exact Action.agree_bind (P := Eq) (Action.agree_throw _) fun _ _ _ => hfold
  | false => exact hfold

/-! ### The same question at another time -/

/-- A connection in an environment that is at another time what it was at first. -/
structure Later (reply : String → Value → Reply) (origin : Connection) (env : Environment)
    (connection : Connection) (env' : Environment) : Prop where
  akin : Connection.Akin env.opening origin connection
  fixed : Outlook.Fixed reply env.outlook env'.outlook

/-- The description of a name by a collection without a cache. -/
def answer (origin : Connection) (env : Environment) (name : Value) : Except Error Routine :=
  ((describeFresh {} name).perform origin env).result

section Later

variable {env env' : Environment} {connection : Connection}

theorem Later.nextStep (later : Later reply origin env connection env') :
    Later reply origin env connection env'.nextStep :=
  ⟨later.akin, later.fixed⟩

/-- Whenever a collection asks the catalog, it gets what it would have got at first. -/
theorem Later.describeFresh (later : Later reply origin env connection env') (name : Value) :
    ((routines.describeFresh name).perform connection env').result = answer origin env name ∧
      Later reply origin env ((routines.describeFresh name).perform connection env').state
        ((routines.describeFresh name).perform connection env').environment ∧
      ((routines.describeFresh name).perform connection env').environment.memories =
        env'.memories ∧
      ∀ r, answer origin env name = .ok r → r.IsSound := by
  have hakin : Connection.Akin env.opening origin origin := ⟨rfl, rfl⟩
  have halike : Connection.Alike env.opening origin origin connection := ⟨hakin, later.akin⟩
  obtain ⟨hresult, hstate, houtlook, houtlook'⟩ :=
    agree_describeFresh {} routines later.fixed name origin connection env env' halike ⟨rfl, rfl⟩
  unfold answer
  refine ⟨?_, ⟨hstate.2, ?_⟩, congrArg Outlook.memories houtlook', ?_⟩
  · cases hleft : ((Routines.describeFresh {} name).perform origin env).result <;>
      cases hright : ((routines.describeFresh name).perform connection env').result <;>
      rw [hleft, hright] at hresult
    · exact congrArg _ hresult.symm
    · exact hresult.elim
    · exact hresult.elim
    · exact congrArg _ hresult.1.symm
  · rw [houtlook']
    exact later.fixed
  · intro r hr
    rw [hr] at hresult
    cases hright : ((routines.describeFresh name).perform connection env').result with
    | error e =>
      rw [hright] at hresult
      exact hresult.elim
    | ok r' =>
      rw [hright] at hresult
      exact hresult.2

end Later

end OracleCatalog.Routines
