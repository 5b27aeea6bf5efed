import OracleCatalog.Proofs.Statement.Agreement
import OracleCatalog.Session.Connection

/-!
# Connections that agree

Whether the link of a connection has to be opened first does not matter: a connection reaches the
database at any time or at none, and in the latter case with the same error every time.
-/

namespace OracleCatalog

open OracleCatalog.Action (Agree)
open Outlook (Seen)

variable {reply : String → Value → Reply} {v w : Outlook} {origin : Connection}

def Settings.opens (settings : Settings) (opening : Opening) : Bool :=
  opening == .succeeds && (settings.user.truthy && settings.target.truthy)

def Settings.openingError (settings : Settings) (opening : Opening) : Error :=
  if opening == .missing then .driverMissing
  else if settings.user.truthy && settings.target.truthy then .raised Driver.refusal
  else .refused .noTarget

theorem Driver.connect_result (driver : Driver) (env : Environment) :
    (connect.perform driver env).result =
      if driver.settings.opens env.opening then .ok env.links
      else .error (driver.settings.openingError env.opening) := by
  cases hopening : env.opening <;> cases huser : driver.settings.user.truthy <;>
    cases htarget : driver.settings.target.truthy <;>
    simp [connect, openLink, Settings.opens, Settings.openingError, hopening, huser, htarget]

theorem Driver.connect_keeps (driver : Driver) (env : Environment) :
    (connect.perform driver env).state.dialect = driver.dialect ∧
      (connect.perform driver env).environment.outlook = env.outlook := by
  cases hopening : env.opening <;> cases huser : driver.settings.user.truthy <;>
    cases htarget : driver.settings.target.truthy <;>
    simp [connect, openLink, hopening, huser, htarget, Environment.outlook, Environment.observe,
      Environment.note]

namespace Connection

/-- Whether a connection has a link, now or once it is needed. -/
def reaches (opening : Opening) (connection : Connection) : Bool :=
  connection.link.isSome || connection.settings.opens opening

/-- A connection of the dialect of another one that reaches the database when that does. -/
def Akin (opening : Opening) (origin connection : Connection) : Prop :=
  connection.dialect = origin.dialect ∧ connection.reaches opening = origin.reaches opening

/-- Two connections that are akin to a third one. -/
def Alike (opening : Opening) (origin connection other : Connection) : Prop :=
  Akin opening origin connection ∧ Akin opening origin other

theorem Alike.dialect_eq {opening : Opening} {origin connection other : Connection}
    (h : Alike opening origin connection other) : connection.dialect = other.dialect :=
  h.1.1.trans h.2.1.symm

theorem Alike.reaches_eq {opening : Opening} {origin connection other : Connection}
    (h : Alike opening origin connection other) :
    connection.reaches opening = other.reaches opening :=
  h.1.2.trans h.2.2.symm

theorem openLink_of_some {connection : Connection} {link : Nat} (h : connection.link = some link)
    (env : Environment) : openLink.perform connection env =
      { result := .ok link, state := connection, environment := env } := by
  unfold openLink
  rw [Action.perform_bind, Action.perform_state, Outcome.andThen_ok, h]
  rfl

theorem openLink_of_none {connection : Connection} (h : connection.link = none)
    (env : Environment) : openLink.perform connection env =
      ((onDriver Driver.connect).perform connection env).andThen fun link => do
        Action.change fun connection => { connection with link := some link }
        return link := by
  unfold openLink
  rw [Action.perform_bind, Action.perform_state, Outcome.andThen_ok, h]
  exact Action.perform_bind _ _ _ _

theorem openLink_spec (connection : Connection) (env : Environment) :
    (openLink.perform connection env).state.dialect = connection.dialect ∧
      (openLink.perform connection env).state.reaches env.opening =
        connection.reaches env.opening ∧
      (openLink.perform connection env).environment.outlook = env.outlook ∧
      ((∃ link, (openLink.perform connection env).result = .ok link) ∧
          connection.reaches env.opening = true ∨
        (openLink.perform connection env).result =
            .error (connection.settings.openingError env.opening) ∧
          connection.reaches env.opening = false) := by
  cases hlink : connection.link with
  | some link =>
    rw [openLink_of_some hlink]
    refine ⟨rfl, rfl, rfl, .inl ⟨⟨link, rfl⟩, ?_⟩⟩
    rw [reaches, hlink]
    rfl
  | none =>
    have hreaches : connection.reaches env.opening = connection.settings.opens env.opening := by
      rw [reaches, hlink]
      rfl
    obtain ⟨hdialect, houtlook⟩ := connection.driver.connect_keeps env
    have hresult := connection.driver.connect_result env
    change _ = if connection.settings.opens env.opening then _ else _ at hresult
    rw [hreaches, openLink_of_none hlink, onDriver, Action.perform_within]
    cases hopens : connection.settings.opens env.opening with
    | true =>
      rw [hopens] at hresult
      rw [hresult]
      refine ⟨hdialect, rfl, houtlook, .inl ⟨⟨_, rfl⟩, rfl⟩⟩
    | false =>
      rw [hopens] at hresult
      rw [hresult]
      refine ⟨hdialect, ?_, houtlook, .inr ⟨rfl, rfl⟩⟩
      have hsettings : (Driver.connect.perform connection.driver env).state.settings =
          connection.settings := congrArg Dialect.settings hdialect
      show (connection.link.isSome ||
        (Driver.connect.perform connection.driver env).state.settings.opens env.opening) = false
      rw [hlink, Option.isSome_none, Bool.false_or, hsettings]
      exact hopens

theorem agree_openLink (fixed : Outlook.Fixed reply v w) :
    Agree (Seen v w) (Alike v.opening origin) (fun _ _ => True) openLink openLink := by
  rintro c d env env' hcd ⟨rfl, rfl⟩
  have hdialect := hcd.dialect_eq
  have hreaches : c.reaches env.opening = d.reaches env.opening := hcd.reaches_eq
  obtain ⟨⟨hc₁, hc₂⟩, hd₁, hd₂⟩ := hcd
  obtain ⟨hcdialect, hcreaches, hcoutlook, hc⟩ := openLink_spec c env
  obtain ⟨hddialect, hdreaches, hdoutlook, hd⟩ := openLink_spec d env'
  have hopening : env.opening = env'.opening := fixed.opening
  rw [← hopening] at hdreaches hd
  refine ⟨?_, ⟨⟨hcdialect.trans hc₁, hcreaches.trans hc₂⟩, hddialect.trans hd₁,
    hdreaches.trans hd₂⟩, hcoutlook, hdoutlook⟩
  rcases hc with ⟨⟨link, hc⟩, hcr⟩ | ⟨hc, hcr⟩ <;> rcases hd with ⟨⟨link', hd⟩, hdr⟩ | ⟨hd, hdr⟩
  · rw [hc, hd]
    exact trivial
  · rw [hreaches, hdr] at hcr
    cases hcr
  · rw [hreaches, hdr] at hcr
    cases hcr
  · rw [hc, hd]
    exact congrArg (fun dialect => Settings.openingError dialect.settings env.opening) hdialect

theorem agree_openCursor (fixed : Outlook.Fixed reply v w) :
    Agree (Seen v w) (Alike v.opening origin) Cursor.Renumbered openCursor openCursor := by
  refine Action.agree_bind (agree_openLink fixed) fun link link' _ => ?_
  rintro c d env env' hcd ⟨rfl, rfl⟩
  have hleft : env.cursorFaults = [] := fixed.cursorFaults
  have hright : env'.cursorFaults = [] := fixed.otherCursorFaults
  unfold Cursor.openOn
  rw [Action.perform_ofFunction, Action.perform_ofFunction]
  simp only [Environment.takeCursorFault, hleft, hright]
  exact ⟨⟨_, rfl⟩, hcd, rfl, rfl⟩

theorem agree_closingOnFailure {s t : PlainStatement} (hst : s.Renumbered t)
    {action : Action PlainStatement Unit}
    (h : Agree (Seen v w) PlainStatement.Renumbered Eq action action) :
    Agree (Seen v w) (Alike v.opening origin) PlainStatement.Renumbered (closingOnFailure s action)
      (closingOnFailure t action) := by
  refine Action.agree_bind (Action.agree_apart hst h) ?_
  rintro ⟨outcome, s'⟩ ⟨outcome', t'⟩ ⟨houtcome, hst'⟩
  obtain rfl := houtcome.eq
  cases outcome with
  | ok _ => exact Action.agree_pure hst'
  | error e =>
    refine Action.agree_bind (Action.agree_apart hst' PlainStatement.agree_close) ?_
    rintro ⟨closed, _⟩ ⟨closed', _⟩ ⟨hclosed, -⟩
    obtain rfl := hclosed.eq
    cases closed with
    | ok _ => exact Action.agree_throw e
    | error e' => exact Action.agree_throw e'

theorem agree_execute (fixed : Outlook.Fixed reply v w) (sql : String) (parameters : Value) :
    Agree (Seen v w) (Alike v.opening origin) PlainStatement.Renumbered
      (execute (.text sql) parameters false) (execute (.text sql) parameters false) := by
  have hconverted : Agree (Seen v w) (Alike v.opening origin) Eq (converted (.text sql) false)
      (converted (.text sql) false) := by
    exact Action.agree_bind Action.agree_state fun _ _ _ => Action.agree_pure rfl
  refine Action.agree_bind_eq hconverted fun sql => ?_
  refine Action.agree_bind (agree_openCursor fixed) ?_
  rintro cursor _ ⟨number, rfl⟩
  refine Action.agree_bind_eq (Action.agree_ofExcept (Error.agree_refl _)) fun sql => ?_
  refine Action.agree_bind_eq (Action.agree_note _ _ _ _ _ _) fun _ => ?_
  exact agree_closingOnFailure ⟨_, ⟨number, rfl⟩, rfl⟩ (PlainStatement.agree_execute fixed _)

end Connection

end OracleCatalog
