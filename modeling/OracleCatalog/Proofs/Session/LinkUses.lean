import OracleCatalog.Proofs.Session.Connection

/-!
# What calls do with links

A connection and its driver know the link to the database each for itself. A link is used where a
cursor is opened on it and where it is closed. Each call on the connection or on the driver makes at
most one such use; which ones there are, and how the links that are known change with them, is told
once here for all calls.
-/

namespace OracleCatalog

/-! ### Uses of links -/

namespace Event

/-- The link on which the event opens a cursor. -/
def cursorLink? : Event → Option Nat
  | .cursor link _ => some link
  | _ => none

/-- The link that the event closes. -/
def closedLink? : Event → Option Nat
  | .disconnect link => some link
  | _ => none

/-- The link that the event uses. -/
def link? (event : Event) : Option Nat := event.cursorLink?.or event.closedLink?

end Event

def cursorLinks (events : List Event) : List Nat := events.filterMap Event.cursorLink?

def closedLinks (events : List Event) : List Nat := events.filterMap Event.closedLink?

def linkUses (events : List Event) : List Event := events.filter fun event => event.link?.isSome

/-- No link is used behind its closing. -/
def LinksRespected (events : List Event) : Prop :=
  events.Pairwise fun event later => ∀ link ∈ event.closedLink?, later.link? ≠ some link

instance (events : List Event) : Decidable (LinksRespected events) :=
  inferInstanceAs (Decidable (events.Pairwise _))

theorem closedLinks_append (events more : List Event) :
    closedLinks (events ++ more) = closedLinks events ++ closedLinks more :=
  List.filterMap_append

theorem linkUses_append (events more : List Event) :
    linkUses (events ++ more) = linkUses events ++ linkUses more :=
  List.filter_append events more

theorem linkUses_concat_other (events : List Event) {event : Event} (h : event.link? = none) :
    linkUses (events ++ [event]) = linkUses events := by
  have hnone : linkUses [event] = [] := by
    unfold linkUses
    rw [List.filter_cons, h]
    rfl
  rw [linkUses_append, hnone, List.append_nil]

theorem cursorLinks_linkUses (events : List Event) :
    cursorLinks (linkUses events) = cursorLinks events := by
  unfold cursorLinks linkUses
  rw [List.filterMap_filter]
  congr 1
  funext event
  cases event <;> rfl

theorem closedLinks_linkUses (events : List Event) :
    closedLinks (linkUses events) = closedLinks events := by
  unfold closedLinks linkUses
  rw [List.filterMap_filter]
  congr 1
  funext event
  cases event <;> rfl

/-- Events that use no link do not count. -/
theorem linksRespected_linkUses (events : List Event) :
    LinksRespected (linkUses events) ↔ LinksRespected events := by
  unfold LinksRespected linkUses
  rw [List.pairwise_filter]
  refine List.Pairwise.iff_of_mem fun {event later} _ _ => ⟨fun h link hclosed hlink => ?_, ?_⟩
  · have hfirst : event.link?.isSome = true := by
      cases event with
      | disconnect _ => rfl
      | _ => cases hclosed
    have hsecond : later.link?.isSome = true := by rw [hlink]; rfl
    exact h hfirst hsecond link hclosed hlink
  · intro h _ _
    exact h

theorem linksRespected_concat (past : List Event) (event : Event) :
    LinksRespected (past ++ [event]) ↔
      LinksRespected past ∧ ∀ link ∈ closedLinks past, event.link? ≠ some link := by
  unfold LinksRespected closedLinks
  rw [List.pairwise_append]
  constructor
  · rintro ⟨hpast, -, hacross⟩
    refine ⟨hpast, fun link hlink => ?_⟩
    obtain ⟨closing, hclosing, hclosed⟩ := List.mem_filterMap.1 hlink
    exact hacross closing hclosing event List.mem_cons_self link hclosed
  · rintro ⟨hpast, hevent⟩
    refine ⟨hpast, List.pairwise_singleton _ _, ?_⟩
    intro closing hclosing later hlater link hclosed
    obtain rfl := List.mem_singleton.1 hlater
    exact hevent link (List.mem_filterMap.2 ⟨closing, hclosing, hclosed⟩)

/-! ### Actions that leave links alone -/

namespace Action

variable {σ τ α β γ δ : Type} {part : σ → γ}

/-- The action uses no link, opens none, and keeps a part of its state. -/
def Unlinked (part : σ → γ) (action : Action σ α) : Prop :=
  ∀ s env, part (action.perform s env).state = part s ∧
    (action.perform s env).environment.links = env.links ∧
    linkUses (action.perform s env).environment.events = linkUses env.events

theorem unlinked_pure (a : α) : Unlinked part (pure a : Action σ α) := fun _ _ => ⟨rfl, rfl, rfl⟩

theorem unlinked_state : Unlinked part (state : Action σ σ) := fun _ _ => ⟨rfl, rfl, rfl⟩

theorem unlinked_ofExcept (outcome : Except Error α) :
    Unlinked part (ofExcept outcome : Action σ α) := fun _ _ => ⟨rfl, rfl, rfl⟩

theorem unlinked_ofNoted (noted : Noted α) : Unlinked part (ofNoted noted : Action σ α) :=
  fun _ _ => ⟨rfl, rfl, rfl⟩

theorem unlinked_note (channel : Channel) (level : Level) (text : String) :
    Unlinked part (note channel level text : Action σ Unit) := fun _ _ => ⟨rfl, rfl, rfl⟩

theorem unlinked_change {f : σ → σ} (h : ∀ s, part (f s) = part s) : Unlinked part (change f) :=
  fun s _ => ⟨h s, rfl, rfl⟩

theorem unlinked_bind {action : Action σ α} {next : α → Action σ β} (h : Unlinked part action)
    (hnext : ∀ a, Unlinked part (next a)) : Unlinked part (action >>= next) := by
  intro s env
  obtain ⟨hpart, hlinks, huses⟩ := h s env
  rw [perform_bind]
  unfold Outcome.andThen
  cases (action.perform s env).result with
  | error e => exact ⟨hpart, hlinks, huses⟩
  | ok a =>
    obtain ⟨hpart', hlinks', huses'⟩ := hnext a (action.perform s env).state
      (action.perform s env).environment
    exact ⟨hpart'.trans hpart, hlinks'.trans hlinks, huses'.trans huses⟩

theorem unlinked_apart {inner : τ → δ} {s : τ} {action : Action τ α} (h : Unlinked inner action) :
    Unlinked part (apart s action : Action σ (Except Error α × τ)) :=
  fun _ env => ⟨rfl, (h s env).2.1, (h s env).2.2⟩

end Action

open OracleCatalog.Action (Unlinked)

namespace PlainStatement

/-- Nothing that is done with a statement concerns a link. -/
abbrev OffLink {α : Type} (action : Action PlainStatement α) : Prop :=
  Unlinked (fun _ => ()) action

theorem offLink_bindValue (placeholder value : Value) : OffLink (bindValue placeholder value) :=
  Action.unlinked_bind Action.unlinked_state fun _ =>
    Action.unlinked_bind (Action.unlinked_ofExcept _) fun _ =>
      Action.unlinked_change fun _ => rfl

theorem offLink_bindEach (placements : Entries) : OffLink (bindEach placements) := by
  induction placements with
  | nil => exact Action.unlinked_pure ()
  | cons placement rest ih => exact Action.unlinked_bind (offLink_bindValue _ _) fun _ => ih

theorem offLink_executeCursor (sql : String) (parameters : Value) :
    OffLink (onCursor (Cursor.execute sql parameters)) := by
  intro s env
  have huses := linkUses_concat_other env.events
    (show (Event.execute s.cursor.number sql parameters).link? = none from rfl)
  unfold onCursor
  rw [Action.perform_within]
  unfold Cursor.execute
  rw [Action.perform_ofFunction]
  simp only [Environment.takeReply]
  split <;> exact ⟨trivial, rfl, huses⟩

theorem offLink_execute (parameters : Value) : OffLink (execute parameters) := by
  have hsend : OffLink (do
      let s ← Action.state
      onCursor (Cursor.execute s.sql s.bindings.sent)) :=
    Action.unlinked_bind Action.unlinked_state fun s => offLink_executeCursor _ _
  unfold execute
  cases parameters.truthy with
  | false => exact hsend
  | true =>
    refine Action.unlinked_bind (Action.unlinked_change fun _ => rfl) fun _ => ?_
    refine Action.unlinked_bind (Action.unlinked_ofExcept _) fun placements => ?_
    exact Action.unlinked_bind (offLink_bindEach placements) fun _ => hsend

theorem offLink_close : OffLink close := by
  intro s env
  exact ⟨rfl, rfl, linkUses_concat_other env.events rfl⟩

end PlainStatement

/-! ### What a call does with the links -/

/-- The links that are known: to a connection and to its driver, and how many have been opened. -/
structure Links where
  held : Option Nat
  remembered : Option Nat
  opened : Nat

namespace Connection

def links (connection : Connection) (env : Environment) : Links :=
  { held := connection.link, remembered := connection.driver.link, opened := env.links }

/-- What is asked of a connection and of its driver. -/
inductive Call where
  | connect
  | disconnect
  | execute (sql parameters : Value) (convert : Bool)
  | close

namespace Call

def act : Call → Action Connection Unit
  | .connect => do let _ ← onDriver Driver.connect
  | .disconnect => onDriver Driver.disconnect
  | .execute sql parameters convert => do let _ ← Connection.execute sql parameters convert
  | .close => Connection.close

def isClose : Call → Bool
  | .close => true
  | _ => false

/-- What a call can do: how it changes the links, and which uses of links it makes. -/
inductive Moves : Call → Links → List Event → Links → Prop where
  | rests {call : Call} {links : Links} (hcall : call.isClose = false) : Moves call links [] links
  | connects {call : Call} {links : Links} (hcall : call.isClose = false) :
    Moves call links []
      { links with remembered := some links.opened, opened := links.opened + 1 }
  | disconnects {links : Links} {link : Nat} (hlink : links.remembered = some link) :
    Moves .disconnect links [.disconnect link] { links with remembered := none }
  | holds {call : Call} {links : Links} {uses : List Event} (hcall : call.isClose = false)
    (hlink : links.held = none)
    (huses : uses = [] ∨ ∃ number, uses = [.cursor links.opened number]) :
    Moves call links uses
      { held := some links.opened, remembered := some links.opened, opened := links.opened + 1 }
  | uses {call : Call} {links : Links} {link number : Nat} (hcall : call.isClose = false)
    (hlink : links.held = some link) : Moves call links [.cursor link number] links
  | closes {links : Links} {link : Nat} (hlink : links.held = some link) :
    Moves .close links [.disconnect link] { links with held := none, remembered := none }
  | closesNothing {links : Links} (hlink : links.held = none) :
    Moves .close links [] { links with held := none, remembered := none }

end Call

end Connection

/-- Connecting opens one link, which the driver remembers, or none. -/
theorem Driver.connect_links (driver : Driver) (env : Environment) :
    linkUses (connect.perform driver env).environment.events = linkUses env.events ∧
      ((∃ e, (connect.perform driver env).result = .error e) ∧
          (connect.perform driver env).state = driver ∧
          (connect.perform driver env).environment.links = env.links ∨
        (connect.perform driver env).result = .ok env.links ∧
          (connect.perform driver env).state.link = some env.links ∧
          (connect.perform driver env).environment.links = env.links + 1) := by
  have huses : ∀ link user password target,
      linkUses (env.events ++ [.connect link user password target]) = linkUses env.events :=
    fun _ _ _ _ => linkUses_concat_other env.events rfl
  cases hopening : env.opening <;> cases huser : driver.settings.user.truthy <;>
    cases htarget : driver.settings.target.truthy <;>
    simp [connect, openLink, hopening, huser, htarget, Environment.observe, Environment.note, huses]

/-- Opening a cursor uses the link, unless it fails. -/
theorem Cursor.openOn_uses (link : Nat) (connection : Connection) (env : Environment) :
    ∃ uses, (uses = [] ∨ ∃ number, uses = [.cursor link number]) ∧
      linkUses ((openOn link).perform connection env).environment.events =
        linkUses env.events ++ uses ∧
      ((openOn link).perform connection env).state.links
        ((openOn link).perform connection env).environment = connection.links env := by
  unfold openOn
  rw [Action.perform_ofFunction]
  unfold Environment.takeCursorFault
  cases env.cursorFaults with
  | nil =>
    exact ⟨[.cursor link env.cursors], .inr ⟨_, rfl⟩, linkUses_append env.events _, rfl⟩
  | cons fault faults =>
    cases fault with
    | none => exact ⟨[.cursor link env.cursors], .inr ⟨_, rfl⟩, linkUses_append env.events _, rfl⟩
    | some fault => exact ⟨[], .inl rfl, (List.append_nil _).symm, rfl⟩

namespace Connection

/-- The links that the connection and its driver know. -/
abbrev knownLinks (connection : Connection) : Option Nat × Option Nat :=
  (connection.link, connection.driver.link)

theorem unlinked_converted (sql : Value) (convert : Bool) :
    Unlinked knownLinks (converted sql convert) := by
  refine Action.unlinked_bind Action.unlinked_state fun connection => ?_
  dsimp only
  split
  · exact Action.unlinked_ofNoted _
  · exact Action.unlinked_pure _

theorem unlinked_closingOnFailure (s : PlainStatement) {action : Action PlainStatement Unit}
    (h : PlainStatement.OffLink action) : Unlinked knownLinks (closingOnFailure s action) := by
  refine Action.unlinked_bind (Action.unlinked_apart h) ?_
  rintro ⟨outcome, reached⟩
  cases outcome with
  | ok _ => exact Action.unlinked_pure reached
  | error e =>
    exact Action.unlinked_bind (Action.unlinked_apart PlainStatement.offLink_close) fun _ =>
      Action.unlinked_ofExcept _

/-- Wherever it starts and however it ends, the action does with the links what the call can do. -/
def Moving {α : Type} (call : Call) (action : Action Connection α) : Prop :=
  ∀ connection env, ∃ uses,
    linkUses (action.perform connection env).environment.events = linkUses env.events ++ uses ∧
      call.Moves (connection.links env) uses
        ((action.perform connection env).state.links (action.perform connection env).environment)

variable {α β : Type} {call : Call}

theorem links_eq {action : Action Connection α} (h : Unlinked knownLinks action)
    (connection : Connection) (env : Environment) :
    (action.perform connection env).state.links (action.perform connection env).environment =
      connection.links env := by
  obtain ⟨hknown, hlinks, -⟩ := h connection env
  obtain ⟨hheld, hremembered⟩ := Prod.mk.inj hknown
  unfold links
  rw [hheld, hremembered, hlinks]

theorem moving_bind {action : Action Connection α} {next : α → Action Connection β}
    (h : Moving call action) (hnext : ∀ a, Unlinked knownLinks (next a)) :
    Moving call (action >>= next) := by
  intro connection env
  obtain ⟨uses, huses, hmoves⟩ := h connection env
  rw [Action.perform_bind]
  unfold Outcome.andThen
  cases (action.perform connection env).result with
  | error e => exact ⟨uses, huses, hmoves⟩
  | ok a =>
    refine ⟨uses, ?_, ?_⟩
    · rw [← huses]
      exact (hnext a _ _).2.2
    · rw [links_eq (hnext a)]
      exact hmoves

theorem moving_of_unlinked_bind {action : Action Connection α} {next : α → Action Connection β}
    (hcall : call.isClose = false) (h : Unlinked knownLinks action)
    (hnext : ∀ a, Moving call (next a)) : Moving call (action >>= next) := by
  intro connection env
  have hlinks := links_eq h connection env
  obtain ⟨-, -, huses⟩ := h connection env
  rw [Action.perform_bind]
  unfold Outcome.andThen
  cases (action.perform connection env).result with
  | error e =>
    refine ⟨[], ?_, ?_⟩
    · rw [List.append_nil]
      exact huses
    · dsimp only
      rw [hlinks]
      exact .rests hcall
  | ok a =>
    have hmoves := hnext a (action.perform connection env).state
      (action.perform connection env).environment
    rw [hlinks, huses] at hmoves
    exact hmoves

theorem connect_links (connection : Connection) (env : Environment) :
    linkUses ((onDriver Driver.connect).perform connection env).environment.events =
        linkUses env.events ∧
      ((∃ e, ((onDriver Driver.connect).perform connection env).result = .error e) ∧
          ((onDriver Driver.connect).perform connection env).state.links
            ((onDriver Driver.connect).perform connection env).environment =
              connection.links env ∨
        ((onDriver Driver.connect).perform connection env).result = .ok env.links ∧
          ((onDriver Driver.connect).perform connection env).state.links
            ((onDriver Driver.connect).perform connection env).environment =
              { held := connection.link
                remembered := some env.links
                opened := env.links + 1 }) := by
  obtain ⟨huses, ⟨he, hdriver, hlinks⟩ | ⟨hok, hlink, hlinks⟩⟩ :=
    connection.driver.connect_links env
  · refine ⟨huses, .inl ⟨he, ?_⟩⟩
    show Links.mk connection.link (Driver.connect.perform connection.driver env).state.link _ = _
    rw [hdriver]
    exact congrArg (Links.mk connection.link connection.driver.link) hlinks
  · refine ⟨huses, .inr ⟨hok, ?_⟩⟩
    show Links.mk connection.link (Driver.connect.perform connection.driver env).state.link _ = _
    rw [hlink]
    exact congrArg (Links.mk connection.link (some env.links)) hlinks

/-- A cursor is opened on the link that there is; at most one link is opened for it. -/
theorem moving_openCursor (hcall : call.isClose = false) : Moving call openCursor := by
  intro connection env
  unfold openCursor
  rw [Action.perform_bind]
  cases hlink : connection.link with
  | some link =>
    rw [openLink_of_some hlink, Outcome.andThen_ok]
    obtain ⟨uses, huses, hmade, hlinks⟩ := Cursor.openOn_uses link connection env
    refine ⟨uses, hmade, ?_⟩
    rw [hlinks]
    obtain rfl | ⟨number, rfl⟩ := huses
    · exact .rests hcall
    · exact .uses hcall hlink
  | none =>
    rw [openLink_of_none hlink]
    have hconnect := connect_links connection env
    generalize (onDriver Driver.connect).perform connection env = connected at hconnect
    obtain ⟨result, reached, env'⟩ := connected
    obtain ⟨hquiet, ⟨⟨e, he⟩, hlinks⟩ | ⟨hok, hlinks⟩⟩ := hconnect
    · -- no link is opened
      obtain rfl : result = .error e := he
      rw [Outcome.andThen_error, Outcome.andThen_error]
      refine ⟨[], ?_, ?_⟩
      · rw [List.append_nil]
        exact hquiet
      · dsimp only at hlinks ⊢
        rw [hlinks]
        exact .rests hcall
    · obtain rfl : result = .ok env.links := hok
      obtain ⟨uses, huses, hmade, hreached⟩ :=
        Cursor.openOn_uses env.links { reached with link := some env.links } env'
      refine ⟨uses, hmade.trans (congrArg (· ++ uses) hquiet), ?_⟩
      show call.Moves _ _ (((Cursor.openOn env.links).perform
        { reached with link := some env.links } env').state.links
        ((Cursor.openOn env.links).perform
          { reached with link := some env.links } env').environment)
      rw [hreached]
      -- the connection holds the new link, which its driver remembers as well
      obtain ⟨-, hremembered, hopened⟩ := Links.mk.inj hlinks
      dsimp only at hremembered hopened
      show call.Moves _ _ (Links.mk (some env.links) reached.driver.link env'.links)
      rw [hremembered, hopened]
      exact .holds hcall hlink huses

theorem moving_execute (sql parameters : Value) (convert : Bool) :
    Moving (.execute sql parameters convert) (execute sql parameters convert) := by
  have hcall : (Call.execute sql parameters convert).isClose = false := rfl
  refine moving_of_unlinked_bind hcall (unlinked_converted sql convert) fun converted => ?_
  refine moving_bind (moving_openCursor hcall) fun cursor => ?_
  refine Action.unlinked_bind (Action.unlinked_ofExcept _) fun text => ?_
  refine Action.unlinked_bind (Action.unlinked_note _ _ _) fun _ => ?_
  exact unlinked_closingOnFailure _ (PlainStatement.offLink_execute parameters)

theorem moving_connect : Moving .connect (onDriver Driver.connect) := by
  intro connection env
  obtain ⟨hquiet, ⟨-, hlinks⟩ | ⟨-, hlinks⟩⟩ := connect_links connection env
  · refine ⟨[], by rw [List.append_nil, hquiet], ?_⟩
    rw [hlinks]
    exact .rests rfl
  · refine ⟨[], by rw [List.append_nil, hquiet], ?_⟩
    rw [hlinks]
    exact .connects rfl

theorem moving_disconnect : Moving .disconnect (onDriver Driver.disconnect) := by
  intro connection env
  unfold onDriver Driver.disconnect
  simp only [Action.perform_within, Action.perform_bind, Action.perform_state, Outcome.andThen_ok]
  cases hlink : connection.driver.link with
  | none => exact ⟨[], (List.append_nil _).symm, .rests rfl⟩
  | some link =>
    exact ⟨[.disconnect link], linkUses_append env.events [.disconnect link], .disconnects hlink⟩

theorem moving_close : Moving .close close := by
  intro connection env
  unfold close
  simp only [Action.perform_bind, Action.perform_state, Outcome.andThen_ok]
  cases hlink : connection.link with
  | none => exact ⟨[], (List.append_nil _).symm, .closesNothing hlink⟩
  | some link =>
    exact ⟨[.disconnect link], linkUses_append env.events [.disconnect link], .closes hlink⟩

/-- Every call does with the links what it can do. -/
theorem Call.moving (call : Call) : Moving call call.act := by
  cases call with
  | connect => exact moving_bind moving_connect fun _ => Action.unlinked_pure ()
  | disconnect => exact moving_disconnect
  | execute sql parameters convert =>
    exact moving_bind (moving_execute sql parameters convert) fun _ => Action.unlinked_pure ()
  | close => exact moving_close

end Connection

end OracleCatalog
