import OracleCatalog.Proofs.Session.LinkUses
import OracleCatalog.Proofs.Session.Runs

/-!
# Links that are used while they are open

No use of a link is right behind its closing. The driver never closes a link twice. What it closes
is not taken from the connection, however, which goes on with it: so links are respected exactly
when the connection is at rest behind such a closing.
-/

namespace OracleCatalog.Connection

variable {call : Call}

/-! ### One call -/

/-- What is known of the links behind the uses that have been made of them. -/
structure Sound (past : List Event) (links : Links) : Prop where
  closed_lt : ∀ link ∈ closedLinks past, link < links.opened
  held_lt : ∀ link ∈ links.held, link < links.opened
  remembered_lt : ∀ link ∈ links.remembered, link < links.opened
  remembered_open : ∀ link ∈ links.remembered, link ∉ closedLinks past

/-- The connection holds a link that is closed. -/
def Stale (past : List Event) (links : Links) : Prop :=
  ∃ link ∈ closedLinks past, links.held = some link

instance (past : List Event) (links : Links) : Decidable (Stale past links) :=
  inferInstanceAs (Decidable (∃ link ∈ closedLinks past, links.held = some link))

/-- The connection is at rest: it is not closed and opens no cursor. -/
def Idle (call : Call) (events : List Event) : Prop :=
  call.isClose = false ∧ cursorLinks events = []

instance (call : Call) (events : List Event) : Decidable (Idle call events) :=
  inferInstanceAs (Decidable (call.isClose = false ∧ cursorLinks events = []))

variable {links links' : Links} {uses past : List Event}

theorem closedLinks_concat_cursor (past : List Event) (link number : Nat) :
    closedLinks (past ++ [.cursor link number]) = closedLinks past := by
  rw [closedLinks_append]
  exact List.append_nil _

theorem mem_closedLinks_concat {link closing : Nat}
    (h : link ∈ closedLinks (past ++ [.disconnect closing])) :
    link ∈ closedLinks past ∨ link = closing := by
  rw [closedLinks_append] at h
  exact (List.mem_append.1 h).imp_right List.mem_singleton.1

theorem Sound.keeps (hsound : Sound past links) (hmoves : call.Moves links uses links') :
    Sound (past ++ uses) links' := by
  obtain ⟨hclosed, hheld, hremembered, hopen⟩ := hsound
  have hnew : links.opened ∉ closedLinks past := fun h => Nat.lt_irrefl _ (hclosed _ h)
  cases hmoves with
  | rests _ =>
    rw [List.append_nil]
    exact ⟨hclosed, hheld, hremembered, hopen⟩
  | connects _ =>
    rw [List.append_nil]
    refine ⟨fun link h => Nat.lt_succ_of_lt (hclosed link h),
      fun link h => Nat.lt_succ_of_lt (hheld link h), ?_, ?_⟩
    · rintro link ⟨⟩
      exact Nat.lt_succ_self _
    · rintro link ⟨⟩
      exact hnew
  | @disconnects _ closing hlink =>
    refine ⟨fun link h => ?_, hheld, nofun, nofun⟩
    obtain h | rfl := mem_closedLinks_concat h
    · exact hclosed link h
    · exact hremembered link hlink
  | holds _ _ huses =>
    have hpast : closedLinks (past ++ uses) = closedLinks past := by
      obtain rfl | ⟨number, rfl⟩ := huses
      · rw [List.append_nil]
      · exact closedLinks_concat_cursor past _ number
    refine ⟨fun link h => Nat.lt_succ_of_lt (hclosed link (hpast ▸ h)), ?_, ?_, ?_⟩
    · rintro link ⟨⟩
      exact Nat.lt_succ_self _
    · rintro link ⟨⟩
      exact Nat.lt_succ_self _
    · rintro link ⟨⟩ h
      exact hnew (hpast ▸ h)
  | uses _ _ =>
    have hpast := closedLinks_concat_cursor past
    exact ⟨fun link h => hclosed link (hpast _ _ ▸ h), hheld, hremembered,
      fun link h h' => hopen link h (hpast _ _ ▸ h')⟩
  | @closes _ closing hlink =>
    refine ⟨fun link h => ?_, nofun, nofun, nofun⟩
    obtain h | rfl := mem_closedLinks_concat h
    · exact hclosed link h
    · exact hheld link hlink
  | closesNothing _ =>
    rw [List.append_nil]
    exact ⟨hclosed, nofun, nofun, nofun⟩

theorem not_stale_of_none (h : links.held = none) : ¬ Stale past links := by
  rintro ⟨link, -, hheld⟩
  rw [h] at hheld
  cases hheld

/-- A call respects the links when the connection is at rest while its link is closed. -/
theorem Sound.respects (hsound : Sound past links) (hmoves : call.Moves links uses links') :
    LinksRespected (past ++ uses) ↔ LinksRespected past ∧ (Stale past links → Idle call uses) := by
  obtain ⟨hclosed, hheld, hremembered, hopen⟩ := hsound
  have hnew : links.opened ∉ closedLinks past := fun h => Nat.lt_irrefl _ (hclosed _ h)
  cases hmoves with
  | rests hcall =>
    rw [List.append_nil]
    exact (and_iff_left fun _ => ⟨hcall, rfl⟩).symm
  | connects hcall =>
    rw [List.append_nil]
    exact (and_iff_left fun _ => ⟨hcall, rfl⟩).symm
  | @disconnects _ closing hlink =>
    rw [linksRespected_concat]
    refine and_congr_right fun _ => iff_of_true ?_ fun _ => ⟨rfl, rfl⟩
    rintro link h ⟨⟩
    exact hopen _ hlink h
  | holds hcall hlink huses =>
    have hstale : ¬ Stale past links := not_stale_of_none hlink
    obtain rfl | ⟨number, rfl⟩ := huses
    · rw [List.append_nil]
      exact (and_iff_left fun h => (hstale h).elim).symm
    · rw [linksRespected_concat]
      refine and_congr_right fun _ => iff_of_true ?_ fun h => (hstale h).elim
      rintro link h ⟨⟩
      exact hnew h
  | @uses _ _ held number hcall hlink =>
    rw [linksRespected_concat]
    refine and_congr_right fun _ => ⟨?_, ?_⟩
    · rintro h ⟨link, hclosing, hheld⟩
      exact (h link hclosing (hlink.symm.trans hheld)).elim
    · rintro h link hclosing ⟨⟩
      exact List.cons_ne_nil _ _ (h ⟨held, hclosing, hlink⟩).2
  | @closes _ closing hlink =>
    rw [linksRespected_concat]
    refine and_congr_right fun _ => ⟨?_, ?_⟩
    · rintro h ⟨link, hclosing, hheld⟩
      exact (h link hclosing (hlink.symm.trans hheld)).elim
    · rintro h link hclosing ⟨⟩
      cases (h ⟨closing, hclosing, hlink⟩).1
  | closesNothing hlink =>
    rw [List.append_nil]
    exact (and_iff_left fun h => (not_stale_of_none hlink h).elim).symm

theorem stale_append : Stale (past ++ uses) links ↔ Stale past links ∨ Stale uses links := by
  unfold Stale
  rw [closedLinks_append]
  simp only [List.mem_append, or_and_right, exists_or]

/-- A call at rest makes up for nothing. -/
theorem Sound.stale_iff (hsound : Sound past links) (hmoves : call.Moves links uses links')
    (hidle : Stale past links → Idle call uses) : Stale past links' ↔ Stale past links := by
  cases hmoves with
  | rests _ => exact Iff.rfl
  | connects _ => exact Iff.rfl
  | disconnects _ => exact Iff.rfl
  | holds _ hlink _ =>
    refine iff_of_false ?_ (not_stale_of_none hlink)
    rintro ⟨link, hclosing, ⟨⟩⟩
    exact Nat.lt_irrefl _ (hsound.closed_lt _ hclosing)
  | uses _ _ => exact Iff.rfl
  | closes _ =>
    refine iff_of_false (not_stale_of_none rfl) fun h => ?_
    cases (hidle h).1
  | closesNothing hlink =>
    exact iff_of_false (not_stale_of_none rfl) (not_stale_of_none hlink)

/-- Only the driver closes a link that the connection goes on holding. -/
theorem eq_disconnect_of_stale (hmoves : call.Moves links uses links') (h : Stale uses links') :
    call = .disconnect := by
  obtain ⟨link, hclosing, hheld⟩ := h
  cases hmoves with
  | rests _ => cases hclosing
  | connects _ => cases hclosing
  | disconnects _ => rfl
  | holds _ _ huses => obtain rfl | ⟨number, rfl⟩ := huses <;> cases hclosing
  | uses _ _ => cases hclosing
  | closes _ => cases hheld
  | closesNothing _ => cases hclosing

/-! ### Runs -/

/-- Links that are known have been opened, and none of them has been closed. -/
structure Fresh (connection : Connection) (env : Environment) : Prop where
  held_lt : ∀ link ∈ connection.link, link < env.links
  remembered_lt : ∀ link ∈ connection.driver.link, link < env.links

theorem Fresh.sound {connection : Connection} {env : Environment} (h : Fresh connection env) :
    Sound [] (connection.links env) where
  closed_lt := nofun
  held_lt := h.held_lt
  remembered_lt := h.remembered_lt
  remembered_open := fun _ _ => nofun

def Call.history (calls : List Call) (connection : Connection) (env : Environment) :
    Action.History Call Connection Unit :=
  Action.history act calls connection env

/-- The events of a run in their order. -/
def eventsOf (history : Action.History Call Connection Unit) : List Event :=
  history.flatMap fun item => item.2.environment.events

/-- The outcome closes the link that the connection goes on holding. -/
def Severs (o : Outcome Connection Unit) : Prop :=
  Stale o.environment.events (o.state.links o.environment)

instance (o : Outcome Connection Unit) : Decidable (Severs o) :=
  inferInstanceAs (Decidable (Stale _ _))

/-- Once its link is severed, the connection is at rest. -/
def RestsWhenSevered (history : Action.History Call Connection Unit) : Prop :=
  history.Pairwise fun item later =>
    Severs item.2 → Idle later.1 later.2.environment.events

instance (history : Action.History Call Connection Unit) : Decidable (RestsWhenSevered history) :=
  inferInstanceAs (Decidable (history.Pairwise _))

theorem restsWhenSevered_cons (item : Call × Outcome Connection Unit)
    (later : Action.History Call Connection Unit) :
    RestsWhenSevered (item :: later) ↔
      (Severs item.2 → ∀ item' ∈ later, Idle item'.1 item'.2.environment.events) ∧
        RestsWhenSevered later := by
  unfold RestsWhenSevered
  rw [List.pairwise_cons]
  exact and_congr_left' ⟨fun h hsevers item' hitem => h item' hitem hsevers,
    fun h item' hitem hsevers => h hsevers item' hitem⟩

theorem severs_linkUses (o : Outcome Connection Unit) :
    Stale (linkUses o.environment.events) (o.state.links o.environment) ↔ Severs o := by
  unfold Severs Stale
  rw [closedLinks_linkUses]

theorem idle_linkUses (call : Call) (events : List Event) :
    Idle call (linkUses events) ↔ Idle call events := by
  unfold Idle
  rw [cursorLinks_linkUses]

theorem eq_disconnect_of_severs (calls : List Call) (connection : Connection) (env : Environment) :
    ∀ item ∈ Call.history calls connection env, Severs item.2 → item.1 = .disconnect := by
  induction calls generalizing connection env with
  | nil => exact fun _ => nofun
  | cons call rest ih =>
    refine List.forall_mem_cons.2 ⟨fun hsevers => ?_, ih _ _⟩
    obtain ⟨uses, huses, hmoves⟩ := call.moving connection env.nextStep
    rw [← severs_linkUses, huses] at hsevers
    exact eq_disconnect_of_stale hmoves hsevers

/-- Uses of links from where the connection's link may be closed already: then none of the calls may
use it. -/
theorem respects_run (calls : List Call) {past : List Event} {connection : Connection}
    {env : Environment} (hsound : Sound past (connection.links env)) :
    LinksRespected (past ++ linkUses (eventsOf (Call.history calls connection env))) ↔
      LinksRespected past ∧
        (Stale past (connection.links env) →
          ∀ item ∈ Call.history calls connection env, Idle item.1 item.2.environment.events) ∧
        RestsWhenSevered (Call.history calls connection env) := by
  induction calls generalizing past connection env with
  | nil =>
    show LinksRespected (past ++ []) ↔ _
    rw [List.append_nil]
    exact (and_iff_left ⟨fun _ _ => nofun, List.Pairwise.nil⟩).symm
  | cons call rest ih =>
    let o := call.act.perform connection env.nextStep
    let later := Call.history rest o.state o.environment
    obtain ⟨uses, huses, hmoves⟩ := call.moving connection env.nextStep
    obtain rfl : linkUses o.environment.events = uses := huses
    have hevents : past ++ linkUses (eventsOf ((call, o) :: later)) =
        past ++ linkUses o.environment.events ++ linkUses (eventsOf later) := by
      rw [List.append_assoc, ← linkUses_append]
      rfl
    have hrespects := hsound.respects hmoves
    have hstale := hsound.stale_iff hmoves
    have hrest := ih (hsound.keeps hmoves)
    rw [idle_linkUses] at hrespects hstale
    rw [stale_append, severs_linkUses] at hrest
    show LinksRespected (past ++ linkUses (eventsOf ((call, o) :: later))) ↔
      LinksRespected past ∧
        (Stale past (connection.links env) →
          ∀ item ∈ (call, o) :: later, Idle item.1 item.2.environment.events) ∧
        RestsWhenSevered ((call, o) :: later)
    rw [hevents, hrest, hrespects, List.forall_mem_cons, restsWhenSevered_cons]
    constructor
    · rintro ⟨⟨hpast, hidle⟩, hrests, hpairs⟩
      refine ⟨hpast, fun h => ⟨hidle h, hrests (.inl ((hstale hidle).2 h))⟩, ?_, hpairs⟩
      exact fun h => hrests (.inr h)
    · rintro ⟨hpast, hidle, hrests, hpairs⟩
      have hcall : Stale past (connection.links env) → Idle call o.environment.events :=
        fun h => (hidle h).1
      refine ⟨⟨hpast, hcall⟩, ?_, hpairs⟩
      rintro (h | h)
      · exact (hidle ((hstale hcall).1 h)).2
      · exact hrests h

def readySettings : Settings := { user := .text "scott", dsn := .text "db" }

def readyConnection : Connection := { driver := { dialect := { settings := readySettings } } }

def query : Call := .execute (.text "SELECT 1 FROM dual") .null false

/-- As long as the driver is not told to disconnect, links are respected. -/
theorem links_respected_without_disconnecting {calls : List Call} {connection : Connection}
    {env : Environment} (hfresh : Fresh connection env)
    (hcalls : ∀ call ∈ calls, call ≠ .disconnect) :
    LinksRespected (eventsOf (Call.history calls connection env)) := by
  have hrun := respects_run calls hfresh.sound
  rw [List.nil_append, linksRespected_linkUses] at hrun
  refine hrun.2 ⟨List.Pairwise.nil, ?_, ?_⟩
  · rintro ⟨link, ⟨⟩, -⟩
  · refine List.Pairwise.imp_of_mem ?_ (List.pairwise_of_forall fun _ _ => trivial)
    intro item _ hitem _ _ hsevers
    have hcall : item.1 ∈ calls := (List.of_mem_zip hitem).1
    exact (hcalls _ hcall (eq_disconnect_of_severs calls connection env item hitem hsevers)).elim

end OracleCatalog.Connection
