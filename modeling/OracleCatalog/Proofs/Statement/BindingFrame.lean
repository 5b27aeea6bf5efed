import OracleCatalog.Proofs.Session.Invariant
import OracleCatalog.Proofs.Statement.Bindings

/-!
# What binding leaves alone

Binding changes what is bound and nothing else. It asks nothing of the database, and a property that
does not look at what is bound holds after it if it held before.
-/

namespace OracleCatalog

open OracleCatalog.Action (Keeps Quiet)

theorem PlainStatement.exists_bindings_of_bindValue (placeholder value : Value)
    (s : PlainStatement) (env : Environment) :
    ∃ bindings, ((bindValue placeholder value).perform s env).state = { s with bindings } := by
  cases hbind : s.bindings.bind placeholder value with
  | ok bindings => exact ⟨bindings, congrArg (·.state) (bindValue_perform hbind env)⟩
  | error e =>
    refine ⟨s.bindings, ?_⟩
    unfold bindValue
    rw [Action.perform_bind, Action.perform_state, Outcome.andThen_ok, hbind]
    rfl

theorem PlainStatement.quiet_bindValue (placeholder value : Value) :
    Quiet (bindValue placeholder value) :=
  Action.quiet_bind Action.quiet_state fun _ =>
    Action.quiet_bind (Action.quiet_ofExcept _) fun _ => Action.quiet_change _

namespace PreparedStatement

/-! ### Everything that binds -/

/-- A property of actions that the parts of binding have and that goes over to longer actions. -/
structure BindingRules (K : {α : Type} → Action PreparedStatement α → Prop) : Prop where
  pure : K (pure ())
  state : K Action.state
  ofExcept : ∀ {α : Type} (outcome : Except Error α), K (Action.ofExcept outcome)
  bind : ∀ {α β : Type} {action : Action PreparedStatement α}
    {next : α → Action PreparedStatement β}, K action → (∀ a, K (next a)) → K (action >>= next)
  shown : ∀ (bound : PreparedStatement → Entries) (offset : PreparedStatement → Nat),
    K (Action.change fun s => { s with bound := bound s, offset := offset s })
  bindBase : ∀ placeholder value,
    K (onInner (InnerStatement.onBase (PlainStatement.bindValue placeholder value)))
  clearBase : K (onInner (InnerStatement.onBase PlainStatement.clearBindings))

namespace BindingRules

variable {K : {α : Type} → Action PreparedStatement α → Prop}

theorem bindValue (rules : BindingRules K) (placeholder value type : Value) :
    K (bindValue placeholder value type) := by
  refine rules.bind rules.state fun s => ?_
  refine rules.bind (rules.ofExcept _) fun final => ?_
  refine rules.bind (rules.ofExcept _) fun value => ?_
  refine rules.bind (rules.ofExcept _) fun key => ?_
  exact rules.bind (rules.shown (fun s => s.bound.put key value) fun s => s.offset) fun _ =>
    rules.bindBase key value

theorem bindEach (rules : BindingRules K) (positional : Bool) (types : Value)
    (placements : Entries) : K (bindEach positional types placements) := by
  induction placements with
  | nil => exact rules.pure
  | cons placement rest ih =>
    obtain ⟨placeholder, value⟩ := placement
    refine rules.bind (rules.bind (rules.ofExcept _) fun type => ?_) fun _ => ih
    cases positional with
    | false => exact rules.bindValue placeholder value type
    | true =>
      refine rules.bind rules.state fun s => ?_
      exact rules.bind (rules.ofExcept _) fun shifted => rules.bindValue shifted value type

theorem bindAll (rules : BindingRules K) (parameters types : Value) :
    K (PreparedStatement.bind parameters types) := by
  unfold PreparedStatement.bind
  cases parameters.truthy with
  | false => exact rules.pure
  | true =>
    refine rules.bind (rules.ofExcept _) fun placements => ?_
    refine rules.bind (rules.bindEach _ types placements) fun _ => ?_
    cases arePositions placements with
    | false => exact rules.pure
    | true => exact rules.shown (·.bound) fun s => s.offset + placements.length

theorem clearBindings (rules : BindingRules K) : K clearBindings :=
  rules.bind (rules.shown (fun _ => []) fun _ => 0) fun _ => rules.clearBase

theorem rebind (rules : BindingRules K) (parameters : Value) : K (rebind parameters) := by
  unfold PreparedStatement.rebind
  cases parameters.truthy with
  | false => exact rules.pure
  | true => exact rules.bind rules.clearBindings fun _ => rules.bindAll parameters .null

/-- Executing is binding between what comes before and after it. -/
theorem execute (rules : BindingRules K) (prepare : K prepareBuffer)
    (send : K (onInner (InnerStatement.execute .null))) (parameters : Value) :
    K (execute parameters) := by
  refine rules.bind prepare fun _ => ?_
  cases parameters.truthy with
  | false => exact send
  | true =>
    refine rules.bind rules.clearBindings fun _ => ?_
    exact rules.bind (rules.bindAll parameters .null) fun _ => send

end BindingRules

/-- Binding asks nothing of the database. -/
theorem quiet_binding : BindingRules Quiet where
  pure := Action.quiet_pure ()
  state := Action.quiet_state
  ofExcept := Action.quiet_ofExcept
  bind := Action.quiet_bind
  shown := fun _ _ => Action.quiet_change _
  bindBase := fun placeholder value =>
    Action.quiet_within (Action.quiet_within (PlainStatement.quiet_bindValue placeholder value))
  clearBase := Action.quiet_within (Action.quiet_within (Action.quiet_change _))

/-- A property of prepared statements that does not look at what is bound. -/
structure IgnoresBindings (I : PreparedStatement → Prop) : Prop where
  shown : ∀ {s}, I s → ∀ bound offset, I { s with bound, offset }
  sent : ∀ {s}, I s → ∀ bindings,
    I { s with inner := s.inner.withBase { s.inner.base with bindings } }

theorem IgnoresBindings.binding {I : PreparedStatement → Prop} (ignores : IgnoresBindings I) :
    BindingRules (Keeps I) where
  pure := Action.keeps_pure ()
  state := fun _ _ hs => hs
  ofExcept := Action.keeps_ofExcept
  bind := Action.keeps_bind
  shown := fun bound offset => Action.keeps_change fun s hs => ignores.shown hs (bound s) (offset s)
  bindBase := by
    intro placeholder value s env hs
    obtain ⟨bindings, hbound⟩ :=
      PlainStatement.exists_bindings_of_bindValue placeholder value s.inner.base env
    have hsent := ignores.sent hs bindings
    rw [← hbound] at hsent
    exact hsent
  clearBase := fun _ _ hs => ignores.sent hs {}

/-! ### Preparing the buffer -/

theorem quiet_prepareBuffer : Quiet prepareBuffer := by
  refine Action.quiet_bind (Action.quiet_change _) fun _ => ?_
  refine Action.quiet_bind Action.quiet_state fun s => ?_
  split
  · exact Action.quiet_bind (Action.quiet_change _) fun _ => Action.quiet_note _ _ _
  · exact Action.quiet_change _

end PreparedStatement

end OracleCatalog
