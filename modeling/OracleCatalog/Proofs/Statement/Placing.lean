import OracleCatalog.Proofs.Statement.Tracking

/-!
# What a call binds

A call binds its values one after the other. Where a value is placed and what becomes of it depend
on the statement only through its offset and the placeholders that stand for others. So a call binds
all its values, or those in front of the first one that cannot be placed or that the cursor refuses.
-/

namespace OracleCatalog

namespace InnerStatement

theorem withBase_base (inner : InnerStatement) : inner.withBase inner.base = inner := by
  induction inner with
  | plain _ => rfl
  | buffered inner buffer ih => exact congrArg (buffered · buffer) ih

theorem withBase_withBase (s t : PlainStatement) (inner : InnerStatement) :
    (inner.withBase s).withBase t = inner.withBase t := by
  induction inner with
  | plain _ => rfl
  | buffered inner buffer ih => exact congrArg (buffered · buffer) ih

end InnerStatement

/-! ### Several values on the cursor -/

/-- The bindings once these values have been bound one after the other. -/
def Bindings.bindAll (bindings : Bindings) (values : Entries) : Except Error Bindings :=
  values.foldlM (fun bindings value => bindings.bind value.1 value.2) bindings

namespace Bindings

theorem bindAll_cons {bindings next : Bindings} {value : Value × Value}
    (h : bindings.bind value.1 value.2 = .ok next) (rest : Entries) :
    bindings.bindAll (value :: rest) = next.bindAll rest := by
  unfold bindAll
  rw [List.foldlM_cons, h]
  rfl

theorem exists_of_bindAll_cons {bindings last : Bindings} {value : Value × Value} {rest : Entries}
    (h : bindings.bindAll (value :: rest) = .ok last) :
    ∃ next, bindings.bind value.1 value.2 = .ok next ∧ next.bindAll rest = .ok last := by
  unfold bindAll at h
  rw [List.foldlM_cons] at h
  exact Error.ok_of_bind h

end Bindings

namespace PreparedStatement

variable {positional : Bool} {types : Value} {s : PreparedStatement} {env : Environment}

/-! ### One value -/

/-- A value as it is bound to a placeholder, behind the placeholder that stands for this one. -/
def placedUnder (s : PreparedStatement) (placeholder value type : Value) :
    Except Error (Value × Value) := do
  let placeholder ← s.renamed placeholder
  let value ← typed type value
  return (← placeholder.asKey, value)

/-- A value of a call as it is bound, behind its place. -/
def placed (s : PreparedStatement) (positional : Bool) (types : Value) (placement : Value × Value) :
    Except Error (Value × Value) := do
  let type ← typeFor types placement.1
  if positional then s.placedUnder (← placement.1.behind s.offset) placement.2 type
  else s.placedUnder placement.1 placement.2 type

/-- Shows a value as bound and binds it on the cursor. -/
def write (value : Value × Value) : Action PreparedStatement Unit := do
  Action.change fun s => { s with bound := s.bound.put value.1 value.2 }
  onInner (InnerStatement.onBase (PlainStatement.bindValue value.1 value.2))

/-- The statement with these values shown as bound and these bindings on the cursor. -/
def holding (s : PreparedStatement) (values : Entries) (bindings : Bindings) : PreparedStatement :=
  { s with
    bound := s.bound.update values
    inner := s.inner.withBase { s.inner.base with bindings } }

theorem bindings_holding (s : PreparedStatement) (values : Entries) (bindings : Bindings) :
    (s.holding values bindings).inner.base.bindings = bindings := by
  unfold holding
  rw [InnerStatement.base_withBase]

theorem holding_nil (s : PreparedStatement) : s.holding [] s.inner.base.bindings = s := by
  have hinner : s.inner.withBase { s.inner.base with bindings := s.inner.base.bindings } =
      s.inner := InnerStatement.withBase_base s.inner
  unfold holding
  rw [hinner]
  rfl

theorem holding_holding (s : PreparedStatement) (value : Value × Value) (rest : Entries)
    (first bindings : Bindings) :
    (s.holding [value] first).holding rest bindings = s.holding (value :: rest) bindings := by
  unfold holding
  rw [InnerStatement.base_withBase, InnerStatement.withBase_withBase]
  rfl

theorem write_perform {value : Value × Value} {bindings : Bindings}
    (h : s.inner.base.bindings.bind value.1 value.2 = .ok bindings) :
    (write value).perform s env =
      { result := .ok (), state := s.holding [value] bindings, environment := env } := by
  have hbase := PlainStatement.bindValue_perform h env
  unfold write onInner InnerStatement.onBase
  rw [Action.perform_bind, Action.perform_change, Outcome.andThen_ok, Action.perform_within,
    Action.perform_within, hbase]
  rfl

/-- A value that the cursor refuses is shown as bound all the same. -/
theorem write_perform_refused {value : Value × Value} {e : Error}
    (h : s.inner.base.bindings.bind value.1 value.2 = .error e) :
    (write value).perform s env =
      { result := .error e
        state := s.holding [value] s.inner.base.bindings
        environment := env } := by
  have hbase : (PlainStatement.bindValue value.1 value.2).perform s.inner.base env =
      { result := .error e, state := s.inner.base, environment := env } := by
    unfold PlainStatement.bindValue
    rw [Action.perform_bind, Action.perform_state, Outcome.andThen_ok, h]
    rfl
  unfold write onInner InnerStatement.onBase
  rw [Action.perform_bind, Action.perform_change, Outcome.andThen_ok, Action.perform_within,
    Action.perform_within, hbase]
  rfl

theorem bindValue_perform (s : PreparedStatement) (placeholder value type : Value)
    (env : Environment) :
    (bindValue placeholder value type).perform s env =
      Outcome.andThen
        { result := s.placedUnder placeholder value type, state := s, environment := env }
        write := by
  unfold bindValue placedUnder
  rw [Action.perform_bind, Action.perform_state, Outcome.andThen_ok, Action.perform_bind,
    Action.perform_ofExcept]
  cases s.renamed placeholder with
  | error e => rfl
  | ok renamed =>
    rw [Outcome.andThen_ok, Action.perform_bind, Action.perform_ofExcept, Error.ok_bind]
    cases typed type value with
    | error e => rfl
    | ok value =>
      rw [Outcome.andThen_ok, Action.perform_bind, Action.perform_ofExcept, Error.ok_bind]
      cases renamed.asKey with
      | error e => rfl
      | ok key => rfl

/-! ### Several values -/

/-- A call goes on with its other values once the first one has been written. -/
theorem bindEach_cons_perform (s : PreparedStatement) (placement : Value × Value) (rest : Entries)
    (env : Environment) :
    (bindEach positional types (placement :: rest)).perform s env =
      Outcome.andThen
        { result := s.placed positional types placement, state := s, environment := env }
        fun value => write value >>= fun _ => bindEach positional types rest := by
  obtain ⟨placeholder, value⟩ := placement
  unfold placed
  show ((do
    let type ← Action.ofExcept (typeFor types placeholder)
    if positional then
      let offset := (← Action.state).offset
      bindValue (← Action.ofExcept (placeholder.behind offset)) value type
    else bindValue placeholder value type) >>= fun _ =>
      bindEach positional types rest : Action PreparedStatement Unit).perform s env = _
  rw [Action.perform_bind, Action.perform_bind, Action.perform_ofExcept]
  cases typeFor types placeholder with
  | error e => rfl
  | ok type =>
    rw [Outcome.andThen_ok, Error.ok_bind]
    cases positional with
    | false =>
      rw [if_neg Bool.false_ne_true, if_neg Bool.false_ne_true, bindValue_perform]
      cases s.placedUnder placeholder value type with
      | error e => rfl
      | ok placed => rw [Outcome.andThen_ok, Outcome.andThen_ok, Action.perform_bind]
    | true =>
      rw [if_pos rfl, if_pos rfl, Action.perform_bind, Action.perform_state, Outcome.andThen_ok,
        Action.perform_bind, Action.perform_ofExcept]
      cases placeholder.behind s.offset with
      | error e => rfl
      | ok shifted =>
        rw [Outcome.andThen_ok, bindValue_perform, Error.ok_bind]
        cases s.placedUnder shifted value type with
        | error e => rfl
        | ok placed => rw [Outcome.andThen_ok, Outcome.andThen_ok, Action.perform_bind]

/-- Where a call stops: the values in front are bound, and the next one has no final placeholder or
the cursor refuses it. -/
inductive Stops (s : PreparedStatement) (positional : Bool) (types : Value) (placements : Entries)
    (front : Entries) (bindings : Bindings) (e : Error) : Option (Value × Value) → Prop where
  | unplaced {before after : Entries} {failing : Value × Value}
      (split : placements = before ++ failing :: after)
      (front_eq : before.mapM (s.placed positional types) = .ok front)
      (bound : s.inner.base.bindings.bindAll front = .ok bindings)
      (fails : s.placed positional types failing = .error e) :
      Stops s positional types placements front bindings e none
  | refused {before after : Entries} {failing value : Value × Value}
      (split : placements = before ++ failing :: after)
      (front_eq : before.mapM (s.placed positional types) = .ok front)
      (bound : s.inner.base.bindings.bindAll front = .ok bindings)
      (placed : s.placed positional types failing = .ok value)
      (fails : bindings.bind value.1 value.2 = .error e) :
      Stops s positional types placements front bindings e (some value)

/-- What is bound already does not matter for where a call goes on. -/
theorem Stops.cons {placement value : Value × Value} {rest front : Entries}
    {next bindings : Bindings} {e : Error} {refused : Option (Value × Value)}
    (h : s.placed positional types placement = .ok value)
    (hnext : s.inner.base.bindings.bind value.1 value.2 = .ok next)
    (hrest : Stops (s.holding [value] next) positional types rest front bindings e refused) :
    Stops s positional types (placement :: rest) (value :: front) bindings e refused := by
  have hbound : ∀ {front : Entries} {bindings : Bindings},
      (s.holding [value] next).inner.base.bindings.bindAll front = .ok bindings →
        s.inner.base.bindings.bindAll (value :: front) = .ok bindings := by
    intro front bindings hbound
    rw [bindings_holding] at hbound
    rw [Bindings.bindAll_cons hnext, hbound]
  cases hrest with
  | unplaced split front_eq bound fails =>
    exact .unplaced (congrArg (placement :: ·) split) (Error.mapM_cons_ok h front_eq) (hbound bound)
      fails
  | refused split front_eq bound placed fails =>
    exact .refused (congrArg (placement :: ·) split) (Error.mapM_cons_ok h front_eq) (hbound bound)
      placed fails

/-- Values that can be placed and that the cursor takes are all bound. -/
theorem bindEach_perform {placements values : Entries} {bindings : Bindings}
    (hvalues : placements.mapM (s.placed positional types) = .ok values)
    (hbound : s.inner.base.bindings.bindAll values = .ok bindings) (env : Environment) :
    (bindEach positional types placements).perform s env =
      { result := .ok (), state := s.holding values bindings, environment := env } := by
  induction placements generalizing s values with
  | nil =>
    obtain rfl := Except.ok.inj hvalues
    obtain rfl := Except.ok.inj hbound
    exact congrArg (Outcome.mk _ · env) s.holding_nil.symm
  | cons placement rest ih =>
    obtain ⟨value, others, hplaced, hothers, rfl⟩ := Error.ok_of_mapM_cons hvalues
    obtain ⟨next, hnext, hbound⟩ := Bindings.exists_of_bindAll_cons hbound
    have hrest : (s.holding [value] next).inner.base.bindings.bindAll others = .ok bindings := by
      rw [bindings_holding, hbound]
    rw [bindEach_cons_perform, hplaced, Outcome.andThen_ok, Action.perform_bind,
      write_perform hnext, Outcome.andThen_ok, ih (s := s.holding [value] next) hothers hrest,
      holding_holding]

/-- All values of a call can be bound, or it fails and has bound those in front of one of them. -/
theorem bindEach_cases (s : PreparedStatement) (positional : Bool) (types : Value)
    (placements : Entries) (env : Environment) :
    (∃ values bindings, placements.mapM (s.placed positional types) = .ok values ∧
      s.inner.base.bindings.bindAll values = .ok bindings) ∨
    ∃ front bindings e refused, Stops s positional types placements front bindings e refused ∧
      (bindEach positional types placements).perform s env =
        { result := .error e
          state := s.holding (front ++ refused.toList) bindings
          environment := env } := by
  induction placements generalizing s with
  | nil => exact .inl ⟨[], _, rfl, rfl⟩
  | cons placement rest ih =>
    rw [bindEach_cons_perform]
    cases hplaced : s.placed positional types placement with
    | error e =>
      refine .inr ⟨[], _, e, none, .unplaced (List.nil_append _).symm rfl rfl hplaced, ?_⟩
      exact congrArg (Outcome.mk _ · env) s.holding_nil.symm
    | ok value =>
      rw [Outcome.andThen_ok, Action.perform_bind]
      cases hbind : s.inner.base.bindings.bind value.1 value.2 with
      | error e =>
        rw [write_perform_refused hbind]
        exact .inr ⟨[], _, e, some value,
          .refused (List.nil_append _).symm rfl rfl hplaced hbind, rfl⟩
      | ok next =>
        rw [write_perform hbind, Outcome.andThen_ok]
        obtain ⟨values, bindings, hvalues, hbound⟩ |
          ⟨front, bindings, e, refused, hstops, hperform⟩ := ih (s.holding [value] next)
        · rw [bindings_holding] at hbound
          refine .inl ⟨value :: values, bindings, Error.mapM_cons_ok hplaced hvalues, ?_⟩
          rw [Bindings.bindAll_cons hbind, hbound]
        · rw [holding_holding] at hperform
          exact .inr ⟨value :: front, bindings, e, refused, hstops.cons hplaced hbind, hperform⟩

/-! ### A call -/

theorem bind_perform_of_not_truthy {parameters : Value} (h : parameters.truthy = false)
    (types : Value) (s : PreparedStatement) (env : Environment) :
    (bind parameters types).perform s env =
      { result := .ok (), state := s, environment := env } := by
  unfold bind
  rw [h]
  rfl

theorem bind_perform {parameters : Value} {placements : Entries}
    (htruthy : parameters.truthy = true) (hplacements : parameters.placements = .ok placements)
    (types : Value) (s : PreparedStatement) (env : Environment) :
    (bind parameters types).perform s env =
      ((bindEach (arePositions placements) types placements).perform s env).andThen fun _ =>
        if arePositions placements then
          Action.change fun s => { s with offset := s.offset + placements.length }
        else pure () := by
  unfold bind
  rw [htruthy, hplacements, Bool.not_true, if_neg Bool.false_ne_true, Action.perform_bind,
    Action.perform_ofExcept, Outcome.andThen_ok]
  exact Action.perform_bind _ _ _ _

/-- Positions that can be placed and that the cursor takes are all bound, and the next call goes on
behind as many of them as there are. -/
theorem bind_perform_positions {parameters : Value} {placements values : Entries}
    {bindings : Bindings} (htruthy : parameters.truthy = true)
    (hplacements : parameters.placements = .ok placements)
    (hpositions : arePositions placements = true)
    (hvalues : placements.mapM (s.placed true types) = .ok values)
    (hbound : s.inner.base.bindings.bindAll values = .ok bindings) (env : Environment) :
    (bind parameters types).perform s env =
      { result := .ok ()
        state := { s.holding values bindings with offset := s.offset + placements.length }
        environment := env } := by
  rw [bind_perform htruthy hplacements, hpositions, bindEach_perform hvalues hbound]
  rfl

/-- Names that can be placed and that the cursor takes are all bound. -/
theorem bind_perform_names {parameters : Value} {placements values : Entries}
    {bindings : Bindings} (htruthy : parameters.truthy = true)
    (hplacements : parameters.placements = .ok placements)
    (hnames : arePositions placements = false)
    (hvalues : placements.mapM (s.placed false types) = .ok values)
    (hbound : s.inner.base.bindings.bindAll values = .ok bindings) (env : Environment) :
    (bind parameters types).perform s env =
      { result := .ok (), state := s.holding values bindings, environment := env } := by
  rw [bind_perform htruthy hplacements, hnames, bindEach_perform hvalues hbound]
  rfl

end PreparedStatement

end OracleCatalog
