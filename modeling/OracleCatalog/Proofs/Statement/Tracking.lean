import OracleCatalog.Proofs.OrderedMap
import OracleCatalog.Proofs.Session.Invariant
import OracleCatalog.Proofs.Success
import OracleCatalog.Statement.Request

/-!
# What a statement shows as bound

A prepared statement keeps the values that it shows as bound, and the statement on the cursor keeps
those that are sent. Whatever holds between the two when nothing is bound, and after each value that
is bound if it held before, holds all the time: no other request changes what is bound.
-/

namespace OracleCatalog

open OracleCatalog.Action (Keeps)

/-! ### Answers of their own -/

namespace Action

variable {σ : Type}

theorem returning_keeps (answer : Value) (action : Action σ Unit) (s : σ) (env : Environment) :
    ((action.returning answer).perform s env).state = (action.perform s env).state ∧
      ((action.returning answer).perform s env).environment =
        (action.perform s env).environment := by
  unfold Action.returning
  rw [Action.perform_bind]
  unfold Outcome.andThen
  cases (action.perform s env).result with
  | ok _ => exact ⟨rfl, rfl⟩
  | error e => exact ⟨rfl, rfl⟩

theorem keeps_returning {I : σ → Prop} {action : Action σ Unit} (h : Keeps I action)
    (answer : Value) : Keeps I (action.returning answer) :=
  keeps_bind h fun _ => keeps_pure _

theorem keeps_of_returning {I : σ → Prop} {action : Action σ Unit} {answer : Value}
    (h : Keeps I (action.returning answer)) : Keeps I action := by
  intro s env hs
  obtain ⟨hstate, -⟩ := returning_keeps answer action s env
  have hreturned := h s env hs
  rw [hstate] at hreturned
  exact hreturned

end Action

/-! ### Placeholders of a kind -/

/-- Every placeholder that the parameters of a call stand for is of a kind. -/
def Value.GivesOnly (P : Value → Prop) (parameters : Value) : Prop :=
  ∀ placements, parameters.placements = .ok placements → OrderedMap.KeysIn P placements

/-- Every placeholder that a request binds to is of a kind. -/
def Request.BindsIn (P : Value → Prop) : Request → Prop
  | .bind parameters _ => parameters.GivesOnly P
  | .bindValue placeholder _ _ => P placeholder
  | .execute parameters => parameters.GivesOnly P
  | _ => True

/-- A request that binds to placeholders of a kind, or executes with such bindings. -/
def Request.BindsOnly (P : Value → Prop) : Request → Prop
  | .bind parameters _ => parameters.GivesOnly P
  | .bindValue placeholder _ _ => P placeholder
  | .execute parameters => parameters.GivesOnly P
  | _ => False

theorem Request.BindsOnly.bindsIn {P : Value → Prop} {request : Request}
    (h : request.BindsOnly P) : request.BindsIn P := by
  cases request with
  | bind parameters types => exact h
  | bindValue placeholder value type => exact h
  | execute parameters => exact h
  | _ => exact h.elim

/-- A relation between the values that are shown as bound and those on the cursor that binding to
placeholders of a kind keeps. -/
structure Tracking (P : Value → Prop) (R : Entries → Bindings → Prop) : Prop where
  start : R [] {}
  step : ∀ {bound bindings placeholder}, R bound bindings → P placeholder → ∀ value,
    ∃ next, bindings.bind placeholder value = .ok next ∧ R (bound.put placeholder value) next
  behind : ∀ {placeholder shifted offset}, P placeholder → placeholder.behind offset = .ok shifted →
    P shifted

theorem Value.eq_of_asKey {v key : Value} (h : v.asKey = .ok key) : key = v := by
  unfold asKey at h
  split at h
  · exact (Except.ok.inj h).symm
  · cases h

/-! ### Bare names -/

/-- A name without leading colons. -/
def bareName (s : String) : String := String.ofList (s.toList.dropWhile (· = ':'))

theorem dropWhile_colon {cs : List Char} (h : cs.head? ≠ some ':') :
    cs.dropWhile (· = ':') = cs := by
  cases cs with
  | nil => rfl
  | cons c cs =>
    refine List.dropWhile_cons_of_neg ?_
    simpa only [List.head?_cons, ne_eq, Option.some.injEq, decide_eq_true_eq] using h

theorem bareName_of_head {s : String} (h : s.toList.head? ≠ some ':') : bareName s = s := by
  rw [bareName, dropWhile_colon h, String.ofList_toList]

theorem Bindings.bind_text (bindings : Bindings) (s : String) (value : Value) :
    bindings.bind (.text s) value =
      .ok { bindings with named := bindings.named.put (.text (bareName s)) value } := rfl

/-! ### The statement on the cursor -/

theorem PlainStatement.bindValue_perform {s : PlainStatement} {placeholder value : Value}
    {next : Bindings} (h : s.bindings.bind placeholder value = .ok next) (env : Environment) :
    (bindValue placeholder value).perform s env =
      { result := .ok (), state := { s with bindings := next }, environment := env } := by
  unfold bindValue
  rw [Action.perform_bind, Action.perform_state, Outcome.andThen_ok, h]
  rfl

theorem PlainStatement.keeps_onCursor {α : Type} (bindings : Bindings) (action : Action Cursor α) :
    Keeps (·.bindings = bindings) (onCursor action) := fun _ _ h => h

theorem PlainStatement.keeps_fetch (bindings : Bindings) (shape : RowShape) :
    Keeps (·.bindings = bindings) (fetch shape) := by
  refine Action.keeps_bind (keeps_onCursor bindings _) fun row => ?_
  cases row with
  | none => exact Action.keeps_pure _
  | some row => exact Action.keeps_state_bind fun _ _ => Action.keeps_pure _

theorem PlainStatement.keeps_fetchAll (bindings : Bindings) (shape : RowShape) :
    Keeps (·.bindings = bindings) (fetchAll shape) :=
  Action.keeps_bind (keeps_onCursor bindings _) fun _ =>
    Action.keeps_state_bind fun _ _ => Action.keeps_pure _

namespace InnerStatement

theorem base_withBase (statement : PlainStatement) (inner : InnerStatement) :
    (inner.withBase statement).base = statement := by
  induction inner with
  | plain _ => rfl
  | buffered inner buffer ih => exact ih

theorem base_emptied (inner : InnerStatement) : inner.emptied.base = inner.base := by
  induction inner with
  | plain _ => rfl
  | buffered inner buffer ih => exact ih

theorem base_unwrapped (inner : InnerStatement) : inner.unwrapped.base = inner.base := by
  cases inner <;> rfl

variable {bindings : Bindings}

theorem keeps_onBase {α : Type} {action : Action PlainStatement α}
    (h : Keeps (·.bindings = bindings) action) :
    Keeps (·.base.bindings = bindings) (onBase action) := by
  refine Action.keeps_within h (fun _ hs => hs) fun s t _ ht => ?_
  rw [base_withBase]
  exact ht

theorem keeps_execute : Keeps (·.base.bindings = bindings) (execute .null) := by
  refine Action.keeps_bind (Action.keeps_change fun s hs => ?_) fun _ =>
    keeps_onBase fun _ _ h => h
  rw [base_emptied]
  exact hs

theorem bindings_closeFrom (inner : InnerStatement) (env : Environment) :
    (closeFrom inner env).state.base.bindings = inner.base.bindings := by
  induction inner with
  | plain _ => rfl
  | buffered inner buffer ih =>
    unfold closeFrom
    split
    · rfl
    · exact ih

theorem bindings_fetchFrom (shape : RowShape) (inner : InnerStatement) (env : Environment) :
    (fetchFrom shape inner env).state.base.bindings = inner.base.bindings := by
  induction inner with
  | plain s => exact PlainStatement.keeps_fetch s.bindings shape s env rfl
  | buffered inner buffer ih =>
    unfold fetchFrom
    split
    · rfl
    · dsimp only
      split
      · exact ih
      · split
        · exact (bindings_closeFrom _ _).trans ih
        · split
          split <;> exact ih

theorem keeps_close : Keeps (·.base.bindings = bindings) close :=
  fun s env hs => (bindings_closeFrom s env).trans hs

theorem keeps_fetch (shape : RowShape) : Keeps (·.base.bindings = bindings) (fetch shape) :=
  fun s env hs => (bindings_fetchFrom shape s env).trans hs

theorem keeps_drain (shape : RowShape) (bound : Nat) :
    Keeps (·.base.bindings = bindings) (drain shape bound) := by
  induction bound with
  | zero => exact Action.keeps_pure _
  | succ bound ih =>
    refine Action.keeps_state_bind fun s _ => ?_
    cases s.isComplete with
    | true => exact Action.keeps_pure _
    | false => exact Action.keeps_bind (keeps_fetch shape) fun _ => ih

theorem keeps_fetchAll (shape : RowShape) :
    Keeps (·.base.bindings = bindings) (fetchAll shape) := by
  refine Action.keeps_state_bind fun s _ => ?_
  cases s with
  | plain _ => exact keeps_onBase (PlainStatement.keeps_fetchAll bindings shape)
  | buffered inner buffer =>
    exact Action.keeps_bind (keeps_drain shape _) fun _ =>
      Action.keeps_state_bind fun _ _ => Action.keeps_pure _

end InnerStatement

namespace PreparedStatement

/-- The relation holds between what is shown as bound and what is bound on the cursor. -/
structure Tracks (R : Entries → Bindings → Prop) (placeholders : Entries) (s : PreparedStatement) :
    Prop where
  placeholders_eq : s.placeholders = placeholders
  related : R s.bound s.inner.base.bindings

variable {P : Value → Prop} {R : Entries → Bindings → Prop} {placeholders : Entries}

/-! ### Requests that do not bind -/

theorem keeps_onInner {α : Type} {action : Action InnerStatement α}
    (h : ∀ bindings, Keeps (·.base.bindings = bindings) action) :
    Keeps (Tracks R placeholders) (onInner action) := by
  rintro s env ⟨hplaceholders, hrelated⟩
  refine ⟨hplaceholders, ?_⟩
  show R s.bound (action.perform s.inner env).state.base.bindings
  rw [h _ s.inner env rfl]
  exact hrelated

theorem keeps_prepareBuffer : Keeps (Tracks R placeholders) prepareBuffer := by
  refine Action.keeps_bind (Action.keeps_change fun s hs => ?_) fun _ =>
    Action.keeps_state_bind fun s _ => ?_
  · unfold released
    split
    · exact ⟨hs.placeholders_eq, (InnerStatement.base_unwrapped s.inner).symm ▸ hs.related⟩
    · exact hs
  · split
    · exact Action.keeps_bind
        (Action.keeps_change fun s hs => ⟨hs.placeholders_eq, hs.related⟩)
        fun _ => Action.keeps_note _ _ _
    · exact Action.keeps_change fun s hs => ⟨hs.placeholders_eq, hs.related⟩

/-! ### Requests that bind -/

theorem renamed_kind {s : PreparedStatement} {placeholder final : Value}
    (finals : ∀ v ∈ OrderedMap.values s.placeholders, P v) (h : P placeholder)
    (hfinal : s.renamed placeholder = .ok final) : P final := by
  obtain ⟨key, hkey, hget⟩ := Error.ok_of_bind hfinal
  obtain rfl := Value.eq_of_asKey hkey
  obtain rfl := Except.ok.inj hget
  cases hget : OrderedMap.get? key s.placeholders with
  | none => exact h
  | some v => exact finals v (OrderedMap.mem_values_of_get? hget)

theorem keeps_bindValue (tracking : Tracking P R)
    (finals : ∀ v ∈ OrderedMap.values placeholders, P v) {placeholder : Value}
    (h : P placeholder) (value type : Value) :
    Keeps (Tracks R placeholders) (bindValue placeholder value type) := by
  refine Action.keeps_state_bind fun s hs => Action.keeps_ofExcept_bind fun final hfinal =>
    Action.keeps_ofExcept_bind fun value _ => Action.keeps_ofExcept_bind fun key hkey => ?_
  obtain rfl := Value.eq_of_asKey hkey
  have hkind : P key := renamed_kind (hs.placeholders_eq.symm ▸ finals) h hfinal
  rintro t env ⟨hplaceholders, hrelated⟩
  obtain ⟨next, hnext, hrelated⟩ := tracking.step hrelated hkind value
  have hbind := PlainStatement.bindValue_perform hnext env
  rw [Action.perform_bind, Action.perform_change, Outcome.andThen_ok]
  refine ⟨hplaceholders, ?_⟩
  show R (t.bound.put key value) (t.inner.withBase
    ((PlainStatement.bindValue key value).perform t.inner.base env).state).base.bindings
  rw [InnerStatement.base_withBase, hbind]
  exact hrelated

theorem keeps_bindEach (tracking : Tracking P R)
    (finals : ∀ v ∈ OrderedMap.values placeholders, P v) (positional : Bool) (types : Value)
    {placements : Entries} (h : OrderedMap.KeysIn P placements) :
    Keeps (Tracks R placeholders) (bindEach positional types placements) := by
  induction placements with
  | nil => exact Action.keeps_pure _
  | cons placement rest ih =>
    obtain ⟨placeholder, value⟩ := placement
    obtain ⟨hplaceholder, hrest⟩ := OrderedMap.keysIn_cons.1 h
    refine Action.keeps_bind (Action.keeps_bind (Action.keeps_ofExcept _) fun type => ?_)
      fun _ => ih hrest
    cases positional with
    | false => exact keeps_bindValue tracking finals hplaceholder value type
    | true =>
      exact Action.keeps_state_bind fun s _ => Action.keeps_ofExcept_bind fun shifted hshifted =>
        keeps_bindValue tracking finals (tracking.behind hplaceholder hshifted) value type

theorem keeps_bind (tracking : Tracking P R)
    (finals : ∀ v ∈ OrderedMap.values placeholders, P v) {parameters : Value}
    (h : parameters.GivesOnly P) (types : Value) :
    Keeps (Tracks R placeholders) (bind parameters types) := by
  unfold bind
  cases parameters.truthy with
  | false => exact Action.keeps_pure _
  | true =>
    refine Action.keeps_ofExcept_bind fun placements hplacements => ?_
    refine Action.keeps_bind (keeps_bindEach tracking finals _ types (h placements hplacements))
      fun _ => ?_
    cases arePositions placements with
    | false => exact Action.keeps_pure _
    | true => exact Action.keeps_change fun s hs => ⟨hs.placeholders_eq, hs.related⟩

theorem keeps_clearBindings (tracking : Tracking P R) :
    Keeps (Tracks R placeholders) clearBindings := by
  rintro s env ⟨hplaceholders, -⟩
  refine ⟨hplaceholders, ?_⟩
  show R [] (s.inner.withBase { s.inner.base with bindings := {} }).base.bindings
  rw [InnerStatement.base_withBase]
  exact tracking.start

theorem keeps_execute (tracking : Tracking P R)
    (finals : ∀ v ∈ OrderedMap.values placeholders, P v) {parameters : Value}
    (h : parameters.GivesOnly P) : Keeps (Tracks R placeholders) (execute parameters) := by
  have hsend : Keeps (Tracks R placeholders) (onInner (InnerStatement.execute .null)) :=
    keeps_onInner fun _ => InnerStatement.keeps_execute
  unfold execute
  refine Action.keeps_bind keeps_prepareBuffer fun _ => ?_
  cases parameters.truthy with
  | false => exact hsend
  | true =>
    exact Action.keeps_bind (keeps_clearBindings tracking) fun _ =>
      Action.keeps_bind (keeps_bind tracking finals h .null) fun _ => hsend

/-! ### Runs -/

theorem keeps_answer (tracking : Tracking P R)
    (finals : ∀ v ∈ OrderedMap.values placeholders, P v) {request : Request}
    (h : request.BindsIn P) : Keeps (Tracks R placeholders) (answer request) := by
  cases request with
  | bind parameters types => exact Action.keeps_returning (keeps_bind tracking finals h types) _
  | bindValue placeholder value type =>
    exact Action.keeps_returning (keeps_bindValue tracking finals h value type) _
  | execute parameters => exact Action.keeps_returning (keeps_execute tracking finals h) _
  | fetch shape =>
    exact Action.keeps_bind (keeps_onInner fun _ => InnerStatement.keeps_fetch shape) fun _ =>
      Action.keeps_ofReading _
  | fetchAll shape =>
    refine Action.keeps_bind (Action.keeps_bind
      (keeps_onInner fun _ => InnerStatement.keeps_fetchAll shape) fun _ =>
        Action.keeps_ofReading _) fun _ => Action.keeps_pure _
  | clearBindings => exact Action.keeps_returning (keeps_clearBindings tracking) _
  | close =>
    exact Action.keeps_returning (keeps_onInner fun _ => InnerStatement.keeps_close) _
  | rowCount => exact Action.keeps_reading _
  | text => exact Action.keeps_reading _
  | bound => exact Action.keeps_reading _
  | buffer wanted =>
    exact Action.keeps_returning
      (Action.keeps_change fun s hs => ⟨hs.placeholders_eq, hs.related⟩) _

end PreparedStatement

/-! ### Logging -/

namespace LoggedStatement

variable {J : PreparedStatement → Prop}

theorem keeps_onStatement {α : Type} {action : Action PreparedStatement α} (h : Keeps J action) :
    Keeps (fun s => J s.statement) (onStatement action) :=
  Action.keeps_within h (fun _ hs => hs) fun _ _ _ ht => ht

theorem keeps_keep (start : Instant) (rows : Value) (failure : Option Error) :
    Keeps (fun s => J s.statement) (keep start rows failure) := by
  refine Action.keeps_bind (Action.keeps_onEnvironment _) fun stop => ?_
  refine Action.keeps_bind (Action.keeps_ofExcept _) fun took => ?_
  refine Action.keeps_state_bind fun s _ => ?_
  refine Action.keeps_bind (Action.keeps_change fun s hs => hs) fun _ => ?_
  exact Action.keeps_bind (Action.keeps_ofNoted _) fun _ => Action.keeps_pure _

theorem keeps_execute {parameters : Value} (h : Keeps J (PreparedStatement.execute parameters)) :
    Keeps (fun s => J s.statement) (execute parameters) := by
  refine Action.keeps_bind (Action.keeps_onEnvironment _) fun start => ?_
  refine Action.keeps_bind (Action.keeps_attempt (keeps_onStatement h)) fun outcome => ?_
  cases outcome with
  | ok _ => exact Action.keeps_state_bind fun s _ => keeps_keep _ _ _
  | error e => exact Action.keeps_bind (keeps_keep _ _ _) fun _ => Action.keeps_throw e

/-- What a prepared statement keeps, it keeps with a log as well. -/
theorem keeps_answer {request : Request} (h : Keeps J (PreparedStatement.answer request)) :
    Keeps (fun s => J s.statement) (answer request) := by
  cases request with
  | execute parameters =>
    exact Action.keeps_returning (keeps_execute (Action.keeps_of_returning h)) _
  | _ => exact keeps_onStatement h

end LoggedStatement

end OracleCatalog
