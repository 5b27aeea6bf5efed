import OracleCatalog.Session.Environment

/-!
# Actions

An action changes a state of its own and the environment, and it may fail. A failing action keeps
what it had reached: nothing is rolled back.
-/

namespace OracleCatalog

abbrev Action (σ α : Type) := ExceptT Error (StateT σ (StateM Environment)) α

/-- What an action comes to: its outcome, the state reached and the environment reached. -/
structure Outcome (σ α : Type) where
  result : Except Error α
  state : σ
  environment : Environment

namespace Action

variable {σ τ α β : Type}

def perform (action : Action σ α) (state : σ) (env : Environment) : Outcome σ α :=
  let ((result, state), env) := (action.run.run state).run env
  { result, state, environment := env }

def ofFunction (f : σ → Environment → Outcome σ α) : Action σ α :=
  ExceptT.mk fun state env =>
    let outcome := f state env
    pure ((outcome.result, outcome.state), outcome.environment)

/-- An action that only fails or answers. -/
def ofExcept (outcome : Except Error α) : Action σ α := ExceptT.mk (pure outcome)

def state : Action σ σ := ofFunction fun state environment =>
  { result := .ok state, state, environment }

def change (f : σ → σ) : Action σ Unit := ofFunction fun state environment =>
  { result := .ok (), state := f state, environment }

/-- Answers from the environment and changes it. -/
def onEnvironment (f : Environment → α × Environment) : Action σ α :=
  ofFunction fun state env =>
    let (answer, environment) := f env
    { result := .ok answer, state, environment }

def observe (event : Event) : Action σ Unit := onEnvironment fun env => ((), env.observe event)

/-- Keeps a record. -/
def note (channel : Channel) (level : Level) (text : String) : Action σ Unit :=
  onEnvironment fun env => ((), env.note channel level text)

/-- An action that writes records alone. -/
def ofNoted (noted : Noted α) : Action σ α := ofFunction fun state env =>
  let (result, records) := noted.outcome
  { result, state, environment := { env with records := env.records ++ records } }

def ofReading (reading : Reading α) : Action σ α := ofFunction fun state env =>
  let (result, shelf) := reading.run.run env.shelf
  { result, state, environment := { env with shelf } }

def within (part : σ → τ) (replace : τ → σ → σ) (action : Action τ α) : Action σ α :=
  ofFunction fun state env =>
    let outcome := action.perform (part state) env
    { result := outcome.result
      state := replace outcome.state state
      environment := outcome.environment }

/-- An action on a state of its own, which it leaves behind with the answer or the error. -/
def apart (state : τ) (action : Action τ α) : Action σ (Except Error α × τ) :=
  ofFunction fun outer env =>
    let outcome := action.perform state env
    { result := .ok (outcome.result, outcome.state)
      state := outer
      environment := outcome.environment }

/-- The outcome of an action as an answer, so that a failure can be looked at. -/
def attempt (action : Action σ α) : Action σ (Except Error α) := ofFunction fun state env =>
  let outcome := action.perform state env
  { outcome with result := .ok outcome.result }

/-- An action after which another one is performed, whether the first fails or not. A failure of the
second counts before one of the first. -/
def ensuring (action : Action σ α) (last : Action σ Unit) : Action σ α := do
  let outcome ← action.attempt
  last
  ofExcept outcome

/-! ### Steps -/

/-- The outcomes of actions that are performed one after the other, whether they fail or not. Each
starts without events and records. -/
def outcomes : List (Action σ α) → σ → Environment → List (Outcome σ α)
  | [], _, _ => []
  | action :: actions, state, env =>
    let outcome := action.perform state env.nextStep
    outcome :: outcomes actions outcome.state outcome.environment

end Action

end OracleCatalog
