import ScalarServer.Error

/-!
# Actions

An action changes a state, may be refused, and leaves lines in a log. A refused action keeps what
it has done and logged up to the refusal; what would have come after it is not done.
-/

namespace ScalarServer

/-- How much a log line matters. -/
inductive LogLevel where
  /-- For those who look closely. -/
  | debug
  /-- For everyone. -/
  | info
  /-- Something to look into. -/
  | warn
deriving DecidableEq, Repr

/-- A line of the log. -/
structure LogEntry where
  /-- How much it matters. -/
  level : LogLevel
  /-- What it says. -/
  message : String
deriving DecidableEq, Repr

/-- The name of a level. -/
def LogLevel.name : LogLevel → String
  | .debug => "DEBUG"
  | .info => "INFO"
  | .warn => "WARN"

/-- A log line with its level in front. -/
def LogEntry.text (e : LogEntry) : String :=
  e.level.name ++ " " ++ e.message

/-- What an action comes to. -/
structure Outcome (σ α : Type) where
  /-- The answer, or why there is none. -/
  result : Except Error α
  /-- The state afterwards. -/
  state : σ
  /-- What was logged, in order. -/
  log : List LogEntry

/-- Something that can be done to a state. -/
def Action (σ α : Type) : Type :=
  σ → Outcome σ α

namespace Action

variable {σ α β : Type}

/-- The outcome of an action on a state. -/
def run (a : Action σ α) (s : σ) : Outcome σ α :=
  a s

/-- Gives an answer and does nothing. -/
def done (a : α) : Action σ α :=
  fun s => ⟨.ok a, s, []⟩

/-- Does one action and then another that depends on its answer. -/
def andThen (a : Action σ α) (f : α → Action σ β) : Action σ β :=
  fun s =>
    match a s with
    | ⟨.error e, s', log⟩ => ⟨.error e, s', log⟩
    | ⟨.ok x, s', log⟩ =>
      let next := f x s'
      { next with log := log ++ next.log }

instance : Monad (Action σ) where
  pure := done
  bind := andThen

/-- Refuses. -/
def refuse (e : Error) : Action σ α :=
  fun s => ⟨.error e, s, []⟩

/-- Gives an answer that may be a refusal, and does nothing. -/
def ofExcept : Except Error α → Action σ α
  | .ok a => done a
  | .error e => refuse e

/-- Answers with the state. -/
def state : Action σ σ :=
  fun s => ⟨.ok s, s, []⟩

/-- Changes the state. -/
def modify (f : σ → σ) : Action σ Unit :=
  fun s => ⟨.ok (), f s, []⟩

/-- Logs a line. -/
def log (level : LogLevel) (message : String) : Action σ Unit :=
  fun s => ⟨.ok (), s, [⟨level, message⟩]⟩

/-- Answers for a refused action in its place. -/
def recover (f : Error → α) (a : Action σ α) : Action σ α :=
  fun s =>
    match a s with
    | ⟨.error e, s', log⟩ => ⟨.ok (f e), s', log⟩
    | outcome => outcome

end Action

end ScalarServer
