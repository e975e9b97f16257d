import ScalarServer.Proofs.Http.Stores

/-!
# Handlers step by step

Handlers do not keep the address space to themselves. Who reads a variable looks it up once; who
writes one looks up its type, then writes the value, and then looks the variable up again for the
answer. In between others may have been at work.

- `Client`, `Stage`: a request for one variable, and how far its handler has come;
- `Stage.step`: one call to the address space, with what a handler does until the next one;
- `step_alone`: a handler that is left alone does what has to be done for the request.
-/

namespace ScalarServer.Http

open AddressSpace

variable {v : Service} {s : AddressSpace} {id : NodeId} {w : WriteRequest}

/-- A client with a request for one variable. -/
inductive Client where
  /-- One who reads the variable that a path names. -/
  | reader (path : String)
  /-- One who writes the variable that a path names. -/
  | writer (path : String) (w : WriteRequest)

/-- What a client requests. -/
def Client.request : Client → NodeRequest
  | .reader path => .read path
  | .writer path w => .write path w

/-- How far a handler has come, as what is next for it. -/
inductive Stage where
  /-- To look up the variable that is read. -/
  | read (id : NodeId)
  /-- To look up the type of the variable that is written. -/
  | check (id : NodeId) (w : WriteRequest)
  /-- To write a value. -/
  | write (id : NodeId) (value : Value)
  /-- To look up the variable that has been written. -/
  | confirm (id : NodeId)
  /-- Nothing, since it has answered. -/
  | answered (response : Response)

/-- Where the handler of a request begins. What the path names does not depend on the address
space. -/
def Client.begin (v : Service) : Client → Stage
  | .reader path =>
    match resolveNodeId v path with
    | .error e => .answered (.ofError e)
    | .ok id => .read id
  | .writer path w =>
    match resolveNodeId v path with
    | .error e => .answered (.ofError e)
    | .ok id => .check id w

/-- What clients are told about the variable with an identifier, as one call. -/
def lookUp (id : NodeId) : Action AddressSpace VariableInfo := do
  let s ← Action.state
  Action.ofExcept (s.variableInfo id)

namespace Stage

/-- One call to the address space, and what is done until the next one. -/
def call : Stage → Action AddressSpace Stage
  | .read id => do
    let info ← lookUp id
    return .answered (.ok info.toJson)
  | .check id w => do
    let declared ← lookUp id
    let value ← Action.ofExcept (w.decode declared.type)
    Action.log .info ("Write " ++ id.text ++ " = " ++ value.text)
    return .write id value
  | .write id value => do
    AddressSpace.write id value
    return .confirm id
  | .confirm id => do
    let info ← lookUp id
    return .answered (.ok info.toJson)
  | .answered response => return .answered response

/-- One step of a handler. A refusal becomes its answer. -/
def step (stage : Stage) : Action AddressSpace Stage :=
  Action.recover (fun e => .answered (.ofError e)) stage.call

/-- How far a handler has come after one more step. -/
def next (stage : Stage) (s : AddressSpace) : Stage :=
  match (stage.call.run s).result with
  | .ok next => next
  | .error e => .answered (.ofError e)

end Stage

theorem lookUp_run : (lookUp id).run s = ⟨s.variableInfo id, s, []⟩ := by
  ext1 <;> simp [lookUp]

/-! ## One step -/

namespace Stage

variable {stage : Stage}

/-- What the next step of a handler is to write, and where. -/
def writes? : Stage → Option (NodeId × Value)
  | .write id value => some (id, value)
  | _ => none

/-- How many steps a handler has left at most. -/
def left : Stage → Nat
  | .check _ _ => 3
  | .write _ _ => 2
  | .read _ | .confirm _ => 1
  | .answered _ => 0

/-- A handler changes nothing but by its write. -/
theorem call_state (h : stage.writes? = none) : (stage.call.run s).state = s := by
  cases stage with
  | read id => cases hinfo : s.variableInfo id <;> simp [call, lookUp_run, hinfo]
  | check id w =>
    cases hinfo : s.variableInfo id with
    | error e => simp [call, lookUp_run, hinfo]
    | ok info => cases hdecode : w.decode info.type <;> simp [call, lookUp_run, hinfo, hdecode]
  | write id value => cases h
  | confirm id => cases hinfo : s.variableInfo id <;> simp [call, lookUp_run, hinfo]
  | answered response => rfl

/-- A step always leads somewhere. -/
theorem step_result (stage : Stage) (s : AddressSpace) :
    (stage.step.run s).result = .ok (stage.next s) := by
  rw [step, Action.recover_result, next]
  cases (stage.call.run s).result <;> rfl

theorem next_read (id : NodeId) (s : AddressSpace) :
    (read id).next s = .answered (match s.variableInfo id with
      | .error e => .ofError e
      | .ok info => .ok info.toJson) := by
  cases hinfo : s.variableInfo id <;> simp [next, call, lookUp_run, hinfo]

theorem next_confirm (id : NodeId) (s : AddressSpace) :
    (confirm id).next s = .answered (match s.variableInfo id with
      | .error e => .ofError e
      | .ok info => .ok info.toJson) := by
  cases hinfo : s.variableInfo id <;> simp [next, call, lookUp_run, hinfo]

theorem next_check (id : NodeId) (w : WriteRequest) (s : AddressSpace) :
    (check id w).next s = match s.variableInfo id with
      | .error e => .answered (.ofError e)
      | .ok info =>
        match w.decode info.type with
        | .error e => .answered (.ofError e)
        | .ok value => .write id value := by
  cases hinfo : s.variableInfo id with
  | error e => simp [next, call, lookUp_run, hinfo]
  | ok info => cases hdecode : w.decode info.type <;> simp [next, call, lookUp_run, hinfo, hdecode]

theorem next_write (id : NodeId) (value : Value) (s : AddressSpace) :
    (write id value).next s = match ((AddressSpace.write id value).run s).result with
      | .error e => .answered (.ofError e)
      | .ok _ => .confirm id := by
  cases hwrite : ((AddressSpace.write id value).run s).result <;> simp [next, call, hwrite]

@[simp]
theorem next_answered (response : Response) (s : AddressSpace) :
    (answered response).next s = .answered response := rfl

/-- With every step a handler has less left. -/
theorem left_next (stage : Stage) (s : AddressSpace) : (stage.next s).left ≤ stage.left - 1 := by
  -- an answer leaves nothing to do, whether it is a refusal or not
  cases stage with
  | read id => exact next_read id s ▸ Nat.zero_le _
  | check id w =>
    rw [next_check]
    split
    · exact Nat.zero_le _
    · split
      · exact Nat.zero_le _
      · exact Nat.le_refl _
  | write id value =>
    rw [next_write]
    split
    · exact Nat.zero_le _
    · exact Nat.le_refl _
  | confirm id => exact next_confirm id s ▸ Nat.zero_le _
  | answered response => exact Nat.zero_le _

end Stage

/-! ## A handler alone -/

theorem step_reader_alone (v : Service) (path : String) :
    (do
      let first ← ((Client.reader path).begin v).step
      let second ← first.step
      second.step) = Stage.answered <$> answer v (.read path) := by
  ext1 s
  rw [Outcome.ext_iff]
  simp only [Client.begin, answer, NodeRequest.handler, readNode]
  -- the ways in which the handler can end, in the order in which it comes to them
  cases resolveNodeId v path with
  | error e => simp [Stage.step, Stage.call, Except.map]
  | ok id =>
    cases hinfo : s.variableInfo id with
    | error e => simp [Stage.step, Stage.call, lookUp_run, hinfo, Except.map]
    | ok info => simp [Stage.step, Stage.call, lookUp_run, hinfo, Except.map]

theorem step_writer_alone (v : Service) (path : String) (w : WriteRequest) :
    (do
      let first ← ((Client.writer path w).begin v).step
      let second ← first.step
      second.step) = Stage.answered <$> answer v (.write path w) := by
  ext1 s
  rw [Outcome.ext_iff]
  simp only [Client.begin, answer, NodeRequest.handler, writeNode]
  -- each call may be the last one; then the remaining steps do nothing
  cases resolveNodeId v path with
  | error e => simp [Stage.step, Stage.call, Except.map]
  | ok id =>
    cases hinfo : s.variableInfo id with
    | error e => simp [Stage.step, Stage.call, lookUp_run, hinfo, Except.map]
    | ok info =>
      cases hdecode : w.decode info.type with
      | error e => simp [Stage.step, Stage.call, lookUp_run, hinfo, hdecode, Except.map]
      | ok value =>
        cases hwrite : ((write id value).run s).result with
        | error e => simp [Stage.step, Stage.call, lookUp_run, hinfo, hdecode, hwrite, Except.map]
        | ok _ =>
          cases hafter : ((write id value).run s).state.variableInfo id with
          | error e =>
            simp [Stage.step, Stage.call, lookUp_run, hinfo, hdecode, hwrite, hafter, Except.map]
          | ok after =>
            simp [Stage.step, Stage.call, lookUp_run, hinfo, hdecode, hwrite, hafter, Except.map]

/-- A handler that is left alone does in its steps what has to be done for the request. -/
theorem step_alone (v : Service) (client : Client) :
    (do
      let first ← (client.begin v).step
      let second ← first.step
      second.step) = Stage.answered <$> answer v client.request := by
  cases client with
  | reader path => exact step_reader_alone v path
  | writer path w => exact step_writer_alone v path w

end ScalarServer.Http
