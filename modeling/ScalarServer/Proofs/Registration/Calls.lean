import ScalarServer.Proofs.Action
import ScalarServer.Registration

/-!
# The calls of a registration

Whatever a store answers, a registration asks it for one variable after the other, first to create
it and then to let clients write it, and stops after the first call that is refused.

- `Step`, `plan`: a call with all that is passed on, and the calls that are due;
- `Performs`, `CutOff`: what comes of some calls, made one after the other up to the first refusal;
- `registerEach_eq_performAll`: this is what a registration does;
- `Performs.recorded`: watching a store changes nothing, and shows the calls;
- `registerEach_append`: two lists of definitions are registered one after the other;
- `ComesTo`, `calls_exact`: all of this for a registration in any store.
-/

namespace ScalarServer

variable {σ : Type}

namespace Backend

/-- A call of a store, with all that is passed on. -/
inductive Step where
  /-- To create a variable by its definition. -/
  | add (id : NodeId) (d : VariableDefinition)
  /-- To let clients write a variable. -/
  | writable (id : NodeId)

/-- What is noted about a call. -/
def Step.call : Step → Call
  | .add id _ => .add id
  | .writable id => .writable id

/-- What is done by a call. -/
def Step.perform (b : Backend σ) : Step → Action σ Unit
  | .add id d => b.addVariable id d
  | .writable id => b.setWritable id

/-- What comes of calls in a state of a store: those that have been made, the answer, and the state
afterwards. The first refusal is the answer, and no call is made after it. -/
inductive Performs (b : Backend σ) : List Step → σ → List Call → Except Error Unit → σ → Prop
  | finished (s : σ) : Performs b [] s [] (.ok ()) s
  | refused {step : Step} {s : σ} {e : Error} (steps : List Step)
      (h : ((step.perform b).run s).result = .error e) :
      Performs b (step :: steps) s [step.call] (.error e) ((step.perform b).run s).state
  | answered {step : Step} {steps : List Step} {s t : σ} {made : List Call}
      {answer : Except Error Unit} (h : ((step.perform b).run s).result = .ok ())
      (hrest : Performs b steps ((step.perform b).run s).state made answer t) :
      Performs b (step :: steps) s (step.call :: made) answer t

variable {b : Backend σ} {steps : List Step} {s t u : σ} {made other : List Call}
  {answer answer' : Except Error Unit}

/-- How calls end of which one is refused: those before it have been answered, and it is the last
one that is made. -/
structure CutOff (b : Backend σ) (steps : List Step) (s : σ) (made : List Call) (e : Error) (t : σ)
    (done : List Step) (step : Step) (rest : List Step) (u : σ) : Prop where
  /-- The call stands between those before it and those after it. -/
  split : steps = done ++ step :: rest
  /-- Those before it have been answered. -/
  answered : b.Performs done s (done.map Step.call) (.ok ()) u
  /-- It is refused. -/
  refused : ((step.perform b).run u).result = .error e
  /-- What it has changed, if anything, is the last change. -/
  state : ((step.perform b).run u).state = t
  /-- No call is made after it. -/
  made : made = (done ++ [step]).map Step.call

/-- Either all calls are made and answered, or the first one that is refused is the last one. -/
theorem Performs.made_cases (h : b.Performs steps s made answer t) :
    (answer = .ok () ∧ made = steps.map Step.call) ∨
      ∃ e, answer = .error e ∧ ∃ done step rest u, b.CutOff steps s made e t done step rest u := by
  induction h with
  | finished => exact .inl ⟨rfl, rfl⟩
  | @refused step s e steps hrefused =>
    exact .inr ⟨e, rfl, [], step, steps, s, rfl, .finished s, hrefused, rfl, rfl⟩
  | @answered step _ _ _ _ _ hanswered _ ih =>
    rcases ih with ⟨hok, hmade⟩ | ⟨e, herror, done, last, rest, u, hcut⟩
    · exact .inl ⟨hok, congrArg (step.call :: ·) hmade⟩
    · exact .inr ⟨e, herror, step :: done, last, rest, u, congrArg (step :: ·) hcut.split,
        .answered hanswered hcut.answered, hcut.refused, hcut.state,
        congrArg (step.call :: ·) hcut.made⟩

/-- The same calls in the same state always come to the same. -/
theorem Performs.unique (h : b.Performs steps s made answer t)
    (h' : b.Performs steps s other answer' u) : other = made ∧ answer' = answer ∧ u = t := by
  induction h generalizing other with
  | finished =>
    cases h'
    exact ⟨rfl, rfl, rfl⟩
  | refused steps hrefused =>
    cases h' with
    | refused _ hrefused' =>
      rw [hrefused] at hrefused'
      cases hrefused'
      exact ⟨rfl, rfl, rfl⟩
    | answered hanswered _ =>
      rw [hrefused] at hanswered
      cases hanswered
  | answered hanswered _ ih =>
    cases h' with
    | refused _ hrefused =>
      rw [hanswered] at hrefused
      cases hrefused
    | answered _ hrest =>
      obtain ⟨rfl, rfl, rfl⟩ := ih hrest
      exact ⟨rfl, rfl, rfl⟩

/-- Calls in a row, as an action. -/
def performAll (b : Backend σ) : List Step → Action σ Unit
  | [] => return ()
  | step :: steps => do
    step.perform b
    performAll b steps

/-- Calls in a row come to something, in every state. -/
theorem performs_performAll (b : Backend σ) (steps : List Step) (s : σ) :
    ∃ made, b.Performs steps s made ((b.performAll steps).run s).result
      ((b.performAll steps).run s).state := by
  induction steps generalizing s with
  | nil => exact ⟨[], .finished s⟩
  | cons step steps ih =>
    rw [performAll, Action.bind_result, Action.bind_state]
    cases h : ((step.perform b).run s).result with
    | error e => exact ⟨_, .refused steps h⟩
    | ok _ =>
      obtain ⟨made, hmade⟩ := ih ((step.perform b).run s).state
      exact ⟨_, .answered h hmade⟩

/-! ## Watching -/

/-- A call to a watched store is answered as without watching, and noted. -/
theorem Step.perform_recorded (step : Step) (s : σ) (calls : List Call) :
    (((step.perform b.recorded).run (s, calls)).result = ((step.perform b).run s).result) ∧
      ((step.perform b.recorded).run (s, calls)).state =
        (((step.perform b).run s).state, calls ++ [step.call]) := by
  cases step <;> exact ⟨rfl, rfl⟩

/-- Watching a store changes nothing, and adds the calls to the list. -/
theorem Performs.recorded (h : b.Performs steps s made answer t) (calls : List Call) :
    b.recorded.Performs steps (s, calls) made answer (t, calls ++ made) := by
  induction h generalizing calls with
  | finished s =>
    rw [List.append_nil]
    exact .finished _
  | @refused step s e steps hrefused =>
    obtain ⟨hresult, hstate⟩ := step.perform_recorded s calls (b := b)
    rw [← hstate]
    exact .refused steps (hresult.trans hrefused)
  | @answered step steps s t made answer hanswered _ ih =>
    obtain ⟨hresult, hstate⟩ := step.perform_recorded s calls (b := b)
    have hmade : calls ++ step.call :: made = calls ++ [step.call] ++ made := List.append_cons ..
    refine .answered (hresult.trans hanswered) ?_
    rw [hstate, hmade]
    exact ih _

end Backend

namespace Registration

/-- The calls that are due for a definition in a folder with a path. -/
def steps (index : UInt16) (path : String) (d : VariableDefinition) : List Backend.Step :=
  [.add (.inFolder index path d.name) d, .writable (.inFolder index path d.name)]

/-- The calls that are due for a list of definitions. -/
def plan (index : UInt16) (path : String) (ds : List VariableDefinition) : List Backend.Step :=
  ds.flatMap (steps index path)

/-- What is answered for a definition. -/
def handle (index : UInt16) (path : String) (d : VariableDefinition) : RegisteredVariable :=
  ⟨.inFolder index path d.name, d.name, d.type, true⟩

/-- A registration is the calls that are due, in a row. -/
theorem registerEach_eq_performAll (index : UInt16) (b : Backend σ) (ds : List VariableDefinition)
    (s : σ) :
    ((registerEach index b ds).run s).result =
        ((b.performAll (plan index b.path ds)).run s).result.map
          (fun _ => ds.map (handle index b.path)) ∧
      ((registerEach index b ds).run s).state =
        ((b.performAll (plan index b.path ds)).run s).state := by
  induction ds generalizing s with
  | nil => exact ⟨rfl, rfl⟩
  | cons d ds ih =>
    have hplan : plan index b.path (d :: ds) = .add (.inFolder index b.path d.name) d ::
        .writable (.inFolder index b.path d.name) :: plan index b.path ds := rfl
    rw [hplan, registerEach, registerOne, Backend.performAll, Backend.performAll,
      Backend.Step.perform, Backend.Step.perform]
    -- either of the two calls for the first definition may be refused
    cases hadd : ((b.addVariable (.inFolder index b.path d.name) d).run s).result with
    | error e => simp [hadd, Except.map]
    | ok _ =>
      generalize hadded : ((b.addVariable (.inFolder index b.path d.name) d).run s).state = t
      cases hset : ((b.setWritable (.inFolder index b.path d.name)).run t).result with
      | error e => simp [hadd, hadded, hset, Except.map]
      | ok _ =>
        generalize hdone : ((b.setWritable (.inFolder index b.path d.name)).run t).state = u
        obtain ⟨hresult, hstate⟩ := ih u
        cases hothers : ((b.performAll (plan index b.path ds)).run u).result <;>
          rw [hothers] at hresult <;>
          simp [hadd, hadded, hset, hdone, hresult, hstate, hothers, Except.map, handle]

/-! ## Composition -/

/-- A list of definitions is registered as its parts are, one after the other. -/
theorem registerEach_append (index : UInt16) (b : Backend σ) (xs ys : List VariableDefinition) :
    registerEach index b (xs ++ ys) = do
      let first ← registerEach index b xs
      let others ← registerEach index b ys
      return first ++ others := by
  induction xs with
  | nil =>
    rw [List.nil_append, registerEach, Action.pure_bind]
    exact (Action.bind_pure _).symm
  | cons d xs ih =>
    rw [List.cons_append, registerEach, registerEach, ih]
    simp only [Action.bind_assoc, Action.pure_bind, List.cons_append]

theorem registerAll_result (index : UInt16) (b : Backend σ) (ds : List VariableDefinition) (s : σ) :
    ((registerAll index b ds).run s).result = ((registerEach index b ds).run s).result := by
  rw [registerAll, Action.bind_result]
  cases h : ((registerEach index b ds).run s).result <;> simp

theorem registerAll_state (index : UInt16) (b : Backend σ) (ds : List VariableDefinition) (s : σ) :
    ((registerAll index b ds).run s).state = ((registerEach index b ds).run s).state := by
  rw [registerAll, Action.bind_state]
  cases h : ((registerEach index b ds).run s).result <;> simp

/-- A list of definitions is registered, and another one if nothing was refused. -/
def registerBoth (index : UInt16) (b : Backend σ) (xs ys : List VariableDefinition) :
    Action σ (List RegisteredVariable) := do
  let first ← registerAll index b xs
  let others ← registerAll index b ys
  return first ++ others

/-- Apart from the log, two lists are registered one after the other as if they were one. -/
theorem registerAll_append (index : UInt16) (b : Backend σ) (xs ys : List VariableDefinition)
    (s : σ) :
    ((registerAll index b (xs ++ ys)).run s).result =
        ((registerBoth index b xs ys).run s).result ∧
      ((registerAll index b (xs ++ ys)).run s).state =
        ((registerBoth index b xs ys).run s).state := by
  rw [registerAll_result, registerAll_state, registerEach_append, registerBoth]
  constructor
  · simp only [Action.bind_result, registerAll_result, registerAll_state]
  · simp only [Action.bind_state, registerAll_result, registerAll_state]

/-- What a registration comes to: the calls that it makes, their answer, and the state
afterwards. -/
structure ComesTo (index : UInt16) (b : Backend σ) (ds : List VariableDefinition) (s : σ)
    (made : List Backend.Call) (answer : Except Error Unit) (t : σ) : Prop where
  /-- These are the calls that are due, up to the first refusal. -/
  performs : b.Performs (plan index b.path ds) s made answer t
  /-- All calls are made and answered, or the first one that is refused is the last one. -/
  cases : (answer = .ok () ∧ made = (plan index b.path ds).map Backend.Step.call) ∨
    ∃ e, answer = .error e ∧
      ∃ done step rest u, b.CutOff (plan index b.path ds) s made e t done step rest u
  /-- The refusal is passed on; otherwise there is one variable for each definition. -/
  result : ((registerAll index b ds).run s).result =
    answer.map fun _ => ds.map (handle index b.path)
  /-- The calls are all that is done to the store. -/
  state : ((registerAll index b ds).run s).state = t
  /-- Watching the store does not change the result. -/
  watched_result : ∀ calls, ((registerAll index b.recorded ds).run (s, calls)).result =
    ((registerAll index b ds).run s).result
  /-- It shows the calls, in their order. -/
  watched_state : ∀ calls,
    ((registerAll index b.recorded ds).run (s, calls)).state = (t, calls ++ made)

theorem exists_comesTo (index : UInt16) (b : Backend σ) (ds : List VariableDefinition) (s : σ) :
    ∃ made answer t, ComesTo index b ds s made answer t := by
  obtain ⟨made, hmade⟩ := b.performs_performAll (plan index b.path ds) s
  obtain ⟨hresult, hstate⟩ := registerEach_eq_performAll index b ds s
  -- the calls to the watched store are those to the store
  have hwatched : ∀ calls,
      ((registerEach index b.recorded ds).run (s, calls)).result =
          ((registerEach index b ds).run s).result ∧
        ((registerEach index b.recorded ds).run (s, calls)).state =
          (((b.performAll (plan index b.path ds)).run s).state, calls ++ made) := by
    intro calls
    obtain ⟨others, hothers⟩ := b.recorded.performs_performAll (plan index b.path ds) (s, calls)
    obtain ⟨hresult', hstate'⟩ := registerEach_eq_performAll index b.recorded ds (s, calls)
    obtain ⟨-, hanswer, hspace⟩ := (hmade.recorded calls).unique hothers
    refine ⟨?_, hstate'.trans hspace⟩
    rw [hresult, ← hanswer]
    exact hresult'
  refine ⟨made, _, _, hmade, hmade.made_cases, ?_, ?_, fun calls => ?_, fun calls => ?_⟩
  · exact (registerAll_result index b ds s).trans hresult
  · exact (registerAll_state index b ds s).trans hstate
  · rw [registerAll_result, registerAll_result]
    exact (hwatched calls).1
  · rw [registerAll_state]
    exact (hwatched calls).2

/-- A registration makes the calls that are due up to the first refusal, and is refused for that
reason or answers with one variable for each definition; and two lists come to what all their
definitions come to in one list, with the same calls. -/
theorem calls_exact (index : UInt16) (b : Backend σ) (s : σ) :
    (∀ ds, ∃ made answer t, ComesTo index b ds s made answer t) ∧
      ∀ xs ys calls,
        ((registerAll index b.recorded (xs ++ ys)).run (s, calls)).result =
            ((registerBoth index b.recorded xs ys).run (s, calls)).result ∧
          ((registerAll index b.recorded (xs ++ ys)).run (s, calls)).state =
            ((registerBoth index b.recorded xs ys).run (s, calls)).state :=
  ⟨fun ds => exists_comesTo index b ds s,
    fun xs ys calls => registerAll_append index b.recorded xs ys (s, calls)⟩

end Registration

end ScalarServer
