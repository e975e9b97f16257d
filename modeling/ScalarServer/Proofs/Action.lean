import ScalarServer.Action

/-!
# Laws of actions

What an action comes to, taken apart into its answer, the state that it leaves, and its log. The
main facts are:

- `bind_result`, `bind_state`: what a sequence of two actions comes to, by the answer of the first
  one;
- `bind_result_eq_ok_iff`, `bind_result_eq_error_iff`: a sequence answers exactly when both of its
  parts do, and is refused when one of them is;
- `recover_result`: where refusals are replaced, there is always an answer;
- `Action.ext`: actions are equal if they come to the same in every state;
- `Action.pure_bind`, `Action.bind_pure`, `Action.bind_assoc`: how sequences are grouped.
-/

namespace ScalarServer

attribute [ext] Outcome

namespace Action

variable {σ α β : Type}

@[simp]
theorem run_pure (a : α) (s : σ) : (pure a : Action σ α).run s = ⟨.ok a, s, []⟩ := rfl

@[simp]
theorem run_refuse (e : Error) (s : σ) : (refuse e : Action σ α).run s = ⟨.error e, s, []⟩ := rfl

@[simp]
theorem run_state (s : σ) : (state : Action σ σ).run s = ⟨.ok s, s, []⟩ := rfl

@[simp]
theorem run_modify (f : σ → σ) (s : σ) : (modify f).run s = ⟨.ok (), f s, []⟩ := rfl

@[simp]
theorem run_log (level : LogLevel) (message : String) (s : σ) :
    (log level message : Action σ Unit).run s = ⟨.ok (), s, [⟨level, message⟩]⟩ := rfl

@[simp]
theorem ofExcept_result (x : Except Error α) (s : σ) : ((ofExcept x).run s).result = x := by
  cases x <;> rfl

@[simp]
theorem ofExcept_state (x : Except Error α) (s : σ) : ((ofExcept x).run s).state = s := by
  cases x <;> rfl

/-- The answer of a sequence: that of the second action, from where the first one left off. -/
@[simp]
theorem bind_result (a : Action σ α) (f : α → Action σ β) (s : σ) :
    ((a >>= f).run s).result =
      match (a.run s).result with
      | .ok x => ((f x).run (a.run s).state).result
      | .error e => .error e := by
  change (andThen a f s).result = _
  unfold andThen run
  cases a s with
  | mk result s' log => cases result <;> rfl

/-- The state after a sequence. -/
@[simp]
theorem bind_state (a : Action σ α) (f : α → Action σ β) (s : σ) :
    ((a >>= f).run s).state =
      match (a.run s).result with
      | .ok x => ((f x).run (a.run s).state).state
      | .error _ => (a.run s).state := by
  change (andThen a f s).state = _
  unfold andThen run
  cases a s with
  | mk result s' log => cases result <;> rfl

/-- A sequence answers exactly when its first action answers and its second one does from there. -/
theorem bind_result_eq_ok_iff {a : Action σ α} {f : α → Action σ β} {s : σ} {y : β} :
    ((a >>= f).run s).result = .ok y ↔
      ∃ x, (a.run s).result = .ok x ∧ ((f x).run (a.run s).state).result = .ok y := by
  cases h : (a.run s).result <;> simp [h]

/-- A sequence is refused when its first action is, or its second one is from there. -/
theorem bind_result_eq_error_iff {a : Action σ α} {f : α → Action σ β} {s : σ} {e : Error} :
    ((a >>= f).run s).result = .error e ↔ (a.run s).result = .error e ∨
      ∃ x, (a.run s).result = .ok x ∧ ((f x).run (a.run s).state).result = .error e := by
  cases h : (a.run s).result <;> simp [h]

/-- With a replacement for refusals there is always an answer. -/
@[simp]
theorem recover_result (f : Error → α) (a : Action σ α) (s : σ) :
    ((recover f a).run s).result =
      .ok (match (a.run s).result with
        | .ok x => x
        | .error e => f e) := by
  change (recover f a s).result = _
  unfold recover run
  cases a s with
  | mk result s' log => cases result <;> rfl

@[simp]
theorem recover_state (f : Error → α) (a : Action σ α) (s : σ) :
    ((recover f a).run s).state = (a.run s).state := by
  change (recover f a s).state = _
  unfold recover run
  cases a s with
  | mk result s' log => cases result <;> rfl

/-- A change of the answer does not touch the state. -/
@[simp]
theorem map_result (f : α → β) (a : Action σ α) (s : σ) :
    ((f <$> a).run s).result = (a.run s).result.map f := by
  change ((a >>= fun x => pure (f x)).run s).result = _
  cases h : (a.run s).result <;> simp [h, Except.map]

@[simp]
theorem map_state (f : α → β) (a : Action σ α) (s : σ) :
    ((f <$> a).run s).state = (a.run s).state := by
  change ((a >>= fun x => pure (f x)).run s).state = _
  cases h : (a.run s).result <;> simp [h]

/-! ## Logs -/

@[simp]
theorem ofExcept_log (x : Except Error α) (s : σ) : ((ofExcept x).run s).log = [] := by
  cases x <;> rfl

/-- The log of a sequence. -/
@[simp]
theorem bind_log (a : Action σ α) (f : α → Action σ β) (s : σ) :
    ((a >>= f).run s).log =
      match (a.run s).result with
      | .ok x => (a.run s).log ++ ((f x).run (a.run s).state).log
      | .error _ => (a.run s).log := by
  change (andThen a f s).log = _
  unfold andThen run
  cases a s with
  | mk result s' log => cases result <;> rfl

@[simp]
theorem recover_log (f : Error → α) (a : Action σ α) (s : σ) :
    ((recover f a).run s).log = (a.run s).log := by
  change (recover f a s).log = _
  unfold recover run
  cases a s with
  | mk result s' log => cases result <;> rfl

@[simp]
theorem map_log (f : α → β) (a : Action σ α) (s : σ) :
    ((f <$> a).run s).log = (a.run s).log := by
  change ((a >>= fun x => pure (f x)).run s).log = _
  cases h : (a.run s).result <;> simp [h]

/-- Actions are equal if they come to the same in every state. -/
@[ext]
protected theorem ext {a b : Action σ α} (h : ∀ s, a.run s = b.run s) : a = b :=
  funext h

/-! ## Sequences -/

/-- Doing nothing first adds nothing. -/
protected theorem pure_bind (x : α) (f : α → Action σ β) : (pure x : Action σ α) >>= f = f x := by
  apply Action.ext
  intro s
  apply Outcome.ext <;> simp

/-- Passing on the answer adds nothing. -/
protected theorem bind_pure (a : Action σ α) : (a >>= fun x => pure x) = a := by
  apply Action.ext
  intro s
  apply Outcome.ext
  · rw [bind_result]
    cases (a.run s).result <;> rfl
  · rw [bind_state]
    cases (a.run s).result <;> rfl
  · rw [bind_log]
    cases (a.run s).result <;> simp

/-- It does not matter how three actions are grouped. -/
protected theorem bind_assoc {γ : Type} (a : Action σ α) (f : α → Action σ β)
    (g : β → Action σ γ) : a >>= f >>= g = a >>= fun x => f x >>= g := by
  apply Action.ext
  intro s
  cases hfirst : (a.run s).result with
  | error e => apply Outcome.ext <;> simp [hfirst]
  | ok x =>
    cases hsecond : ((f x).run (a.run s).state).result with
    | error e => apply Outcome.ext <;> simp [hfirst, hsecond]
    | ok y => apply Outcome.ext <;> simp [hfirst, hsecond]

end Action

end ScalarServer
