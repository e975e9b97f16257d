import Mathlib.Data.List.Forall2
import ScalarServer.Proofs.Credentials

/-!
# The log of the logins

Every attempt is answered on its own, by name and password alone, and what the log says about it is
the answer that it got. Where nobody has to say who they are, everybody may use the server and
nothing is logged.

- `line?`: the line that belongs to an attempt and its answer;
- `authenticate_log`: what one attempt adds to the log;
- `attemptAll_result`, `attemptAll_log_of_username`, `attemptAll_log_of_anonymous`: the answers to
  many attempts, and the log of them;
- `audited_attemptAll`: how answers and log belong together.
-/

namespace ScalarServer

variable {σ α : Type} {auth : AuthConfig} {c : CredentialStore}

/-! ## Attempts -/

namespace Action

/-- Does something and answers with what was answered, refusals included. -/
def attempt (a : Action σ α) : Action σ (Except Error α) :=
  recover .error (.ok <$> a)

@[simp]
theorem attempt_result (a : Action σ α) (s : σ) :
    ((attempt a).run s).result = .ok (a.run s).result := by
  rw [attempt, recover_result, map_result]
  cases (a.run s).result <;> rfl

@[simp]
theorem attempt_state (a : Action σ α) (s : σ) : ((attempt a).run s).state = (a.run s).state := by
  rw [attempt, recover_state, map_state]

@[simp]
theorem attempt_log (a : Action σ α) (s : σ) : ((attempt a).run s).log = (a.run s).log := by
  rw [attempt, recover_log, map_log]

end Action

namespace CredentialStore

/-- Attempts one after another, each with its answer. -/
def attemptAll (c : CredentialStore) :
    List (Option (String × String)) → Action σ (List (Except Error Unit))
  | [] => return []
  | credentials :: attempts => do
    let answer ← (c.authenticate credentials).attempt
    let answers ← c.attemptAll attempts
    return answer :: answers

/-- The answer to an attempt. -/
def answer (c : CredentialStore) (credentials : Option (String × String)) : Except Error Unit :=
  if c.Admits credentials then .ok () else .error (complaint credentials)

theorem answer_eq_ok_iff {credentials : Option (String × String)} :
    c.answer credentials = .ok () ↔ c.Admits credentials := by
  rw [answer]
  split <;> simp [*]

/-- The line that an attempt leaves in the log where users have to say who they are: it says the
name, and which answer was given. There is none about clients that say nothing. -/
def line? : Option (String × String) → Except Error Unit → Option LogEntry
  | none, _ => none
  | some (username, _), .ok () =>
    some ⟨.info, "Login attempt with username \"" ++ username ++ "\": SUCCESS"⟩
  | some (username, _), .error _ =>
    some ⟨.warn, "Login attempt with username \"" ++ username ++ "\": FAILED"⟩

/-- What one attempt adds to the log. -/
theorem authenticate_log (hmode : c.mode = .username) (credentials : Option (String × String))
    (s : σ) :
    ((c.authenticate credentials).run s).log =
      (line? credentials (c.answer credentials)).toList := by
  cases credentials with
  | none => simp [authenticate, hmode, line?]
  | some pair =>
    -- the line is chosen by the comparison of bytes, the answer by what this comes to
    have hadmits : c.Admits (some pair) ↔ c.hasUser pair.1 pair.2 = true := by
      simp [Admits, hmode, hasUser_iff]
    by_cases haccepted : c.hasUser pair.1 pair.2 = true
    · rw [answer, if_pos (hadmits.mpr haccepted)]
      simp [authenticate, verify, hmode, haccepted, line?, String.append_assoc]
    · rw [answer, if_neg (mt hadmits.mp haccepted)]
      simp [authenticate, verify, hmode, haccepted, line?, String.append_assoc]

/-! ## Many attempts -/

/-- No attempt changes the answers to others. -/
theorem attemptAll_result (attempts : List (Option (String × String))) (s : σ) :
    ((c.attemptAll attempts).run s).result = .ok (attempts.map c.answer) := by
  induction attempts with
  | nil => rfl
  | cons credentials attempts ih => simp [attemptAll, ih, authenticate_result, answer]

@[simp]
theorem attemptAll_state (attempts : List (Option (String × String))) (s : σ) :
    ((c.attemptAll attempts).run s).state = s := by
  induction attempts with
  | nil => rfl
  | cons credentials attempts ih => simp [attemptAll, attemptAll_result, ih]

/-- The lines of the log are in the order of the attempts. -/
theorem attemptAll_log_of_username (hmode : c.mode = .username)
    (attempts : List (Option (String × String))) (s : σ) :
    ((c.attemptAll attempts).run s).log =
      attempts.filterMap fun credentials => line? credentials (c.answer credentials) := by
  induction attempts with
  | nil => rfl
  | cons credentials attempts ih =>
    -- a refused attempt does not keep the others from being made
    have hstep : ((c.attemptAll (credentials :: attempts)).run s).log =
        ((c.authenticate credentials).run s).log ++ ((c.attemptAll attempts).run s).log := by
      simp [attemptAll, attemptAll_result]
    rw [hstep, authenticate_log hmode, ih]
    cases hline : line? credentials (c.answer credentials) <;> simp [hline]

theorem attemptAll_log_of_anonymous (hmode : c.mode = .anonymous)
    (attempts : List (Option (String × String))) (s : σ) :
    ((c.attemptAll attempts).run s).log = [] := by
  induction attempts with
  | nil => rfl
  | cons credentials attempts ih =>
    simp [attemptAll, attemptAll_result, authenticate_of_anonymous hmode, ih]

/-- How the answers to attempts and the log of them belong together. -/
structure Audited (auth : AuthConfig) (attempts : List (Option (String × String)))
    (answers : List (Except Error Unit)) (log : List LogEntry) : Prop where
  /-- An attempt is accepted exactly if nobody has to say who they are, or if its name and its
  password are those of one user. -/
  accepted_iff : List.Forall₂ (fun credentials answer => answer = .ok () ↔
    auth.mode = .anonymous ∨ ∃ u ∈ auth.users, credentials = some (u.username, u.password))
      attempts answers
  /-- Where users have to say who they are, the log has a line for each attempt with a name, in
  order, and it says what the answer was. -/
  log_of_username : auth.mode = .username →
    log = (attempts.zip answers).filterMap fun (credentials, answer) => line? credentials answer
  /-- Nothing is logged elsewhere. -/
  log_of_anonymous : auth.mode = .anonymous → log = []

/-- Of any attempts, exactly those are accepted that should be, and the log says so. -/
theorem audited_attemptAll (auth : AuthConfig) (attempts : List (Option (String × String)))
    (s : σ) : ∃ answers log,
      ((ofConfig auth).attemptAll attempts).run s = ⟨.ok answers, s, log⟩ ∧
        Audited auth attempts answers log := by
  refine ⟨attempts.map (ofConfig auth).answer, (((ofConfig auth).attemptAll attempts).run s).log,
    Outcome.ext (attemptAll_result attempts s) (attemptAll_state attempts s) rfl, ?_⟩
  constructor
  case accepted_iff =>
    rw [List.forall₂_map_right_iff, List.forall₂_same]
    exact fun credentials _ => answer_eq_ok_iff
  case log_of_username =>
    intro hmode
    rw [attemptAll_log_of_username hmode, ← List.map_prod_left_eq_zip, List.filterMap_map]
    rfl
  case log_of_anonymous =>
    exact fun hmode => attemptAll_log_of_anonymous hmode attempts s

/-- The password of another user is not good enough. -/
example : (((ofConfig .default).attemptAll
    [some ("LablinkTestReader", "upDAOaPzsJ"), none,
      some ("LablinkTestWriter", "upDAOaPzsJ")]).run ()).log =
    [⟨.warn, "Login attempt with username \"LablinkTestReader\": FAILED"⟩,
      ⟨.info, "Login attempt with username \"LablinkTestWriter\": SUCCESS"⟩] := by
  decide +kernel

end CredentialStore

end ScalarServer
