import Mathlib.Logic.Equiv.Basic
import ScalarServer.Proofs.Credentials.Audit

/-!
# Passwords

Of passwords, nothing counts but which of them are equal. If all of them are replaced, those of the
users and those that are tried, and different ones by different ones, nobody can tell from the
answers, from the log, or from the developer's view of the users. In particular neither what a
password says nor how long it is can be told.

- `mapPasswords`, `mapTried`: the replacement;
- `accepts_mapTried_iff`, `hasUser_mapPasswords`: it does not change who is a user;
- `authenticate_mapTried`, `attemptAll_mapTried`: it changes neither one attempt nor many;
- `describe_mapPasswords`: the developer's view does not change either;
- `passwords_only_compared`: all of these.
-/

namespace ScalarServer

variable {σ : Type} {r : String → String}

/-- The users of a configuration with all passwords replaced. -/
def AuthConfig.mapPasswords (r : String → String) (auth : AuthConfig) : AuthConfig :=
  { auth with users := auth.users.map fun u => { u with password := r u.password } }

namespace CredentialStore

/-- The users with all passwords replaced. -/
def mapPasswords (r : String → String) (c : CredentialStore) : CredentialStore :=
  { c with users := c.users.map fun u => { u with password := r u.password } }

/-- An attempt with the password replaced. -/
def mapTried (r : String → String) (credentials : Option (String × String)) :
    Option (String × String) :=
  credentials.map fun (username, password) => (username, r password)

/-- The developer's view of a user has no place for the password. -/
theorem describe_withPassword (u : UserCredential) (password : String) :
    UserCredential.describe { u with password := password } = u.describe := by
  unfold UserCredential.describe
  rfl

theorem describe_mapPasswords (r : String → String) (c : CredentialStore) :
    (c.mapPasswords r).describe = c.describe := by
  have husers : (c.mapPasswords r).users.map UserCredential.describe =
      c.users.map UserCredential.describe := by
    rw [mapPasswords, List.map_map]
    exact List.map_congr_left fun u _ => describe_withPassword u (r u.password)
  unfold describe
  rw [husers]
  rfl

/-! ## Attempts -/

/-- Equal passwords are replaced by equal ones, and different ones by different ones. -/
theorem accepts_mapTried_iff (hr : Function.Injective r) (c : CredentialStore)
    (credentials : Option (String × String)) :
    (c.mapPasswords r).Accepts (mapTried r credentials) ↔ c.Accepts credentials := by
  cases credentials with
  | none => simp [Accepts, mapTried]
  | some pair =>
    simp only [Accepts, mapPasswords, mapTried, List.mem_map, Option.map_some, Option.some.injEq,
      Prod.ext_iff]
    constructor
    · rintro ⟨_, ⟨u, hu, rfl⟩, hname, hpassword⟩
      exact ⟨u, hu, hname, hr hpassword⟩
    · rintro ⟨u, hu, hname, hpassword⟩
      exact ⟨_, ⟨u, hu, rfl⟩, hname, congrArg r hpassword⟩

theorem hasUser_mapPasswords (hr : Function.Injective r) (c : CredentialStore)
    (username password : String) :
    (c.mapPasswords r).hasUser username (r password) = c.hasUser username password := by
  -- the bytes that are compared may be more or fewer, what the comparison comes to is the same
  rw [Bool.eq_iff_iff, hasUser_iff, hasUser_iff]
  exact accepts_mapTried_iff hr c (some (username, password))

theorem verify_mapPasswords (hr : Function.Injective r) (c : CredentialStore)
    (username password : String) :
    ((c.mapPasswords r).verify username (r password) : Action σ Bool) =
      c.verify username password := by
  simp only [verify, hasUser_mapPasswords hr]

theorem authenticate_mapTried (hr : Function.Injective r) (c : CredentialStore)
    (credentials : Option (String × String)) :
    ((c.mapPasswords r).authenticate (mapTried r credentials) : Action σ Unit) =
      c.authenticate credentials := by
  have hmode : (c.mapPasswords r).mode = c.mode := rfl
  rcases credentials with _ | ⟨username, password⟩
  · simp only [authenticate, hmode, mapTried, Option.map_none]
  · simp only [authenticate, hmode, mapTried, Option.map_some, verify_mapPasswords hr]

theorem attemptAll_mapTried (hr : Function.Injective r) (c : CredentialStore)
    (attempts : List (Option (String × String))) :
    ((c.mapPasswords r).attemptAll (attempts.map (mapTried r)) :
        Action σ (List (Except Error Unit))) = c.attemptAll attempts := by
  induction attempts with
  | nil => rfl
  | cons credentials attempts ih =>
    rw [List.map_cons, attemptAll, attemptAll, authenticate_mapTried hr, ih]

/-- If all passwords are replaced, different ones by different ones, then the developer's view of
the users is the same, and so are the outcomes of any attempts: their answers, with the texts of
all refusals, and what is logged. The same holds for a single comparison with the users. -/
theorem passwords_only_compared (hr : Function.Injective r) (auth : AuthConfig)
    (attempts : List (Option (String × String))) (s : σ) :
    (ofConfig (auth.mapPasswords r)).describe = (ofConfig auth).describe ∧
      ((ofConfig (auth.mapPasswords r)).attemptAll (attempts.map (mapTried r))).run s =
        ((ofConfig auth).attemptAll attempts).run s ∧
      ∀ username password,
        ((ofConfig (auth.mapPasswords r)).verify username (r password)).run s =
          ((ofConfig auth).verify username password).run s := by
  have hstore : ofConfig (auth.mapPasswords r) = (ofConfig auth).mapPasswords r := rfl
  rw [hstore]
  refine ⟨describe_mapPasswords r _, ?_, fun username password => ?_⟩
  · rw [attemptAll_mapTried hr]
  · rw [verify_mapPasswords hr]

/-- Two passwords of different lengths change places. -/
theorem passwords_only_compared_swap :
    Function.Injective (Equiv.swap "vOBKtPzcWv" "short") ∧
      ((ofConfig (AuthConfig.default.mapPasswords (Equiv.swap "vOBKtPzcWv" "short"))).attemptAll
          [some ("LablinkTestReader", "short"), none, some ("LablinkTestReader", "vOBKtPzcWv")]).run
            () =
        ((ofConfig .default).attemptAll
          [some ("LablinkTestReader", "vOBKtPzcWv"), none,
            some ("LablinkTestReader", "short")]).run () :=
  ⟨Equiv.injective _, (passwords_only_compared (Equiv.injective _) .default
    [some ("LablinkTestReader", "vOBKtPzcWv"), none, some ("LablinkTestReader", "short")] ()).2.1⟩

end CredentialStore

end ScalarServer
