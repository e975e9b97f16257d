import ScalarServer.Credentials
import ScalarServer.Proofs.Action

/-!
# Who is let in

The comparison of credentials, byte by byte and with all differences gathered, comes to equality
of name and password.

- `sameBytes_iff`: the comparison decides equality;
- `hasUser_iff`: a user with this name and this password is one of the users;
- `authenticate_of_anonymous`, `authenticate_of_unknown`: how a client is answered that does not
  have to say who it is, and one that is no user;
- `authenticate_result`: how any client is answered.
-/

namespace ScalarServer

variable {c : CredentialStore} {credentials : Option (String × String)}

/-! ## Comparison of texts -/

/-- Differences are gathered, and none is lost. -/
theorem foldl_or_eq_zero_iff (bytes : List UInt8) (gathered : UInt8) :
    bytes.foldl (· ||| ·) gathered = 0 ↔ gathered = 0 ∧ ∀ b ∈ bytes, b = 0 := by
  induction bytes generalizing gathered with
  | nil => simp
  | cons b bytes ih =>
    rw [List.foldl_cons, ih, UInt8.or_eq_zero_iff, List.forall_mem_cons, and_assoc]

theorem sameBytes_iff (a b : List UInt8) : sameBytes a b = true ↔ a = b := by
  rw [sameBytes, Bool.and_eq_true, beq_iff_eq, beq_iff_eq, foldl_or_eq_zero_iff]
  simp only [true_and]
  -- the lengths are compared too, so `zipWith` cuts nothing off
  induction a generalizing b with
  | nil => cases b <;> simp
  | cons x a ih =>
    cases b with
    | nil => simp
    | cons y b =>
      rw [List.zipWith_cons_cons, List.forall_mem_cons, UInt8.xor_eq_zero_iff, List.length_cons,
        List.length_cons, Nat.add_right_cancel_iff, List.cons.injEq, ← ih]
      exact and_left_comm

/-- The loop that lists the bytes of an array leaves none out. -/
theorem toList_loop_eq (bytes : ByteArray) (i : Nat) (listed : List UInt8) :
    ByteArray.toList.loop bytes i listed = listed.reverse ++ bytes.data.toList.drop i := by
  fun_induction ByteArray.toList.loop bytes i listed with
  | case1 i listed hlt ih =>
    have hi : i < bytes.data.toList.length := by simpa using hlt
    have hbyte : bytes.get! i = bytes.data.toList[i] := by
      simp only [ByteArray.get!, Array.getElem_toList]
      exact getElem!_pos bytes.data i (by simpa using hlt)
    rw [ih, List.reverse_cons, List.append_assoc, List.drop_eq_getElem_cons hi, hbyte]
    rfl
  | case2 i listed hge =>
    have hlength : bytes.data.toList.length ≤ i := by simpa using hge
    rw [List.drop_eq_nil_of_le hlength, List.append_nil]

theorem toList_eq_toList_data (bytes : ByteArray) : bytes.toList = bytes.data.toList := by
  rw [ByteArray.toList, toList_loop_eq, List.reverse_nil, List.nil_append, List.drop_zero]

/-- Texts with the same bytes are the same. -/
theorem toList_toUTF8_inj {s t : String} : s.toUTF8.toList = t.toUTF8.toList ↔ s = t := by
  refine ⟨fun h => ?_, fun h => congrArg (fun s => s.toUTF8.toList) h⟩
  rw [toList_eq_toList_data, toList_eq_toList_data] at h
  exact String.toByteArray_inj.mp (ByteArray.ext (Array.ext' h))

/-! ## Users -/

namespace CredentialStore

/-- Whether credentials are those of a user. -/
def Accepts (c : CredentialStore) (credentials : Option (String × String)) : Prop :=
  ∃ u ∈ c.users, credentials = some (u.username, u.password)

instance (c : CredentialStore) (credentials : Option (String × String)) :
    Decidable (c.Accepts credentials) :=
  inferInstanceAs (Decidable (∃ u ∈ c.users, credentials = some (u.username, u.password)))

theorem hasUser_iff (c : CredentialStore) (username password : String) :
    c.hasUser username password = true ↔ c.Accepts (some (username, password)) := by
  simp only [hasUser, List.any_eq_true, Bool.and_eq_true, sameBytes_iff, toList_toUTF8_inj,
    Accepts, Option.some.injEq, Prod.mk.injEq]
  constructor
  · rintro ⟨u, hu, hname, hpassword⟩
    exact ⟨u, hu, hname.symm, hpassword.symm⟩
  · rintro ⟨u, hu, hname, hpassword⟩
    exact ⟨u, hu, hname.symm, hpassword.symm⟩

/-- Where nobody has to say who they are, credentials are not looked at. -/
theorem authenticate_of_anonymous {σ : Type} (h : c.mode = .anonymous)
    (credentials : Option (String × String)) :
    c.authenticate credentials = (pure () : Action σ Unit) := by
  simp only [authenticate, h]

/-- What is wrong with credentials that are not accepted. -/
def complaint (credentials : Option (String × String)) : Error :=
  .authFailed (if credentials.isSome then "invalid username or password" else "username required")

/-- A client that is no user is refused, and told nothing but whether it gave credentials. -/
theorem authenticate_of_unknown {σ : Type} (hmode : c.mode = .username)
    (hunknown : ¬ c.Accepts credentials) (s : σ) :
    ((c.authenticate credentials).run s).result = .error (complaint credentials) := by
  cases credentials with
  | none => simp [authenticate, hmode, complaint]
  | some pair =>
    have hrejected : c.hasUser pair.1 pair.2 = false := by
      rw [← Bool.not_eq_true, hasUser_iff]
      exact hunknown
    simp [authenticate, verify, hmode, hrejected, complaint]

/-- Whether a client with these credentials may use the server. -/
def Admits (c : CredentialStore) (credentials : Option (String × String)) : Prop :=
  c.mode = .anonymous ∨ c.Accepts credentials

instance (c : CredentialStore) (credentials : Option (String × String)) :
    Decidable (c.Admits credentials) :=
  inferInstanceAs (Decidable (_ ∨ _))

/-- A client is told whether it may use the server, whatever the state of the server is. -/
theorem authenticate_result {σ : Type} (c : CredentialStore)
    (credentials : Option (String × String)) (s : σ) :
    ((c.authenticate credentials).run s).result =
      if c.Admits credentials then .ok () else .error (complaint credentials) := by
  cases hmode : c.mode with
  | anonymous =>
    rw [authenticate_of_anonymous hmode, if_pos (.inl hmode)]
    rfl
  | username =>
    have hadmits : c.Admits credentials ↔ c.Accepts credentials := by simp [Admits, hmode]
    by_cases haccepts : c.Accepts credentials
    · rw [if_pos (hadmits.mpr haccepts)]
      obtain ⟨u, hu, rfl⟩ := haccepts
      have haccepted : c.hasUser u.username u.password = true :=
        (hasUser_iff c _ _).mpr ⟨u, hu, rfl⟩
      simp [authenticate, verify, hmode, haccepted]
    · rw [if_neg (mt hadmits.mp haccepts)]
      exact authenticate_of_unknown hmode haccepts s

/-- Nothing but the log shows that somebody has been asked who they are. -/
@[simp]
theorem authenticate_state {σ : Type} (c : CredentialStore)
    (credentials : Option (String × String)) (s : σ) :
    ((c.authenticate credentials).run s).state = s := by
  unfold authenticate verify
  cases c.mode with
  | anonymous => rfl
  | username =>
    cases credentials with
    | none => rfl
    | some pair =>
      cases haccepted : c.hasUser pair.1 pair.2 <;> simp [haccepted]

end CredentialStore

end ScalarServer
