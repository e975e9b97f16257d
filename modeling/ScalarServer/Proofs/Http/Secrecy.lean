import ScalarServer.Proofs.Credentials
import ScalarServer.Proofs.Http.Handlers

/-!
# What strangers learn

Where users have to say who they are, a request for nodes by anyone else is answered without a look
at the nodes: the response shows nothing but whether the request had credentials at all, and
nothing is changed. Where nobody has to say who they are, it makes no difference what a request
says about that.

- `refusal`: the response to a stranger;
- `respond_of_stranger`: a stranger gets it, whatever is requested of whichever nodes;
- `respond_of_anonymous`: requests that differ in nothing but the authorization are answered alike;
- `strangers_learn_nothing`: both, for two servers with the same users.
-/

namespace ScalarServer.Http

variable {v : Service} {s : AddressSpace} {r r' : Request}

/-! ## Strangers -/

/-- Whether a request is for the list of all variables or for one of them. -/
def Request.AsksForNodes (r : Request) : Prop :=
  ∃ route, route? r.path = some route ∧ route ≠ .health

/-- The response to a request for nodes by someone who is no user. -/
def refusal (r : Request) : Response :=
  let response := Response.ofError (CredentialStore.complaint r.credentials?)
  if r.method = .head then response.withoutBody else response

/-- It says that the client has to say who it is. -/
theorem refusal_status (r : Request) : (refusal r).status = 401 := by
  unfold refusal
  split <;> rfl

/-- Whether there were credentials is all that makes a difference, apart from a response without a
body where none is wanted. -/
theorem refusal_congr (hhead : r.method = .head ↔ r'.method = .head)
    (hcredentials : r.credentials?.isSome = r'.credentials?.isSome) : refusal r = refusal r' := by
  unfold refusal CredentialStore.complaint
  simp only [hhead, hcredentials]

/-- Every request for nodes begins with the authentication. -/
theorem exists_respondRoute_eq {route : Route} (hroute : route ≠ .health) (v : Service)
    (r : Request) : ∃ a, respondRoute v r route =
      (do v.credentials.authenticate r.credentials?; a : Action AddressSpace Response) := by
  cases route with
  | health => exact absurd rfl hroute
  | nodes =>
    cases hmethod : r.method with
    | get | head => exact ⟨listNodes, by simp only [respondRoute, hmethod]⟩
    | put | other => exact ⟨pure (.plain 405), by simp only [respondRoute, hmethod]⟩
  | node path => exact ⟨_, rfl⟩

/-- A stranger is refused, whatever is requested of whichever nodes. -/
theorem respond_of_stranger (hnodes : r.AsksForNodes) (hmode : v.credentials.mode = .username)
    (hunknown : ¬ v.credentials.Accepts r.credentials?) (s : AddressSpace) :
    ((respond v r).run s).result = .ok (refusal r) ∧ ((respond v r).run s).state = s := by
  obtain ⟨route, hroute, hhealth⟩ := hnodes
  obtain ⟨a, ha⟩ := exists_respondRoute_eq hhealth v r
  have hrefused := CredentialStore.authenticate_of_unknown hmode hunknown s
  simp [respond, hroute, ha, hrefused, refusal]

/-! ## Everyone -/

/-- Requests that differ in nothing but header fields for the authorization. -/
structure SameButAuthorization (r r' : Request) : Prop where
  /-- They have the same method, -/
  method_eq : r.method = r'.method
  /-- the same path, -/
  path_eq : r.path = r'.path
  /-- the same body, -/
  body_eq : r.body = r'.body
  /-- and the same other header fields. -/
  headers_eq : r.headers.filter (fun h => Text.lowercase h.1.toList != "authorization".toList) =
    r'.headers.filter (fun h => Text.lowercase h.1.toList != "authorization".toList)

/-- Header fields for the authorization are not looked at for another name. -/
theorem find?_header_filter {name : String} (hname : name ≠ "authorization")
    (headers : List (String × String)) :
    (headers.filter fun h => Text.lowercase h.1.toList != "authorization".toList).find?
        (fun h => Text.lowercase h.1.toList == name.toList) =
      headers.find? fun h => Text.lowercase h.1.toList == name.toList := by
  rw [List.find?_filter]
  congr 1
  funext h
  -- a field with the other name is not one for the authorization
  by_cases hfield : Text.lowercase h.1.toList = name.toList
  · have hother : name.toList ≠ "authorization".toList :=
      fun heq => hname (String.toList_inj.mp heq)
    simp only [hfield, bne_iff_ne.mpr hother, beq_self_eq_true, and_self, decide_true]
  · simp [hfield]

theorem SameButAuthorization.header?_eq (h : SameButAuthorization r r') {name : String}
    (hname : name ≠ "authorization") : r.header? name = r'.header? name := by
  unfold Request.header?
  rw [← find?_header_filter hname r.headers, h.headers_eq, find?_header_filter hname]

theorem SameButAuthorization.readBody_eq (h : SameButAuthorization r r') :
    readBody r = readBody r' := by
  rw [readBody, readBody, h.header?_eq (by decide), h.body_eq]

/-- Where nobody has to say who they are, such requests are answered alike, and do the same. -/
theorem respond_of_anonymous (hmode : v.credentials.mode = .anonymous)
    (h : SameButAuthorization r r') : respond v r = respond v r' := by
  have hnode : respondNode v r = respondNode v r' := by
    funext path
    unfold respondNode
    rw [h.method_eq, h.readBody_eq]
  have hroute : ∀ route, respondRoute v r route = respondRoute v r' route := by
    intro route
    unfold respondRoute
    simp only [CredentialStore.authenticate_of_anonymous hmode, h.method_eq, hnode]
  unfold respond
  simp only [h.path_eq, h.method_eq, hroute]

/-! ## Two servers with the same users -/

/-- Requests for nodes tell strangers nothing, and let them do nothing: any two servers with the
same users answer a stranger alike, and stay as they are. Where nobody has to say who they are,
what a request says about that does not matter to either of them. -/
theorem strangers_learn_nothing (v v' : Service) (hsame : v.credentials = v'.credentials)
    (hnodes : r.AsksForNodes) :
    (v.credentials.mode = .username → ¬ v.credentials.Accepts r.credentials? →
      (refusal r).status = 401 ∧
      (∀ r', (r.method = .head ↔ r'.method = .head) →
        r.credentials?.isSome = r'.credentials?.isSome → refusal r = refusal r') ∧
      ∀ s s' : AddressSpace,
        (((respond v r).run s).result = .ok (refusal r) ∧ ((respond v r).run s).state = s) ∧
        ((respond v' r).run s').result = .ok (refusal r) ∧ ((respond v' r).run s').state = s') ∧
    (v.credentials.mode = .anonymous → ∀ r', SameButAuthorization r r' →
      respond v r = respond v r' ∧ respond v' r = respond v' r') := by
  constructor
  · intro hmode hunknown
    refine ⟨refusal_status r, fun r' => refusal_congr, fun s s' => ?_⟩
    exact ⟨respond_of_stranger hnodes hmode hunknown s,
      respond_of_stranger hnodes (hsame ▸ hmode) (hsame ▸ hunknown) s'⟩
  · intro hmode r' hrequests
    exact ⟨respond_of_anonymous hmode hrequests, respond_of_anonymous (hsame ▸ hmode) hrequests⟩

/-- A request to write, with a wrong name and password. -/
def stranger : Request :=
  ⟨.put, "/nodes/Plant/Speed", [("Authorization", "Basic eDp5")], ""⟩

/-- Two servers with the users of the default configuration refuse a wrong password in the same
words; a server that lets everyone in answers the same request as if it had none. -/
theorem strangers_learn_nothing_put :
    ((respond ⟨.ofConfig .default, 2, "a"⟩ stranger).run .empty).result =
        .ok (.ofError (.authFailed "invalid username or password")) ∧
      ((respond ⟨.ofConfig .default, 7, "b"⟩ stranger).run
        { AddressSpace.empty with clock := 1 }).result =
        .ok (.ofError (.authFailed "invalid username or password")) ∧
      respond ⟨.anonymous, 2, "a"⟩ stranger =
        respond ⟨.anonymous, 2, "a"⟩ { stranger with headers := [] } := by
  have hnodes : stranger.AsksForNodes := ⟨.node "Plant/Speed".toList, rfl, by decide⟩
  have hcredentials : stranger.credentials? = some ("x", "y") := rfl
  have hunknown : ¬ (CredentialStore.ofConfig .default).Accepts stranger.credentials? := by
    rw [hcredentials]
    decide
  have hsecret := (strangers_learn_nothing ⟨.ofConfig .default, 2, "a"⟩
    ⟨.ofConfig .default, 7, "b"⟩ rfl hnodes).1 rfl hunknown
  obtain ⟨⟨hfirst, -⟩, hsecond, -⟩ := hsecret.2.2 .empty { AddressSpace.empty with clock := 1 }
  refine ⟨hfirst, hsecond, ?_⟩
  exact ((strangers_learn_nothing ⟨.anonymous, 2, "a"⟩ ⟨.anonymous, 2, "a"⟩ rfl hnodes).2 rfl _
    ⟨rfl, rfl, rfl, rfl⟩).1

end ScalarServer.Http
