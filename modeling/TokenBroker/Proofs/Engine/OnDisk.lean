import TokenBroker.Proofs.Engine.Likeness
import TokenBroker.Proofs.Store.OnDisk

/-!
# Steps on either kind of store

A call whose store is on disk loads clients without their secret. It takes the same steps as one
whose store is in memory (`step_onDisk`): a stored client is judged by its access token, a refresh
takes its tokens alone, and what is returned or sent is made of the registration that is configured.
Phases of the two calls differ in the stored clients that they hold (`Phase.onDisk`).
-/

namespace TokenBroker

/-- A plan in place of a client that was loaded from disk. -/
def Plan.onDisk (p : Plan) : Plan :=
  { p with previous := p.previous.map AuthorizedClient.withoutSecret }

namespace Engine

variable {e : Engine} {key : Key} {env : Surroundings} {s : Shared}

/-- The phase of a call that holds clients loaded from disk. -/
def Phase.onDisk : Phase → Phase
  | .judging r c => .judging r c.withoutSecret
  | .rejudging r a c => .rejudging r a c.withoutSecret
  | .stamping a p => .stamping a p.onDisk
  | .sending a p issuedAt => .sending a p.onDisk issuedAt
  | .receiving a p issuedAt sent ticket => .receiving a p.onDisk issuedAt sent ticket
  | p => p

/-- What calls share whose store is on disk. -/
def Shared.onDisk (s : Shared) : Shared := { s with store := s.store.onDisk }

def Step.onDisk (x : Step) : Step := { x with shared := x.shared.onDisk, phase := x.phase.onDisk }

@[simp] theorem outcome?_onDisk (p : Phase) : p.onDisk.outcome? = p.outcome? := by
  cases p <;> rfl

theorem start_onDisk (e : Engine) (key : Key) : (e.start key).onDisk = e.start key := by
  unfold start
  cases e.source.find? key.registrationId <;> rfl

/-! ## The decisions of an engine -/

/-- Whether a client is usable does not depend on its secret. -/
theorem isUsable_withoutSecret (e : Engine) (c : AuthorizedClient) (now : DateTime) :
    e.isUsable c.withoutSecret now = e.isUsable c now := rfl

/-- The plan for a client without its secret is the plan, less the secret of that client. -/
theorem plan_onDisk (e : Engine) (key : Key) (r : ClientRegistration)
    (existing : Option AuthorizedClient) :
    e.plan key r (existing.map AuthorizedClient.withoutSecret) =
      (e.plan key r existing).map Plan.onDisk := by
  unfold plan
  split
  · cases e.clients.get r.grantType <;> rfl
  · cases existing with
    | none => rfl
    | some old =>
      obtain ⟨registration, principalName, accessToken, refreshToken⟩ := old
      cases refreshToken with
      | none => rfl
      | some token =>
        simp only [Option.map_some, AuthorizedClient.withoutSecret, AuthorizedClient.bind]
        cases e.clients.find? .refreshToken <;> rfl

/-- The client made of an answer is the same on disk. -/
theorem clientOf_onDisk (e : Engine) (key : Key) (p : Plan) (issuedAt : DateTime)
    (response : TokenResponse) :
    e.clientOf key p.onDisk issuedAt response = e.clientOf key p issuedAt response := by
  have kept : (p.onDisk.previous.bind (·.refreshToken)) = p.previous.bind (·.refreshToken) := by
    unfold Plan.onDisk
    cases p.previous <;> rfl
  unfold clientOf
  rw [kept]
  rfl

/-- A client is loaded from disk as it is from memory, less its secret. -/
theorem load_onDisk (h : s.store.kind = .memory) :
    load env s.onDisk key =
      (load env s key).map fun found =>
        (found.1.map AuthorizedClient.withoutSecret, found.2.1.onDisk, found.2.2) := by
  unfold load
  cases env.storeFault with
  | some fault => rfl
  | none =>
    simp only []
    split
    · rfl
    · simp only [Shared.onDisk, Store.load_onDisk h, Store.load_of_memory h]
      rfl

/-! ## Steps -/

/-- What a call holds whose store is on disk. -/
abbrev Likeness.onDisk : Likeness where
  stored c c' := c' = c.withoutSecret
  plan p p' := p' = p.onDisk

/-- A phase is like itself on disk. -/
theorem Phase.like_onDisk (p : Phase) : p.Like .onDisk Eq p.onDisk := by
  cases p <;> constructor <;> rfl

/-- What is like a phase on disk is that phase on disk. -/
theorem Phase.eq_onDisk {p p' : Phase} (h : p.Like .onDisk Eq p') : p' = p.onDisk := by
  cases h <;> simp_all [Phase.onDisk, Likeness.failure]

/-- An engine decides about a client from disk as it does about one from memory. -/
theorem decides_onDisk (e : Engine) (key : Key) : Likeness.onDisk.Decides e e key key where
  isUsable := by
    rintro c - rfl now
    rw [isUsable_withoutSecret]
    refine .refl ?_ ?_ _ <;> exact fun _ => rfl
  bind := by
    rintro r - c - rfl rfl
    rfl
  plan {r _ c _} registrations clients := by
    cases registrations
    have same := clients.eq_map fun _ _ h => h
    rw [same, plan_onDisk]
    refine .map ?_ ?_ _ <;> exact fun _ => rfl
  begin := by
    rintro p - rfl
    refine .refl (fun _ => ?_) (fun _ => ?_) (p.client.begin p.request)
    · rfl
    · exact ⟨rfl, rfl⟩
  grantType := by
    rintro p - rfl
    rfl
  refreshes := by
    rintro p - rfl
    unfold Plan.onDisk
    cases p.previous <;> rfl
  clientOf := by
    rintro p - response - rfl rfl issuedAt
    rw [clientOf_onDisk]
    refine .refl ?_ ?_ _ <;> exact fun _ => rfl
  expiresAt := by
    rintro c - rfl
    rfl

theorem meets_onDisk (env : Surroundings) : Likeness.onDisk.Meets env env where
  now := rfl
  storeFault := .refl (fun _ => rfl) _
  ticketOf := by
    rintro sent - rfl
    rfl
  result := by
    rintro sent - rfl
    refine .refl ?_ ?_ _ <;> exact fun _ => rfl

/-- A store on disk serves the steps of a call as one in memory does. -/
theorem shares_onDisk (h : s.store.kind = .memory) (env : Surroundings) (key : Key) :
    Likeness.onDisk.Shares key key env env Eq (fun u u' => u' = u.onDisk)
      (fun _ _ => Eq) s s.onDisk where
  kept := rfl
  grown _ number := number
  load := by
    rw [load_onDisk h]
    refine .map (fun _ => rfl) (fun found => ⟨Option.Rel.map ?_ found.1, rfl, rfl⟩) _
    exact fun _ => rfl
  taken := .refl (fun _ => rfl) _
  take := ⟨rfl, rfl⟩
  outcome := by
    rintro a - rfl
    exact .refl (.refl fun _ => rfl) _
  remove := by simp [Shared.onDisk, Store.remove_onDisk h]
  save := by
    rintro c - rfl
    simp [Shared.onDisk, Store.save_onDisk h]
  publish := by
    rintro a - o - rfl rfl
    rfl
  giveBack := rfl

/-- A call on disk takes the steps it takes in memory. -/
theorem step_onDisk (h : s.store.kind = .memory) (p : Phase) :
    e.step key env s.onDisk p.onDisk = (e.step key env s p).map Step.onDisk := by
  have raises : Likeness.onDisk.Raises key key :=
    .of_eq rfl (fun _ => rfl) fun _ _ => congrArg Except.ok
  have steps := Likeness.Lasts.step
    ⟨decides_onDisk e key, raises, .of_eq rfl rfl, meets_onDisk env, shares_onDisk h env key⟩
      p.like_onDisk
  refine steps.eq_map ?_
  rintro ⟨u, p, log⟩ ⟨u', p', log'⟩ ⟨shared, phases, logged⟩
  cases shared
  cases Phase.eq_onDisk phases
  cases logged
  rfl

end Engine

end TokenBroker
