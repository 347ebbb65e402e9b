import TokenBroker.Proofs.Engine.Move
import TokenBroker.Proofs.Exchange.Client
import TokenBroker.Proofs.Exchange.Registry

/-!
# Which client gets a request

A plan gives its request to the client that the engine has for the request's own grant type
(`Engine.dispatched_of_plan`), and from planning to the reply a call holds such a plan, with what
its client has sent (`Engine.Phase.Dispatched`). So the exchange of a plan always begins
(`Plan.Dispatched.exists_begin`).

A call is left without a plan in two cases: its registration is unattended and the engine has no
client for the grant, or an end user is needed (`Engine.plan_eq_error`).
-/

namespace TokenBroker

/-- The client of a plan is the one that an engine has for the grant of the request. -/
def Plan.Dispatched (e : Engine) (p : Plan) : Prop :=
  e.clients.find? p.request.grantType = some p.client

namespace Plan.Dispatched

variable {e : Engine} {p : Plan}

theorem grantType_eq (h : p.Dispatched e) : p.client.grantType = p.request.grantType :=
  Registry.grantType_of_find? h

/-- A plan that was dispatched can be begun. -/
theorem exists_begin (h : p.Dispatched e) : ∃ sent, p.client.begin p.request = .ok sent :=
  ExchangeClient.exists_begin h.grantType_eq

end Plan.Dispatched

namespace Engine

variable {e : Engine} {key : Key} {env : Surroundings} {s t : Shared} {p q : Phase}
  {r : ClientRegistration} {existing : Option AuthorizedClient} {pl : Plan} {f : Failure}

/-- Every plan the engine makes was dispatched. -/
theorem dispatched_of_plan (h : e.plan key r existing = .ok pl) : pl.Dispatched e := by
  unfold plan at h
  split at h
  · next unattended =>
    rw [GrantType.isUnattended_iff.1 unattended] at h
    unfold Registry.get at h
    cases served : e.clients.find? .clientCredentials with
    | none =>
      rw [served] at h
      cases h
    | some c =>
      rw [served] at h
      cases h
      exact served
  · split at h
    · split at h
      · next served =>
        cases h
        exact served
      · cases h
    · cases h

/-- Why a call has no plan. -/
theorem plan_eq_error (h : e.plan key r existing = .error f) :
    (r.grantType.isUnattended = true ∧ e.clients.find? r.grantType = none) ∨
      (r.grantType.isUnattended = false ∧
        f = .interactionRequired key.registrationId key.principalName r.grantType.name) := by
  unfold plan at h
  split at h
  · next unattended =>
    refine .inl ⟨unattended, ?_⟩
    unfold Registry.get at h
    cases served : e.clients.find? r.grantType with
    | none => rfl
    | some c =>
      rw [served] at h
      cases h
  · next attended =>
    refine .inr ⟨Bool.eq_false_iff.2 attended, ?_⟩
    split at h
    · split at h
      · cases h
      · cases h
        rfl
    · cases h
      rfl

/-- An end user is needed for an attended registration, unless a stored client has a refresh token
and there is a client that takes it. -/
theorem plan_eq_interactionRequired_iff : e.plan key r existing =
      .error (.interactionRequired key.registrationId key.principalName r.grantType.name) ↔
    r.grantType.isUnattended = false ∧
      ∀ c, existing = some c → c.refreshToken = none ∨ e.clients.find? .refreshToken = none := by
  constructor
  · intro h
    rcases plan_eq_error h with ⟨unattended, missing⟩ | ⟨attended, -⟩
    · simp [plan, unattended, Registry.get, missing, Failure.wiring, Failure.of, Except.map] at h
    · refine ⟨attended, ?_⟩
      rintro c rfl
      cases token : c.refreshToken with
      | none => exact .inl rfl
      | some t =>
        cases served : e.clients.find? .refreshToken with
        | none => exact .inr rfl
        | some d => simp [plan, attended, token, served] at h
  · rintro ⟨attended, unrenewable⟩
    cases existing with
    | none => simp [plan, attended]
    | some c => rcases unrenewable c rfl with none | none <;> simp [plan, attended, none]

/-- An engine has a client for every unattended registration that it finds. -/
def ServesUnattended (e : Engine) : Prop :=
  ∀ id r, e.source.find? id = some r → r.grantType.isUnattended = true →
    ∃ c, e.clients.find? r.grantType = some c

/-- One client serves all unattended registrations. -/
theorem servesUnattended_of_client (served : (e.clients.find? .clientCredentials).isSome) :
    e.ServesUnattended := by
  intro id r found unattended
  rw [GrantType.isUnattended_iff.1 unattended]
  exact Option.isSome_iff_exists.1 served

/-- An engine that serves all unattended registrations lacks a plan only where an end user is
needed. -/
theorem ServesUnattended.plan_eq_error (served : e.ServesUnattended)
    (registered : e.source.find? key.registrationId = some r)
    (h : e.plan key r existing = .error f) :
    r.grantType.isUnattended = false ∧
      f = .interactionRequired key.registrationId key.principalName r.grantType.name := by
  rcases Engine.plan_eq_error h with ⟨unattended, missing⟩ | needsUser
  · obtain ⟨c, found⟩ := served _ r registered unattended
    rw [missing] at found
    cases found
  · exact needsUser

/-- A phase holds a plan that gives its request to the right client, and what that client has
sent. -/
def Phase.Dispatched (e : Engine) : Phase → Prop
  | .stamping _ pl | .sending _ pl _ => pl.Dispatched e
  | .receiving _ pl _ sent _ => pl.Dispatched e ∧ pl.client.begin pl.request = .ok sent
  | _ => True

/-- A call begins with nothing that was not dispatched. -/
theorem dispatched_start (e : Engine) (key : Key) : (e.start key).Dispatched e := by
  unfold start
  split <;> trivial

/-- A call goes on with a plan that was dispatched. -/
theorem dispatched_proceed (e : Engine) (key : Key) (r : ClientRegistration) (a : Nat)
    (existing : Option AuthorizedClient) : (e.proceed key r a existing).Dispatched e := by
  rcases proceed_cases e key r a existing with ⟨pl, planned, h⟩ | ⟨f, -, h⟩
  · rw [h]
    exact dispatched_of_plan planned
  · rw [h]
    trivial

/-- A step leaves the plan of a call dispatched. -/
theorem Move.dispatched (h : Move e key env s p t q) (hp : p.Dispatched e) : q.Dispatched e := by
  cases h with
  | reloadsNone | rejudgesExpired => exact dispatched_proceed e key _ _ _
  | stamps => exact hp
  | sends begun => exact ⟨hp, begun⟩
  | _ => trivial

end Engine

end TokenBroker
