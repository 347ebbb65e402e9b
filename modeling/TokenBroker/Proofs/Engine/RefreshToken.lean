import TokenBroker.Proofs.Endpoint.TokenResponse
import TokenBroker.Proofs.Engine.Move
import TokenBroker.Proofs.Store.Written

/-!
# The refresh token that a call holds

A call whose registration needs an end user and whose engine has the built-in clients holds one
refresh token: that of the client which it has loaded (`carries_plan`), in the request that it sends
(`sends_of_begin`). Its steps keep it (`Move.carries`) up to the reply, which may bring another one
for the client that is made then (`Move.carries_of_receiving`).
-/

namespace TokenBroker

/-- The refresh token in the form of a request, which has no other. -/
def HttpRequest.Sends (http : HttpRequest) (token : String) : Prop :=
  http.form.filter (·.1 = "refresh_token") = [("refresh_token", token)]

/-- A client has a refresh token of a value. -/
def AuthorizedClient.Carries (c : AuthorizedClient) (token : String) : Prop :=
  c.refreshToken.map (·.value) = some token

/-- A plan sends the refresh token of a client that has it. -/
def Plan.Carries (p : Plan) (token : String) : Prop :=
  ∃ settings reg access refresh old,
    p = ⟨.refreshToken settings, .refreshToken reg access refresh, some old⟩ ∧
      refresh.value = token ∧ old.Carries token

/-- A client keeps its refresh token in either store. -/
theorem AuthorizedClient.carries_kept {c : AuthorizedClient} {token : String} (kind : StoreKind) :
    (Store.kept kind c).Carries token ↔ c.Carries token := by
  cases kind <;> rfl

namespace Engine

variable {e : Engine} {key : Key} {env : Surroundings} {s t : Shared} {p q : Phase} {token : String}

/-! ## Plans, requests and clients -/

/-- A plan for an attended grant is a plan to refresh. -/
theorem client_of_plan {reg : ClientRegistration} {existing : Option AuthorizedClient} {pl : Plan}
    (h : e.plan key reg existing = .ok pl) (attended : reg.grantType.isUnattended = false) :
    e.clients.find? .refreshToken = some pl.client := by
  unfold plan at h
  rw [attended] at h
  cases existing with
  | none => cases h
  | some old =>
    cases refresh : old.refreshToken with
    | none => simp only [refresh] at h; cases h
    | some t =>
      cases client : e.clients.find? .refreshToken with
      | none => simp only [refresh, client] at h; cases h
      | some c =>
        simp only [refresh, client] at h
        cases h
        rfl

/-- A plan for a registration that needs an end user is a refresh of the stored client. -/
theorem plan_eq_refresh {reg : ClientRegistration} {existing : Option AuthorizedClient} {pl : Plan}
    {settings : RequestSettings} (h : e.plan key reg existing = .ok pl)
    (attended : reg.grantType.isUnattended = false) (builtIn : e.clients = .builtIn settings) :
    ∃ old refresh, existing = some old ∧ old.refreshToken = some refresh ∧
      pl = ⟨.refreshToken settings, .refreshToken reg old.accessToken refresh, some old⟩ := by
  have client : pl.client = .refreshToken settings := by
    have found := client_of_plan h attended
    rw [builtIn] at found
    exact (Option.some.inj found).symm
  rcases plan_eq_ok h with ⟨unattended, -, -⟩ | ⟨-, old, refresh, stored, has, request, previous⟩
  · rw [attended] at unattended
    cases unattended
  · refine ⟨old, refresh, stored, has, ?_⟩
    rw [← client, ← request, ← previous]

/-- A plan that replaces a client carries the client's refresh token. -/
theorem carries_plan {reg : ClientRegistration} {existing : Option AuthorizedClient} {pl : Plan}
    {settings : RequestSettings} (h : e.plan key reg existing = .ok pl)
    (attended : reg.grantType.isUnattended = false) (builtIn : e.clients = .builtIn settings)
    (carried : ∀ c, existing = some c → c.Carries token) : pl.Carries token := by
  obtain ⟨old, refresh, stored, has, rfl⟩ := plan_eq_refresh h attended builtIn
  have old_carries := carried old stored
  refine ⟨settings, reg, old.accessToken, refresh, old, rfl, ?_, old_carries⟩
  unfold AuthorizedClient.Carries at old_carries
  rw [has] at old_carries
  exact Option.some.inj old_carries

/-- The client of a response carries its refresh token, or the old one if it has none. -/
theorem carries_clientOf {pl : Plan} {issuedAt : DateTime} {response : TokenResponse}
    {c : AuthorizedClient} (made : e.clientOf key pl issuedAt response = .ok c)
    (carried : pl.Carries token) : c.Carries (response.refreshToken.getD token) := by
  obtain ⟨settings, reg, access, refresh, old, rfl, -, old_carries⟩ := carried
  unfold clientOf at made
  cases hs : issuedAt.shift? (response.expiresIn.getD e.policy.defaultLifetime * 1000000) with
  | none => simp only [hs] at made; cases made
  | some expiresAt =>
    simp only [hs] at made
    cases made
    cases response.refreshToken with
    | none => exact old_carries
    | some text => rfl

/-- A request that carries a refresh token sends it. -/
theorem sends_of_begin {pl : Plan} {sent : Transmission} (carried : pl.Carries token)
    (begun : pl.client.begin pl.request = .ok sent) :
    ∃ http scopes, sent = .post http scopes ∧ http.Sends token := by
  obtain ⟨settings, reg, access, refresh, old, rfl, rfl, -⟩ := carried
  cases begun
  refine ⟨_, _, rfl, ?_⟩
  unfold HttpRequest.Sends
  simp only [TokenRequest.build, GrantRequest.parameters, GrantRequest.registration,
    TokenRequest.scopeFields, TokenRequest.credentialFields]
  cases access.scopes.isEmpty <;> cases reg.authentication <;> simp

/-! ## Phases -/

/-- A phase in which a call for the key holds something with a refresh token holds this one. -/
def Phase.Carries (token : String) : Phase → Prop
  | .rejudging _ _ c | .saving _ _ c => c.Carries token
  | .stamping _ pl | .sending _ pl _ => pl.Carries token
  | .receiving _ pl _ sent _ =>
    pl.Carries token ∧ ∃ http scopes, sent = .post http scopes ∧ http.Sends token
  | .dropping .. => False
  | _ => True

/-- Only leaders hold something. -/
theorem Phase.carries_of_leads? (h : p.leads? = none) : p.Carries token := by
  cases p with
  | loading | judging | claiming | waiting | finished => trivial
  | _ => cases h

/-- A call begins without a client that could carry another token. -/
theorem carries_start (e : Engine) (key : Key) : (e.start key).Carries token := by
  unfold start
  cases e.source.find? key.registrationId <;> trivial

/-- A call goes on with the refresh token of the stored client. -/
theorem carries_proceed {reg : ClientRegistration} {a : Nat} {existing : Option AuthorizedClient}
    {settings : RequestSettings} (attended : reg.grantType.isUnattended = false)
    (builtIn : e.clients = .builtIn settings) (carried : ∀ c, existing = some c → c.Carries token) :
    (e.proceed key reg a existing).Carries token := by
  rcases proceed_cases e key reg a existing with ⟨pl, planned, h⟩ | ⟨f, -, h⟩
  · rw [h]
    exact carries_plan planned attended builtIn carried
  · rw [h]
    trivial

/-- A call in this phase is about to save a client. -/
def Phase.isSaving : Phase → Bool
  | .saving .. => true
  | _ => false

/-- A call that is saving has a client to save. -/
theorem Phase.eq_saving (h : p.isSaving = true) : ∃ a g c, p = .saving a g c := by
  cases p with
  | saving a g c => exact ⟨a, g, c, rfl⟩
  | _ => cases h

/-- A step keeps the token, unless it takes the reply to an exchange. -/
theorem Move.carries {settings : RequestSettings} (move : Move e key env s p t q)
    (own : p.BelongsTo e key)
    (attended : ∀ reg, e.source.find? key.registrationId = some reg →
      reg.grantType.isUnattended = false)
    (builtIn : e.clients = .builtIn settings) (carried : p.Carries token)
    (entry : ∀ c, s.store.entry key = some c → p.leads?.isSome → p.isSaving = false →
      c.Carries token)
    (notReceiving : ∀ a pl issuedAt sent ticket, p ≠ .receiving a pl issuedAt sent ticket) :
    q.Carries token := by
  cases move with
  | reloadsNone =>
    refine carries_proceed (attended _ own) builtIn ?_
    rintro c ⟨⟩
  | reloadsSome loads => exact entry _ loads.entry_eq rfl rfl
  | rejudgesExpired =>
    refine carries_proceed (attended _ own) builtIn ?_
    rintro c ⟨⟩
    exact carried
  | stamps => exact carried
  | sends begun => exact ⟨carried, sends_of_begin carried begun⟩
  | @obtains a pl issuedAt sent ticket | @isRefused a pl issuedAt sent ticket
  | @fails a pl issuedAt sent ticket => exact absurd rfl (notReceiving a pl issuedAt sent ticket)
  | _ => trivial

/-- An exchange that succeeds hands on the refresh token of its answer, or the one it has sent. -/
theorem Move.carries_of_receiving {a : Nat} {pl : Plan} {issuedAt : DateTime} {sent : Transmission}
    {ticket : Nat} (move : Move e key env s (.receiving a pl issuedAt sent ticket) t q)
    (carried : (Phase.receiving a pl issuedAt sent ticket).Carries token) :
    (∃ g c answer, q = .saving a g c ∧ env.reply = .answer answer ∧
        c.Carries ((answer.member? "refresh_token").getD token)) ∨
      (∃ f, env.result sent = .error (.failure f) ∧ f.isInvalidGrant = true) ∨
      ∃ fault, q = .publishing a (.error fault) := by
  cases move with
  | @obtains _ _ _ _ _ response c answered made =>
    obtain ⟨planned, http, scopes, rfl, -⟩ := carried
    cases reply : env.reply with
    | answer answer =>
      simp only [Surroundings.result, reply, ExchangeClient.conclude] at answered
      refine .inl ⟨_, c, answer, rfl, rfl, ?_⟩
      rw [← TokenResponse.refreshToken_of_ofAnswer answered]
      exact carries_clientOf made planned
    | _ =>
      simp only [Surroundings.result, reply, ExchangeClient.conclude] at answered
      cases answered
  | isRefused answered _ refused => exact .inr (.inl ⟨_, answered, refused⟩)
  | fails => exact .inr (.inr ⟨_, rfl⟩)

end Engine

end TokenBroker
