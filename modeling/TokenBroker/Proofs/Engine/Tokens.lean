import TokenBroker.Engine.Phase
import TokenBroker.Proofs.Engine.Secrets
import TokenBroker.Proofs.Store.Tokens

/-!
# Steps of calls with other tokens

Two calls of one engine for one key, on stores that differ in tokens at most, with replies that do.
They stay at phases that differ in tokens at most (`Phase.SameButTokens`): from such phases they
take the same step (`step_tokens`), leave stores that differ in tokens at most, log the same and
fail alike. Nothing that a step decides on looks at the value of a token, and nothing that it logs
quotes one.
-/

namespace TokenBroker

/-- Where errors are related to themselves. -/
theorem Except.Rel.like {ε α β : Type} {F : ε → ε → Prop} {R : α → β → Prop} {x : Except ε α}
    {x' : Except ε β} (h : Except.Rel R x x') (errors : ∀ y, F y y) : Except.Like F R x x' := by
  cases h with
  | error y => exact .error (errors y)
  | ok related => exact .ok related

/-! ## What calls hold -/

/-- Two requests that differ in tokens at most. -/
inductive GrantRequest.SameButTokens : GrantRequest → GrantRequest → Prop
  | clientCredentials (r : ClientRegistration) : SameButTokens (.clientCredentials r)
      (.clientCredentials r)
  | refreshToken (r : ClientRegistration) {access access' : AccessToken}
      (same : access.SameButValue access')
      (token token' : RefreshToken) : SameButTokens (.refreshToken r access token)
        (.refreshToken r access' token')

/-- Two requests that have been sent to one place and for the same scopes, or to one plug-in. -/
inductive Transmission.SameButTokens : Transmission → Transmission → Prop
  | post {http http' : HttpRequest} (url : http'.url = http.url) (scopes : List String) :
      SameButTokens (.post http scopes) (.post http' scopes)
  | ask (number : Nat) : SameButTokens (.ask number) (.ask number)

/-- Two plans for requests that differ in tokens at most. -/
structure Plan.SameButTokens (p p' : Plan) : Prop where
  client : p'.client = p.client
  request : p.request.SameButTokens p'.request
  previous : Option.Rel AuthorizedClient.SameButTokens p.previous p'.previous

/-- Two outcomes: the same fault, or clients that differ in tokens at most. -/
def Outcome.SameButTokens : Outcome → Outcome → Prop := Except.Rel AuthorizedClient.SameButTokens

namespace GrantRequest.SameButTokens

variable {q q' : GrantRequest} (h : q.SameButTokens q')
include h

theorem registration : q'.registration = q.registration := by cases h <;> rfl

theorem grantType : q'.grantType = q.grantType := by cases h <;> rfl

theorem requestedScopes : q'.requestedScopes = q.requestedScopes := by
  cases h with
  | clientCredentials => rfl
  | refreshToken r same => exact same.scopes

/-- A client refuses both, or sends both to one place. -/
theorem begins (c : ExchangeClient) : Except.Rel Transmission.SameButTokens (c.begin q)
    (c.begin q') := by
  have scopes := h.requestedScopes
  cases h with
  | clientCredentials r =>
    cases c with
    | clientCredentials => exact .ok (.post rfl _)
    | refreshToken => exact .error _
    | plugin => exact .ok (.ask _)
  | refreshToken r same =>
    cases c with
    | clientCredentials => exact .error _
    | refreshToken =>
      unfold ExchangeClient.begin
      simp only [scopes]
      exact .ok (.post (by rfl) _)
    | plugin => exact .ok (.ask _)

/-- What is logged of a request does not show its tokens. -/
theorem logOfBegin {sent sent' : Transmission} (same : sent.SameButTokens sent') :
    ExchangeClient.logOfBegin q' sent' = ExchangeClient.logOfBegin q sent := by
  cases same with
  | post url => simp only [ExchangeClient.logOfBegin, url, h.registration, h.grantType]
  | ask => rfl

end GrantRequest.SameButTokens

namespace Engine

/-- What calls with other tokens hold. -/
abbrev Likeness.tokens : Likeness where
  stored := AuthorizedClient.SameButTokens
  made := AuthorizedClient.SameButTokens
  plan := Plan.SameButTokens
  sent := Transmission.SameButTokens
  response := TokenResponse.SameButTokens
  outcome := Outcome.SameButTokens

/-- Two phases of calls for one key that differ in tokens at most. -/
abbrev Phase.SameButTokens : Phase → Phase → Prop := Phase.Like .tokens Eq

/-- What calls share: stores and outcomes that differ in tokens at most, and the same keys in
flight. -/
structure Shared.SameButTokens (s s' : Shared) : Prop where
  store : s.store.SameButTokens s'.store
  inFlight : s'.inFlight = s.inFlight
  outcomes : List.Forall₂ (Option.Rel Outcome.SameButTokens) s.outcomes s'.outcomes

/-- Two surroundings whose replies differ in tokens at most. -/
def Surroundings.SameButTokens (env env' : Surroundings) : Prop :=
  ∃ reply, env.reply.SameButTokens reply ∧ env' = { env with reply }

/-- What two steps lead to. -/
abbrev Step.SameButTokens : Step → Step → Prop :=
  Step.Like .tokens Shared.SameButTokens fun _ _ => Eq

variable {e : Engine} {key : Key} {env env' : Surroundings} {s s' : Shared} {p p' : Phase}
  {q q' : Plan} {c c' : AuthorizedClient}

/-! ## The decisions of an engine -/

/-- Whether a client is usable does not depend on its tokens. -/
theorem isUsable_tokens (h : c.SameButTokens c') (now : DateTime) :
    e.isUsable c' now = e.isUsable c now := by
  simp only [isUsable, AccessToken.isExpired, h.accessToken.expiresAt]

/-- The plans for clients that differ in their tokens only differ in the tokens only. -/
theorem plan_tokens (e : Engine) (key : Key) (r : ClientRegistration)
    {c c' : Option AuthorizedClient} (h : Option.Rel AuthorizedClient.SameButTokens c c') :
    Except.Rel Plan.SameButTokens (e.plan key r c) (e.plan key r c') := by
  unfold plan
  split
  · cases e.clients.get r.grantType with
    | error f => exact .error f
    | ok client => exact .ok ⟨rfl, .clientCredentials r, .none⟩
  · cases h with
    | none => exact .error _
    | @some old old' clients =>
      have tokens := clients.refreshToken
      simp only []
      revert tokens
      generalize old.refreshToken = t, old'.refreshToken = t'
      rintro (⟨-⟩ | _)
      · cases e.clients.find? .refreshToken with
        | none => exact .error _
        | some client => exact .ok ⟨rfl, .refreshToken r clients.accessToken _ _, .some clients⟩
      · exact .error _

/-- The clients made of responses that differ in their tokens only differ in the tokens only. -/
theorem clientOf_tokens (e : Engine) (key : Key) (plans : q.SameButTokens q') (issuedAt : DateTime)
    {response response' : TokenResponse} (h : response.SameButTokens response') :
    Except.Rel AuthorizedClient.SameButTokens (e.clientOf key q issuedAt response)
      (e.clientOf key q' issuedAt response') := by
  unfold clientOf
  simp only [h.expiresIn]
  split
  · exact .error _
  · refine .ok ⟨plans.request.registration, rfl, ⟨h.accessToken, h.tokenType, h.scopes, rfl, rfl⟩,
      ?_⟩
    -- without a new refresh token the previous one is kept
    have refreshes := h.refreshToken
    revert refreshes
    generalize response.refreshToken = t, response'.refreshToken = t'
    intro refreshes
    cases t with
    | some t =>
      cases t' with
      | some t' => exact .some rfl
      | none => cases refreshes
    | none =>
      cases t' with
      | some t' => cases refreshes
      | none =>
        have previous := plans.previous
        simp only []
        revert previous
        generalize q.previous = c, q'.previous = c'
        rintro (⟨clients⟩ | _)
        · exact clients.refreshToken
        · exact .none

/-- An engine decides about clients without looking at their tokens. -/
theorem decides_tokens (e : Engine) (key : Key) : Likeness.tokens.Decides e e key key where
  isUsable clients now := by
    rw [isUsable_tokens clients]
    refine .refl ?_ ?_ _ <;> exact fun _ => rfl
  bind {r _ _ _} registrations clients := by
    cases registrations
    exact clients.bind r
  plan {r _ _ _} registrations clients := by
    cases registrations
    exact (plan_tokens e key r clients).like fun _ => rfl
  begin {q q'} plans := by
    have begins := plans.request.begins q.client
    rw [plans.client]
    revert begins
    generalize q.client.begin q.request = x, q.client.begin q'.request = x'
    rintro (⟨f⟩ | ⟨same⟩)
    · exact .error rfl
    · exact .ok ⟨same, (plans.request.logOfBegin same).symm⟩
  grantType plans := plans.request.grantType
  refreshes plans := Option.isSome_of_rel plans.previous
  clientOf plans responses issuedAt :=
    (clientOf_tokens e key plans issuedAt responses).like fun _ => rfl
  expiresAt clients := clients.accessToken.expiresAt

/-- No fault names a token. -/
theorem raises_tokens (key : Key) : Likeness.tokens.Raises key key :=
  .of_eq rfl .error fun _ _ => .ok

/-- No entry of the log names a token. -/
theorem logs_tokens (key : Key) : Likeness.tokens.Logs key key := .of_eq rfl rfl

/-- What comes of an exchange. -/
theorem result_tokens (h : env.SameButTokens env') {sent sent' : Transmission}
    (same : sent.SameButTokens sent') :
    Except.Rel TokenResponse.SameButTokens (env.result sent) (env'.result sent') := by
  obtain ⟨reply, replies, rfl⟩ := h
  cases same with
  | post url scopes =>
    simp only [Surroundings.result, url]
    exact ExchangeClient.conclude_tokens replies _ scopes
  | ask =>
    simp only [Surroundings.result]
    cases env.response with
    | error fault => exact .error fault
    | ok response => exact .ok (.refl response)

theorem meets_tokens (h : env.SameButTokens env') : Likeness.tokens.Meets env env' := by
  constructor
  case result => exact fun same => (result_tokens h same).like fun _ => rfl
  all_goals obtain ⟨reply, -, rfl⟩ := h
  case now => rfl
  case storeFault => exact .refl (fun _ => rfl) _
  case ticketOf =>
    intro sent sent' same
    cases same <;> rfl

/-! ## What calls share -/

namespace Shared.SameButTokens

variable (h : s.SameButTokens s')
include h

theorem length : s'.outcomes.length = s.outcomes.length := h.outcomes.length_eq.symm

theorem remove (key : Key) :
    SameButTokens { s with store := s.store.remove key } { s' with store := s'.store.remove key } :=
  ⟨h.store.remove key, h.inFlight, h.outcomes⟩

theorem save (clients : c.SameButTokens c') :
    SameButTokens { s with store := s.store.save c } { s' with store := s'.store.save c' } :=
  ⟨h.store.save clients, h.inFlight, h.outcomes⟩

/-- What is loaded differs in the tokens only. -/
theorem load (envs : env.SameButTokens env') (key : Key) :
    Except.Like Eq
      (fun x x' => Option.Rel AuthorizedClient.SameButTokens x.1 x'.1 ∧
        x.2.1.SameButTokens x'.2.1 ∧ x.2.2 = x'.2.2)
      (Engine.load env s key) (Engine.load env' s' key) := by
  obtain ⟨reply, -, rfl⟩ := envs
  unfold Engine.load
  cases env.storeFault with
  | some fault => exact .error rfl
  | none =>
    cases env.hidden with
    | true => exact .ok ⟨.none, h, rfl⟩
    | false =>
      obtain ⟨clients, stores, log⟩ := h.store.load key
      exact .ok ⟨clients, ⟨stores, h.inFlight, h.outcomes⟩, log.symm⟩

/-- A key is taken in both. -/
theorem take (key : Key) :
    SameButTokens
      { s with inFlight := s.inFlight.put key s.outcomes.length, outcomes := s.outcomes ++ [none] }
      { s' with
        inFlight := s'.inFlight.put key s'.outcomes.length
        outcomes := s'.outcomes ++ [none] } where
  store := h.store
  inFlight := by rw [h.inFlight, h.length]
  outcomes := List.rel_append h.outcomes (.cons .none .nil)

/-- Outcomes that differ in the tokens only are published in both. -/
theorem publish (a : Nat) {o o' : Outcome} (outcomes : Outcome.SameButTokens o o') :
    SameButTokens { s with outcomes := s.outcomes.set a (some o) }
      { s' with outcomes := s'.outcomes.set a (some o') } :=
  ⟨h.store, h.inFlight, h.outcomes.set a (.some outcomes)⟩

/-- The key is given back in both. -/
theorem giveBack (key : Key) :
    SameButTokens { s with inFlight := s.inFlight.erase key }
      { s' with inFlight := s'.inFlight.erase key } :=
  ⟨h.store, by rw [h.inFlight], h.outcomes⟩

/-- Shared states that differ in the tokens only serve the steps of a call alike. -/
theorem shares (envs : env.SameButTokens env') (key : Key) :
    Likeness.tokens.Shares key key env env' Eq SameButTokens (fun _ _ => Eq) s s' where
  kept := h
  grown _ number := number
  load := h.load envs key
  taken := by
    rw [h.inFlight]
    exact .refl (fun _ => rfl) _
  take := ⟨h.take key, h.length.symm⟩
  outcome := by
    rintro a - rfl
    exact h.outcomes.getElem? a
  remove := h.remove key
  save clients := h.save clients
  publish := by
    rintro a - o o' rfl outcomes
    exact h.publish a outcomes
  giveBack := h.giveBack key

end Shared.SameButTokens

/-! ## Steps -/

/-- A call begins without a token. -/
theorem start_tokens (e : Engine) (key : Key) : (e.start key).SameButTokens (e.start key) := by
  unfold start
  split
  · exact .finished (.error _)
  · exact .loading rfl

/-- Calls that differ in their tokens only take steps that differ in the tokens only. -/
theorem step_tokens (e : Engine) (shared : s.SameButTokens s') (phases : p.SameButTokens p')
    (key : Key) (envs : env.SameButTokens env') :
    Option.Rel Step.SameButTokens (e.step key env s p) (e.step key env' s' p') :=
  Likeness.Lasts.step
    ⟨decides_tokens e key, raises_tokens key, logs_tokens key, meets_tokens envs,
      shared.shares envs key⟩
    phases

end Engine

end TokenBroker
