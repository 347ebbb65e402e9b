import Mathlib.Logic.Function.Basic
import TokenBroker.Proofs.Engine.Lifetime
import TokenBroker.Proofs.Exchange.Client
import TokenBroker.Proofs.Exchange.Registry
import TokenBroker.Proofs.Service.Basic
import TokenBroker.Proofs.Store.Written

/-!
# The cache of clients

A service as its callers may think of it: a map from keys to clients, a time, and what has been
sent. A resolution is one step of it (`Cache.Resolves`). The registration is looked up first; a
client that is good at the time of the call is given out as it is, under its registration. Otherwise
there is one exchange or none: the grant of an unattended registration is run, whatever is stored;
for another one the refresh token of the stored client is used; else an end user is needed. What the
exchange brings decides what is stored from then on (`Cache.Concludes`).

There are no phases in this, no keys in flight, no second look into the store, and one clock that
goes on by itself. `Cache.Runs` is a run of operations, each with its answer. The rows of the
specification exclude each other: a resolution leaves nothing open but its times
(`Cache.Resolves.functional`).
-/

namespace TokenBroker

/-- What callers see of a service. -/
structure Cache where
  engine : Engine
  kind : StoreKind
  /-- The reply to the n-th request. -/
  transport : Nat → Delivery
  /-- The response of a plug-in to its n-th call. -/
  plugin : Nat → Nat → Except Fault TokenResponse
  entry : Key → Option AuthorizedClient
  now : DateTime
  sent : List HttpRequest
  asked : List Nat

namespace Engine

/-- A client is good at a time: it has no end, or its end is further away than the margin. -/
def Good (e : Engine) (c : AuthorizedClient) (now : DateTime) : Prop :=
  ∀ expiresAt, c.accessToken.expiresAt = some expiresAt → now.instant < expiresAt.instant - e.skew

/-- The end of a client less the margin is a time of the calendar. -/
def Dated (e : Engine) (c : AuthorizedClient) : Prop :=
  ∀ expiresAt, c.accessToken.expiresAt = some expiresAt →
    ∃ limit, expiresAt.shift? (-e.skew) = some limit

end Engine

/-- The client of a response, issued and expiring at the given times. A refresh token that the
response does not replace stays. -/
def Plan.issued (p : Plan) (key : Key) (issuedAt expiresAt : DateTime) (response : TokenResponse) :
    AuthorizedClient where
  registration := p.request.registration
  principalName := key.principalName
  accessToken :=
    { value := response.accessToken
      tokenType := response.tokenType
      scopes := response.scopes
      issuedAt := some issuedAt
      expiresAt := some expiresAt }
  refreshToken := (response.refreshToken.map (⟨·, some issuedAt⟩)).or
    (p.previous.bind (·.refreshToken))

namespace Cache

/-- The number of what is sent next, among what is sent to the same peer. -/
def nextTicket (s : Cache) : Transmission → Nat
  | .post .. => s.sent.length
  | .ask number => s.asked.count number

/-- What comes back for a transmission of a number. -/
def answer (s : Cache) (ticket : Nat) : Transmission → Except Fault TokenResponse
  | .post http scopes => ExchangeClient.conclude http.url scopes (s.transport ticket).reply
  | .ask number => s.plugin number ticket

/-- What comes back for what is sent next. -/
def answerTo (s : Cache) (t : Transmission) : Except Fault TokenResponse :=
  s.answer (s.nextTicket t) t

/-- When it comes back, by the time at which it is sent. -/
def arrival (s : Cache) (sentAt : DateTime) : Transmission → DateTime
  | .post .. => (sentAt.shift? (s.transport s.sent.length).elapsed).getD sentAt
  | .ask _ => sentAt

/-- The cache with one more thing sent. -/
def noting (s : Cache) : Transmission → Cache
  | .post http _ => { s with sent := s.sent ++ [http] }
  | .ask number => { s with asked := s.asked ++ [number] }

/-- There is no client for a key, or only one that has expired. -/
def Lacks (s : Cache) (key : Key) : Prop :=
  ∀ c, s.entry key = some c → s.engine.Dated c ∧ ¬ s.engine.Good c s.now

/-- The exchange that is due where no client is good. -/
inductive Due (s : Cache) (key : Key) (r : ClientRegistration) : Plan → Prop
  | unattended {client} (grant : r.grantType = .clientCredentials)
      (served : s.engine.clients.find? .clientCredentials = some client) :
      Due s key r ⟨client, .clientCredentials r, none⟩
  | refresh {old token client} (grant : r.grantType ≠ .clientCredentials)
      (stored : s.entry key = some old) (carries : old.refreshToken = some token)
      (served : s.engine.clients.find? .refreshToken = some client) :
      Due s key r ⟨client, .refreshToken r old.accessToken token, some old⟩

/-- No exchange can be made for an interactive registration. -/
structure NeedsUser (s : Cache) (key : Key) (r : ClientRegistration) : Prop where
  grant : r.grantType ≠ .clientCredentials
  hopeless : ∀ old token, s.entry key = some old → old.refreshToken = some token →
    s.engine.clients.find? .refreshToken = none

/-- What is stored after an exchange and what the call ends with, by what comes back. -/
inductive Concludes (s : Cache) (key : Key) (p : Plan) (issuedAt : DateTime) :
    Except Fault TokenResponse → (Key → Option AuthorizedClient) → Outcome → Prop
  /-- The new client is saved and returned. -/
  | obtained {response expiresAt}
      (ends : issuedAt.shift? (s.engine.lifetimeOf response * 1000000) = some expiresAt) :
      Concludes s key p issuedAt (.ok response)
        (Function.update s.entry key
          (some (Store.kept s.kind (p.issued key issuedAt expiresAt response))))
        (.ok (p.issued key issuedAt expiresAt response))
  /-- The new client would last beyond the calendar. -/
  | endless {response}
      (ends : issuedAt.shift? (s.engine.lifetimeOf response * 1000000) = none) :
      Concludes s key p issuedAt (.ok response) s.entry (.error .dateOutOfRange)
  /-- The refresh token is dead, and so is the client that carries it. -/
  | refused {f} (exchange : f.isExchangeFailure = true) (refreshing : p.previous.isSome = true)
      (dead : f.isInvalidGrant = true) :
      Concludes s key p issuedAt (.error (.failure f)) (Function.update s.entry key none)
        (.error (.failure (.acquisitionFailed key.registrationId f true)))
  /-- The exchange fails otherwise. -/
  | failed {f} (exchange : f.isExchangeFailure = true)
      (alive : p.previous.isSome = true → f.isInvalidGrant = false) :
      Concludes s key p issuedAt (.error (.failure f)) s.entry
        (.error (.failure (.acquisitionFailed key.registrationId f true)))
  /-- What is no failure of the exchange is raised as it is. -/
  | broken {fault} (other : ∀ f, fault = .failure f → f.isExchangeFailure = false) :
      Concludes s key p issuedAt (.error fault) s.entry (.error fault)

/-- What a call does where no client is good: one exchange or none. -/
inductive Fetches (s : Cache) (key : Key) (r : ClientRegistration) (issuedAt now : DateTime) :
    Cache → Outcome → Prop
  | exchanged {p transmission sentAt entry o} (due : s.Due key r p)
      (begun : p.client.begin p.request = .ok transmission)
      (issued : issuedAt.notAfter sentAt = true) (arrives : s.arrival sentAt transmission = now)
      (concludes : s.Concludes key p issuedAt (s.answerTo transmission) entry o) :
      Fetches s key r issuedAt now { s.noting transmission with entry, now } o
  /-- An end user is needed. -/
  | interactive (needsUser : s.NeedsUser key r) :
      Fetches s key r issuedAt now { s with now }
        (.error (.failure (.interactionRequired key.registrationId key.principalName
          r.grantType.name)))
  /-- No client serves unattended registrations. -/
  | unserved {f} (grant : r.grantType = .clientCredentials)
      (missing : s.engine.clients.get .clientCredentials = .error f) :
      Fetches s key r issuedAt now { s with now } (.error (.failure f))

/-- What a call does that ends at `now`, and for which any new client is issued at `issuedAt`. -/
inductive Resolves (s : Cache) (key : Key) (issuedAt now : DateTime) : Cache → Outcome → Prop
  | unknown (unregistered : s.engine.source.find? key.registrationId = none) :
      Resolves s key issuedAt now s (.error (.failure (.unknownRegistration key.registrationId)))
  /-- A good client is given out under the registration that is configured. -/
  | reused {r c} (registered : s.engine.source.find? key.registrationId = some r)
      (stored : s.entry key = some c) (dated : s.engine.Dated c) (good : s.engine.Good c s.now) :
      Resolves s key issuedAt now { s with now } (.ok (c.bind r))
  /-- The margin reaches back before the calendar. -/
  | undated {r c} (registered : s.engine.source.find? key.registrationId = some r)
      (stored : s.entry key = some c) (undated : ¬ s.engine.Dated c) :
      Resolves s key issuedAt now { s with now } (.error .dateOutOfRange)
  | fetched {r s' o} (registered : s.engine.source.find? key.registrationId = some r)
      (lacks : s.Lacks key) (fetches : s.Fetches key r issuedAt now s' o) :
      Resolves s key issuedAt now s' o

/-- A resolution in one step, during which the clock does not go back. -/
def ResolvesTo (s : Cache) (key : Key) (s' : Cache) (o : Outcome) : Prop :=
  ∃ issuedAt, s.now.notAfter issuedAt = true ∧ issuedAt.notAfter s'.now = true ∧
    s.Resolves key issuedAt s'.now s' o

/-- An operation in one step. -/
inductive Performs (s : Cache) : Operation → Cache → Answer → Prop
  | resolve {id requester s' o} (resolves : s.ResolvesTo ⟨id, requester.principalName⟩ s' o) :
      Performs s (.resolve id requester) s' (.outcome (some o))
  | evict {id requester} :
      Performs s (.evict id requester)
        { s with entry := Function.update s.entry ⟨id, requester.principalName⟩ none }
        (.written (.ok ()))
  | save {c} :
      Performs s (.save c)
        { s with entry := Function.update s.entry c.key (some (Store.kept s.kind c)) }
        (.written (.ok ()))
  | advance {micros} :
      Performs s (.advance micros) { s with now := (s.now.shift? micros).getD s.now } .done
  | rebuild {e} : Performs s (.rebuild e) { s with engine := e, asked := [] } .done
  | reopen : Performs s .reopen s .done

/-- Operations one after another. -/
inductive Runs : Cache → List Operation → Cache → List Answer → Prop
  | nil (s : Cache) : Runs s [] s []
  | cons {s s' s'' op answer ops answers} (first : s.Performs op s' answer)
      (rest : Runs s' ops s'' answers) : Runs s (op :: ops) s'' (answer :: answers)

end Cache

/-! ## What an engine decides -/

namespace Engine

variable {e : Engine} {c : AuthorizedClient} {now later : DateTime} {fault : Fault}

/-- A client that is found usable is dated and good. -/
theorem isUsable_eq_true (h : e.isUsable c now = .ok true) : e.Dated c ∧ e.Good c now := by
  have usable := isUsable_iff.1 h
  exact ⟨fun t ht => (usable t ht).1, fun t ht => (usable t ht).2⟩

/-- A client that is found not to be usable is dated, but not good. -/
theorem isUsable_eq_false (h : e.isUsable c now = .ok false) : e.Dated c ∧ ¬ e.Good c now := by
  have dated : e.Dated c := by
    intro expiresAt expires
    cases shifted : expiresAt.shift? (-e.skew) with
    | some limit => exact ⟨limit, rfl⟩
    | none =>
      simp only [isUsable, AccessToken.isExpired_eq_limit, expires, shifted] at h
      cases h
  refine ⟨dated, fun good => ?_⟩
  have usable : e.isUsable c now = .ok true :=
    isUsable_iff.2 fun t ht => ⟨dated t ht, good t ht⟩
  rw [h] at usable
  cases usable

/-- A client that cannot be judged is not dated. -/
theorem isUsable_eq_error (h : e.isUsable c now = .error fault) :
    fault = .dateOutOfRange ∧ ¬ e.Dated c := by
  obtain ⟨rfl, expiresAt, expires, undated⟩ := undated_of_isUsable h
  refine ⟨rfl, fun dated => ?_⟩
  obtain ⟨limit, shifted⟩ := dated expiresAt expires
  rw [undated] at shifted
  cases shifted

/-- A client that is good was good before. -/
theorem Good.mono (before : now.notAfter later = true) (h : e.Good c later) : e.Good c now := by
  intro expiresAt expires
  have good := h expiresAt expires
  simp only [DateTime.notAfter, decide_eq_true_eq] at before
  omega

/-- The client made of an answer expires after its lifetime, if that is still within the
calendar. -/
theorem clientOf_eq (e : Engine) (key : Key) (p : Plan) (issuedAt : DateTime)
    (response : TokenResponse) :
    e.clientOf key p issuedAt response =
      match issuedAt.shift? (e.lifetimeOf response * 1000000) with
      | none => .error .dateOutOfRange
      | some expiresAt => .ok (p.issued key issuedAt expiresAt response) := by
  unfold clientOf lifetimeOf Plan.issued
  simp only []
  cases issuedAt.shift? (response.expiresIn.getD e.policy.defaultLifetime * 1000000) with
  | none => rfl
  | some expiresAt => cases response.refreshToken <;> rfl

end Engine

namespace Cache

variable {s : Cache} {key : Key} {r : ClientRegistration} {p : Plan} {f : Failure}

/-- The client of a due exchange takes requests of its grant. -/
theorem Due.begins (h : s.Due key r p) :
    ∃ transmission, p.client.begin p.request = .ok transmission := by
  cases h with
  | unattended _ served | refresh _ _ _ served =>
    exact ExchangeClient.exists_begin (Registry.grantType_of_find? served)

/-- The plan the engine makes is the one that is due. -/
theorem due_of_plan (h : s.engine.plan key r (s.entry key) = .ok p) : s.Due key r p := by
  unfold Engine.plan at h
  split at h
  · next unattended =>
    have grant := GrantType.isUnattended_iff.1 unattended
    rw [grant] at h
    unfold Registry.get at h
    cases served : s.engine.clients.find? .clientCredentials with
    | none => simp only [served] at h; cases h
    | some client =>
      simp only [served] at h
      cases h
      exact .unattended grant served
  · next attended =>
    have grant : r.grantType ≠ .clientCredentials :=
      fun g => attended (GrantType.isUnattended_iff.2 g)
    split at h
    · next old stored =>
      split at h
      · next token client carries served =>
        cases h
        exact .refresh grant stored carries served
      · cases h
    · cases h

/-- The engine makes no plan if a user is needed or no client serves the grant. -/
theorem refused_of_plan (h : s.engine.plan key r (s.entry key) = .error f) :
    (s.NeedsUser key r ∧
        f = .interactionRequired key.registrationId key.principalName r.grantType.name) ∨
      (r.grantType = .clientCredentials ∧ s.engine.clients.get .clientCredentials = .error f) := by
  unfold Engine.plan at h
  split at h
  · next unattended =>
    have grant := GrantType.isUnattended_iff.1 unattended
    rw [grant] at h
    cases got : s.engine.clients.get .clientCredentials with
    | ok client => rw [got] at h; cases h
    | error f' =>
      rw [got] at h
      cases h
      exact .inr ⟨grant, rfl⟩
  · next attended =>
    have grant : r.grantType ≠ .clientCredentials :=
      fun g => attended (GrantType.isUnattended_iff.2 g)
    left
    split at h
    · next old stored =>
      split at h
      · cases h
      · next hopeless =>
        cases h
        refine ⟨⟨grant, ?_⟩, rfl⟩
        -- a refresh token would have made a plan, had any client taken it
        intro old' token stored' carries
        rw [stored] at stored'
        cases stored'
        cases served : s.engine.clients.find? .refreshToken with
        | none => rfl
        | some client => exact absurd served (hopeless token client carries)
    · next nothing =>
      cases h
      refine ⟨⟨grant, ?_⟩, rfl⟩
      intro old token stored
      rw [nothing] at stored
      cases stored

/-! ## The cache leaves nothing open but the times -/

variable {s₁ s₂ : Cache} {p₁ p₂ : Plan} {o₁ o₂ : Outcome} {issuedAt now : DateTime}
  {result : Except Fault TokenResponse} {m₁ m₂ : Key → Option AuthorizedClient}

/-- One plan at most is due. -/
theorem Due.functional (h₁ : s.Due key r p₁) (h₂ : s.Due key r p₂) : p₁ = p₂ := by
  cases h₁ with
  | unattended grant served =>
    cases h₂ with
    | unattended _ served' =>
      cases served.symm.trans served'
      rfl
    | refresh grant' => exact absurd grant grant'
  | refresh grant stored carries served =>
    cases h₂ with
    | unattended grant' => exact absurd grant' grant
    | refresh _ stored' carries' served' =>
      cases stored.symm.trans stored'
      cases carries.symm.trans carries'
      cases served.symm.trans served'
      rfl

/-- A plan and its answer come to one conclusion. -/
theorem Concludes.functional (h₁ : s.Concludes key p issuedAt result m₁ o₁)
    (h₂ : s.Concludes key p issuedAt result m₂ o₂) : m₁ = m₂ ∧ o₁ = o₂ := by
  cases h₁ with
  | obtained ends =>
    cases h₂ with
    | obtained ends' =>
      cases ends.symm.trans ends'
      exact ⟨rfl, rfl⟩
    | endless ends' => cases ends.symm.trans ends'
  | endless ends =>
    cases h₂ with
    | obtained ends' => cases ends.symm.trans ends'
    | endless => exact ⟨rfl, rfl⟩
  | refused exchange refreshing dead =>
    cases h₂ with
    | refused => exact ⟨rfl, rfl⟩
    | failed _ alive => cases dead.symm.trans (alive refreshing)
    | broken other => cases exchange.symm.trans (other _ rfl)
  | failed exchange alive =>
    cases h₂ with
    | refused _ refreshing dead => cases dead.symm.trans (alive refreshing)
    | failed => exact ⟨rfl, rfl⟩
    | broken other => cases exchange.symm.trans (other _ rfl)
  | broken other =>
    cases h₂ with
    | refused exchange => cases exchange.symm.trans (other _ rfl)
    | failed exchange => cases exchange.symm.trans (other _ rfl)
    | broken => exact ⟨rfl, rfl⟩

/-- Where a plan is due no user is needed. -/
theorem Due.not_needsUser (h : s.Due key r p) : ¬ s.NeedsUser key r := by
  intro needsUser
  cases h with
  | unattended grant => exact needsUser.grant grant
  | refresh _ stored carries served =>
    cases served.symm.trans (needsUser.hopeless _ _ stored carries)

/-- Where a plan is due some client serves the grant. -/
theorem Due.not_unserved (h : s.Due key r p) (grant : r.grantType = .clientCredentials) :
    s.engine.clients.get .clientCredentials ≠ .error f := by
  cases h with
  | unattended _ served =>
    unfold Registry.get
    rw [served]
    exact nofun
  | refresh grant' => exact absurd grant grant'

/-- The cache fetches in one way. -/
theorem Fetches.functional (h₁ : s.Fetches key r issuedAt now s₁ o₁)
    (h₂ : s.Fetches key r issuedAt now s₂ o₂) : s₁ = s₂ ∧ o₁ = o₂ := by
  cases h₁ with
  | exchanged due begun _ _ concludes =>
    cases h₂ with
    | exchanged due' begun' _ _ concludes' =>
      cases due.functional due'
      cases begun.symm.trans begun'
      obtain ⟨rfl, rfl⟩ := concludes.functional concludes'
      exact ⟨rfl, rfl⟩
    | interactive needsUser => exact absurd needsUser due.not_needsUser
    | unserved grant missing => exact absurd missing (due.not_unserved grant)
  | interactive needsUser =>
    cases h₂ with
    | exchanged due => exact absurd needsUser due.not_needsUser
    | interactive => exact ⟨rfl, rfl⟩
    | unserved grant => exact absurd grant needsUser.grant
  | unserved grant missing =>
    cases h₂ with
    | exchanged due => exact absurd missing (due.not_unserved grant)
    | interactive needsUser => exact absurd grant needsUser.grant
    | unserved _ missing' =>
      cases missing.symm.trans missing'
      exact ⟨rfl, rfl⟩

/-- Given the times, what a call comes to is determined. -/
theorem Resolves.functional (h₁ : s.Resolves key issuedAt now s₁ o₁)
    (h₂ : s.Resolves key issuedAt now s₂ o₂) : s₁ = s₂ ∧ o₁ = o₂ := by
  cases h₁ with
  | unknown unregistered =>
    cases h₂ with
    | unknown => exact ⟨rfl, rfl⟩
    | reused registered | undated registered | fetched registered =>
      cases unregistered.symm.trans registered
  | reused registered stored dated good =>
    cases h₂ with
    | unknown unregistered => cases unregistered.symm.trans registered
    | reused registered' stored' =>
      cases registered.symm.trans registered'
      cases stored.symm.trans stored'
      exact ⟨rfl, rfl⟩
    | undated _ stored' undated =>
      cases stored.symm.trans stored'
      exact absurd dated undated
    | fetched _ lacks => exact absurd good (lacks _ stored).2
  | undated registered stored undated =>
    cases h₂ with
    | unknown unregistered => cases unregistered.symm.trans registered
    | reused _ stored' dated =>
      cases stored.symm.trans stored'
      exact absurd dated undated
    | undated => exact ⟨rfl, rfl⟩
    | fetched _ lacks => exact absurd (lacks _ stored).1 undated
  | fetched registered lacks fetches =>
    cases h₂ with
    | unknown unregistered => cases unregistered.symm.trans registered
    | reused _ stored _ good => exact absurd good (lacks _ stored).2
    | undated _ stored undated => exact absurd (lacks _ stored).1 undated
    | fetched registered' _ fetches' =>
      cases registered.symm.trans registered'
      exact fetches.functional fetches'

end Cache

end TokenBroker
