import TokenBroker.Engine.Phase
import TokenBroker.Proofs.Store.Entries

/-!
# What one step of a call can do

`Move` lists the steps of a call of `resolve`, each with the condition under which it is taken and
with what it leaves of the shared state; `move_of_step` says that there are no others. Whatever
holds of all steps is proved by cases on it, and `Engine.step` is opened only here.

The data of a phase are those of the call's own key (`Phase.BelongsTo`), which no step gives up
(`Move.belongsTo`); so a step changes the entry of its own key at most (`Move.entry_of_ne`).
-/

namespace TokenBroker

/-- A source finds a registration under its own identifier. -/
theorem RegistrationSource.registrationId_of_find? {source : RegistrationSource} {id : String}
    {r : ClientRegistration} (h : source.find? id = some r) : r.registrationId = id := by
  cases source with
  | catalog c => exact Catalog.registrationId_of_find? h
  | unlisted rs => simpa using List.find?_some h

/-- A refused grant is a failure of the exchange. -/
theorem Failure.isExchangeFailure_of_isInvalidGrant {f : Failure} (h : f.isInvalidGrant = true) :
    f.isExchangeFailure = true := by
  cases f with
  | rejected => rfl
  | _ => cases h

namespace Engine

variable {e : Engine} {key : Key} {env : Surroundings} {s t : Shared} {p q : Phase}

/-! ## The parts of a step -/

/-- A load that ends without a fault: it gives the entry of the key, unless the store hides it, and
changes no entry. -/
structure Loads (env : Surroundings) (key : Key) (s : Shared) (c : Option AuthorizedClient)
    (t : Shared) : Prop where
  inFlight : t.inFlight = s.inFlight
  outcomes : t.outcomes = s.outcomes
  entry : ∀ k, t.store.entry k = s.store.entry k
  kind : t.store.kind = s.store.kind
  client : c = s.store.entry key ∨ env.hidden = true ∧ c = none

/-- A client that is loaded is the entry of its key. -/
theorem Loads.entry_eq {c : AuthorizedClient} (h : Loads env key s (some c) t) :
    s.store.entry key = some c := by
  rcases h.client with hc | ⟨-, hc⟩
  · exact hc.symm
  · cases hc

/-- What the engine loads is what the store lets it load. -/
theorem loads_of_load {c : Option AuthorizedClient} {log : List LogEntry}
    (h : load env s key = .ok (c, t, log)) : Loads env key s c t := by
  unfold load at h
  split at h
  · cases h
  · split at h
    · next hidden =>
      cases h
      exact ⟨rfl, rfl, fun _ => rfl, rfl, .inr ⟨hidden, rfl⟩⟩
    · cases h
      exact ⟨rfl, rfl, fun k => s.store.entry_load key k, s.store.kind_load key, .inl rfl⟩

/-- A plan is made for the registration that it is asked for: from the registration alone if its
grant is unattended, and else from the refresh token of the stored client. -/
theorem plan_eq_ok {r : ClientRegistration} {existing : Option AuthorizedClient} {p : Plan}
    (h : e.plan key r existing = .ok p) :
    (r.grantType.isUnattended = true ∧ p.request = .clientCredentials r ∧ p.previous = none) ∨
      (r.grantType.isUnattended = false ∧ ∃ old token, existing = some old ∧
        old.refreshToken = some token ∧ p.request = .refreshToken r old.accessToken token ∧
        p.previous = some old) := by
  unfold plan at h
  split at h
  · next unattended =>
    cases hg : e.clients.get r.grantType with
    | error f => rw [hg] at h; cases h
    | ok c =>
      rw [hg] at h
      cases h
      exact .inl ⟨unattended, rfl, rfl⟩
  · next attended =>
    refine .inr ⟨by simpa using attended, ?_⟩
    split at h
    · next old =>
      split at h
      · next token c ht hc =>
        cases h
        exact ⟨old, token, rfl, ht, rfl, rfl⟩
      · cases h
    · cases h

/-- A plan is about the registration it was made for. -/
theorem registration_of_plan {r : ClientRegistration} {existing : Option AuthorizedClient}
    {p : Plan} (h : e.plan key r existing = .ok p) : p.request.registration = r := by
  rcases plan_eq_ok h with ⟨-, hp, -⟩ | ⟨-, old, token, -, -, hp, -⟩
  · rw [hp]; rfl
  · rw [hp]; rfl

/-- A leader without a usable client goes on to its exchange, or publishes that it cannot have
one. -/
theorem proceed_cases (e : Engine) (key : Key) (r : ClientRegistration) (a : Nat)
    (existing : Option AuthorizedClient) :
    (∃ p, e.plan key r existing = .ok p ∧ e.proceed key r a existing = .stamping a p) ∨
      ∃ f, e.plan key r existing = .error f ∧
        e.proceed key r a existing = .publishing a (.error (.failure f)) := by
  unfold proceed
  cases h : e.plan key r existing with
  | ok p => exact .inl ⟨p, rfl, rfl⟩
  | error f => exact .inr ⟨f, rfl, rfl⟩

/-- The client of a response is made for the call's principal and the plan's registration. -/
theorem clientOf_eq_ok {p : Plan} {issuedAt : DateTime} {response : TokenResponse}
    {c : AuthorizedClient} (h : e.clientOf key p issuedAt response = .ok c) :
    c.registration = p.request.registration ∧ c.principalName = key.principalName := by
  unfold clientOf at h
  cases hs : issuedAt.shift? (response.expiresIn.getD e.policy.defaultLifetime * 1000000) with
  | none => simp only [hs] at h; cases h
  | some expiresAt =>
    simp only [hs] at h
    cases h
    exact ⟨rfl, rfl⟩

/-- A client that is given a request of another grant fails in a way of its own. -/
theorem begin_eq_error {c : ExchangeClient} {request : GrantRequest} {f : Failure}
    (h : c.begin request = .error f) : f.isExchangeFailure = false := by
  unfold ExchangeClient.begin at h
  split at h
  · cases h
  · cases h
  · cases h
  · cases h
    rfl

/-- An exchange ends with a client to save, with a refused refresh token, or with a fault to
publish. -/
theorem settle_cases (e : Engine) (key : Key) (a : Nat) (p : Plan) (issuedAt : DateTime)
    (result : Except Fault TokenResponse) :
    (∃ response c, result = .ok response ∧ e.clientOf key p issuedAt response = .ok c ∧
        (e.settle key a p issuedAt result).1 = .saving a p.request.grantType c) ∨
      (∃ f, result = .error (.failure f) ∧ p.previous.isSome = true ∧ f.isInvalidGrant = true ∧
        (e.settle key a p issuedAt result).1 = .dropping a f) ∨
      ∃ fault, (e.settle key a p issuedAt result).1 = .publishing a (.error fault) := by
  unfold settle
  split
  · next response =>
    cases hc : e.clientOf key p issuedAt response with
    | ok c => exact .inl ⟨response, c, rfl, hc, rfl⟩
    | error fault => exact .inr (.inr ⟨fault, rfl⟩)
  · next f =>
    split
    · split
      · next refused =>
        simp only [Bool.and_eq_true] at refused
        exact .inr (.inl ⟨f, rfl, refused.1, refused.2, rfl⟩)
      · exact .inr (.inr ⟨_, rfl⟩)
    · exact .inr (.inr ⟨_, rfl⟩)
  · exact .inr (.inr ⟨_, rfl⟩)

/-- A client that takes no request of the plan's grant ends the exchange before anything is sent. -/
theorem settle_of_begin {a : Nat} {p : Plan} {issuedAt : DateTime} {f : Failure}
    (h : p.client.begin p.request = .error f) :
    e.settle key a p issuedAt (.error (.failure f)) =
      (.publishing a (.error (.failure f)), []) := by
  simp [settle, begin_eq_error h]

/-! ## The steps -/

/-- The steps of a call: from a shared state and a phase to the next ones. -/
inductive Move (e : Engine) (key : Key) (env : Surroundings) (s : Shared) :
    Phase → Shared → Phase → Prop
  | loadFails {r fault} (raised : env.storeFault = some fault) :
      Move e key env s (.loading r) s (.finished (.error fault))
  | loadsNone {r t} (loads : Loads env key s none t) : Move e key env s (.loading r) t (.claiming r)
  | loadsSome {r c t} (loads : Loads env key s (some c) t) :
      Move e key env s (.loading r) t (.judging r c)
  | judgeFails {r c fault} (judged : e.isUsable c env.now = .error fault) :
      Move e key env s (.judging r c) s (.finished (.error fault))
  | judgesUsable {r c} (judged : e.isUsable c env.now = .ok true) :
      Move e key env s (.judging r c) s (.finished (.ok (c.bind r)))
  | judgesExpired {r c} (judged : e.isUsable c env.now = .ok false) :
      Move e key env s (.judging r c) s (.claiming r)
  | joins {r a} (taken : s.inFlight.get? key = some a) :
      Move e key env s (.claiming r) s (.waiting a)
  | leads {r} (free : s.inFlight.get? key = none) :
      Move e key env s (.claiming r)
        { s with
          inFlight := s.inFlight.put key s.outcomes.length
          outcomes := s.outcomes ++ [none] }
        (.reloading r s.outcomes.length)
  | hears {a o} (published : s.outcomes[a]? = some (some o)) :
      Move e key env s (.waiting a) s (.finished o)
  | reloadFails {r a fault} (raised : env.storeFault = some fault) :
      Move e key env s (.reloading r a) s (.publishing a (.error fault))
  | reloadsNone {r a t} (loads : Loads env key s none t) :
      Move e key env s (.reloading r a) t (e.proceed key r a none)
  | reloadsSome {r a c t} (loads : Loads env key s (some c) t) :
      Move e key env s (.reloading r a) t (.rejudging r a c)
  | rejudgeFails {r a c fault} (judged : e.isUsable c env.now = .error fault) :
      Move e key env s (.rejudging r a c) s (.publishing a (.error fault))
  | rejudgesUsable {r a c} (judged : e.isUsable c env.now = .ok true) :
      Move e key env s (.rejudging r a c) s (.publishing a (.ok (c.bind r)))
  | rejudgesExpired {r a c} (judged : e.isUsable c env.now = .ok false) :
      Move e key env s (.rejudging r a c) s (e.proceed key r a (some c))
  | stamps {a p} : Move e key env s (.stamping a p) s (.sending a p env.now)
  | mismatches {a p issuedAt f} (refused : p.client.begin p.request = .error f) :
      Move e key env s (.sending a p issuedAt) s (.publishing a (.error (.failure f)))
  | sends {a p issuedAt sent ticket} (begun : p.client.begin p.request = .ok sent) :
      Move e key env s (.sending a p issuedAt) s (.receiving a p issuedAt sent ticket)
  | obtains {a p issuedAt sent ticket response c} (answered : env.result sent = .ok response)
      (made : e.clientOf key p issuedAt response = .ok c) :
      Move e key env s (.receiving a p issuedAt sent ticket) s (.saving a p.request.grantType c)
  | isRefused {a p issuedAt sent ticket f} (answered : env.result sent = .error (.failure f))
      (refreshing : p.previous.isSome = true) (refused : f.isInvalidGrant = true) :
      Move e key env s (.receiving a p issuedAt sent ticket) s (.dropping a f)
  | fails {a p issuedAt sent ticket fault}
      (settled : (e.settle key a p issuedAt (env.result sent)).1 = .publishing a (.error fault)) :
      Move e key env s (.receiving a p issuedAt sent ticket) s (.publishing a (.error fault))
  | dropFails {a f fault} (raised : env.storeFault = some fault) :
      Move e key env s (.dropping a f) s (.publishing a (.error fault))
  | drops {a f} (sound : env.storeFault = none) :
      Move e key env s (.dropping a f) { s with store := s.store.remove key }
        (.publishing a (.error (.failure (.acquisitionFailed key.registrationId f true))))
  | saveFails {a g c fault} (raised : env.storeFault = some fault) :
      Move e key env s (.saving a g c) s (.publishing a (.error fault))
  | saves {a g c} (sound : env.storeFault = none) :
      Move e key env s (.saving a g c) { s with store := s.store.save c } (.publishing a (.ok c))
  | publishes {a o} :
      Move e key env s (.publishing a o) { s with outcomes := s.outcomes.set a (some o) }
        (.releasing a o)
  | releases {a o} :
      Move e key env s (.releasing a o) { s with inFlight := s.inFlight.erase key } (.finished o)

/-- A load that raises is one whose store is at fault. -/
theorem storeFault_of_load {fault : Fault} (h : load env s key = .error fault) :
    env.storeFault = some fault := by
  unfold load at h
  split at h
  · next raised => cases h; exact raised
  · split at h <;> cases h

/-- Every step of a call is one of the moves. -/
theorem move_of_step {next : Step} (h : e.step key env s p = some next) :
    Move e key env s p next.shared next.phase := by
  cases p with
  | loading r =>
    simp only [step] at h
    split at h
    · next hl => cases h; exact .loadFails (storeFault_of_load hl)
    · next hl => cases h; exact .loadsNone (loads_of_load hl)
    · next hl => cases h; exact .loadsSome (loads_of_load hl)
  | judging r c =>
    simp only [step] at h
    split at h
    · next hj => cases h; exact .judgeFails hj
    · next hj => cases h; exact .judgesUsable hj
    · next hj => cases h; exact .judgesExpired hj
  | claiming r =>
    simp only [step] at h
    split at h
    · next ht => cases h; exact .joins ht
    · next hf => cases h; exact .leads hf
  | waiting a =>
    simp only [step] at h
    split at h
    · next ho => cases h; exact .hears ho
    · cases h
  | reloading r a =>
    simp only [step] at h
    split at h
    · next hl => cases h; exact .reloadFails (storeFault_of_load hl)
    · next hl => cases h; exact .reloadsNone (loads_of_load hl)
    · next hl => cases h; exact .reloadsSome (loads_of_load hl)
  | rejudging r a c =>
    simp only [step] at h
    split at h
    · next hj => cases h; exact .rejudgeFails hj
    · next hj => cases h; exact .rejudgesUsable hj
    · next hj => cases h; exact .rejudgesExpired hj
  | stamping a p => cases h; exact .stamps
  | sending a p issuedAt =>
    simp only [step] at h
    split at h
    · next hb =>
      rw [settle_of_begin hb] at h
      cases h
      exact .mismatches hb
    · next hb => cases h; exact .sends hb
  | receiving a p issuedAt sent ticket =>
    simp only [step] at h
    cases h
    -- what the exchange has come to decides among three moves
    rcases settle_cases e key a p issuedAt (env.result sent) with
      ⟨response, c, hr, hc, hq⟩ | ⟨f, hr, hp, hf, hq⟩ | ⟨fault, hq⟩
    · rw [hq]; exact .obtains hr hc
    · rw [hq]; exact .isRefused hr hp hf
    · rw [hq]; exact .fails hq
  | dropping a f =>
    simp only [step] at h
    split at h
    · next hs => cases h; exact .dropFails hs
    · next hs => cases h; exact .drops hs
  | saving a g c =>
    simp only [step] at h
    split at h
    · next hs => cases h; exact .saveFails hs
    · next hs => cases h; exact .saves hs
  | publishing a o => cases h; exact .publishes
  | releasing a o => cases h; exact .releases
  | finished o => cases h

/-- Only a call that waits for an outcome or has ended has no next step. -/
theorem step_isSome (e : Engine) (key : Key) (env : Surroundings) (s : Shared)
    (running : p.outcome? = none) (free : ∀ a, p ≠ .waiting a) : (e.step key env s p).isSome := by
  cases p with
  | waiting a => exact absurd rfl (free a)
  | finished o => cases running
  | stamping | receiving | publishing | releasing => rfl
  | loading | judging | claiming | reloading | rejudging | sending | dropping | saving =>
    simp only [step]
    split <;> rfl

/-- A call that goes on to its attempt has eight steps to go at most. -/
theorem rank_proceed_le (e : Engine) (key : Key) (r : ClientRegistration) (a : Nat)
    (existing : Option AuthorizedClient) : (e.proceed key r a existing).rank ≤ 8 := by
  rcases proceed_cases e key r a existing with ⟨p, -, h⟩ | ⟨f, -, h⟩
  · simp [h, Phase.rank]
  · simp [h, Phase.rank]

/-- Every step brings a call nearer to its end. -/
theorem Move.rank_lt (h : Move e key env s p t q) : q.rank < p.rank := by
  cases h with
  | @reloadsNone r a =>
    exact Nat.lt_of_le_of_lt (rank_proceed_le e key r a none) (by simp [Phase.rank])
  | @rejudgesExpired r a c =>
    exact Nat.lt_of_le_of_lt (rank_proceed_le e key r a (some c)) (by simp [Phase.rank])
  | _ => simp [Phase.rank]

/-! ## What belongs to a key -/

/-- The registration that a phase holds is the one configured for the key, and a client to be saved
is one of the key. -/
def Phase.BelongsTo (e : Engine) (key : Key) : Phase → Prop
  | .loading r | .judging r _ | .claiming r | .reloading r _ | .rejudging r _ _ =>
    e.source.find? key.registrationId = some r
  | .stamping _ p | .sending _ p _ | .receiving _ p _ _ _ =>
    e.source.find? key.registrationId = some p.request.registration
  | .saving _ _ c =>
    e.source.find? key.registrationId = some c.registration ∧ c.principalName = key.principalName
  | _ => True

/-- A call begins with what belongs to its key. -/
theorem belongsTo_start (e : Engine) (key : Key) : (e.start key).BelongsTo e key := by
  unfold start
  cases h : e.source.find? key.registrationId with
  | none => trivial
  | some r => exact h

/-- A call goes on with what belongs to its key. -/
theorem belongsTo_proceed {r : ClientRegistration} (a : Nat) (existing : Option AuthorizedClient)
    (h : e.source.find? key.registrationId = some r) :
    (e.proceed key r a existing).BelongsTo e key := by
  rcases proceed_cases e key r a existing with ⟨p, hp, hq⟩ | ⟨f, -, hq⟩
  · rw [hq]
    show e.source.find? key.registrationId = some p.request.registration
    rw [registration_of_plan hp, h]
  · rw [hq]
    trivial

/-- A call saves its clients under its own key. -/
theorem Phase.BelongsTo.key_eq {a : Nat} {g : GrantType} {c : AuthorizedClient}
    (h : (Phase.saving a g c).BelongsTo e key) : c.key = key := by
  obtain ⟨hr, hn⟩ := h
  unfold AuthorizedClient.key
  rw [RegistrationSource.registrationId_of_find? hr, hn]

/-- A step leaves a call with what belongs to its key. -/
theorem Move.belongsTo (h : Move e key env s p t q) (hp : p.BelongsTo e key) :
    q.BelongsTo e key := by
  cases h with
  | reloadsNone => exact belongsTo_proceed _ _ hp
  | rejudgesExpired => exact belongsTo_proceed _ _ hp
  | obtains _ made =>
    obtain ⟨hr, hn⟩ := clientOf_eq_ok made
    exact ⟨by rw [hr]; exact hp, hn⟩
  | loadsNone | loadsSome | judgesExpired | leads | reloadsSome | stamps | sends => exact hp
  | _ => trivial

/-- The entries change when a leader removes a refused client or saves a new one, and else never. -/
theorem Move.entry_cases (h : Move e key env s p t q) :
    (∀ k, t.store.entry k = s.store.entry k) ∨
      (∃ a f, p = .dropping a f ∧ t.store = s.store.remove key ∧
        q = .publishing a (.error (.failure (.acquisitionFailed key.registrationId f true)))) ∨
      ∃ a g c, p = .saving a g c ∧ t.store = s.store.save c ∧ q = .publishing a (.ok c) := by
  cases h with
  | loadsNone loads | loadsSome loads | reloadsNone loads | reloadsSome loads =>
    exact .inl loads.entry
  | drops => exact .inr (.inl ⟨_, _, rfl, rfl, rfl⟩)
  | saves => exact .inr (.inr ⟨_, _, _, rfl, rfl, rfl⟩)
  | _ => exact .inl fun _ => rfl

/-- A step leaves the entries of all other keys as they are. -/
theorem Move.entry_of_ne (h : Move e key env s p t q) (hp : p.BelongsTo e key) {k : Key}
    (hk : k ≠ key) : t.store.entry k = s.store.entry k := by
  rcases h.entry_cases with same | ⟨a, f, -, dropped, -⟩ | ⟨a, g, c, rfl, saved, -⟩
  · exact same k
  · rw [dropped, Store.entry_remove_of_ne hk]
  · rw [saved, Store.entry_save_of_ne (by rw [hp.key_eq]; exact hk)]

/-- A step leaves the store of its kind. -/
theorem Move.kind (h : Move e key env s p t q) : t.store.kind = s.store.kind := by
  cases h with
  | loadsNone loads | loadsSome loads | reloadsNone loads | reloadsSome loads => exact loads.kind
  | drops => exact s.store.kind_remove key
  | saves => exact s.store.kind_save _
  | _ => rfl

end Engine

end TokenBroker
