import TokenBroker.Proofs.Engine.Move
import TokenBroker.Proofs.Expiry

/-!
# Stale and fresh clients

How a call for an unattended registration deals with the clients that it comes across. As long as
the store holds no usable client for the key, a call ends with none, unless it gets one by an
exchange of its own (`Move.unserved`). Once a usable client is stored, a call that has no exchange
under way comes to no other (`Move.served`).
-/

namespace TokenBroker

namespace Engine

variable {e : Engine} {key : Key} {env : Surroundings} {s t : Shared} {p q : Phase}
  {r : ClientRegistration} {c c₀ : AuthorizedClient} {now later : DateTime}

/-! ## Usable clients -/

/-- Only the access token counts, which a stored client keeps whatever it is bound to. -/
theorem isUsable_bind (e : Engine) (c : AuthorizedClient) (r : ClientRegistration)
    (now : DateTime) :
    e.isUsable (c.bind r) now = e.isUsable c now := rfl

/-- A client that is usable at some time has been usable before. -/
theorem isUsable_of_notAfter (before : now.notAfter later = true)
    (h : e.isUsable c later = .ok true) : e.isUsable c now = .ok true := by
  unfold isUsable at h ⊢
  rw [AccessToken.isExpired_eq_limit] at h ⊢
  cases expires : c.accessToken.expiresAt with
  | none => rfl
  | some expiresAt =>
    simp only [expires] at h ⊢
    cases shifted : expiresAt.shift? (-e.skew) with
    | none =>
      simp only [shifted] at h
      cases h
    | some limit =>
      simp only [shifted, Except.map, Except.ok.injEq, Bool.not_eq_true'] at h ⊢
      simp only [DateTime.notAfter, decide_eq_true_eq, decide_eq_false_iff_not] at before h ⊢
      omega

/-- A client that cannot be used, for want of time or because its lifetime cannot be told. -/
def Stale (e : Engine) (now : DateTime) (c : AuthorizedClient) : Prop :=
  e.isUsable c now ≠ .ok true

/-- A client that is stale stays stale as time goes on. -/
theorem Stale.mono (before : now.notAfter later = true) (h : e.Stale now c) : e.Stale later c :=
  fun usable => h (isUsable_of_notAfter before usable)

/-! ## Without a usable client -/

/-- An unattended plan takes the place of no client. -/
theorem previous_of_plan {existing : Option AuthorizedClient} {pl : Plan}
    (unattended : r.grantType.isUnattended = true) (h : e.plan key r existing = .ok pl) :
    pl.previous = none := by
  rcases plan_eq_ok h with ⟨-, -, nothing⟩ | ⟨attended, -⟩
  · exact nothing
  · rw [unattended] at attended
    cases attended

/-- A call has got no client, and holds none that can be used. -/
def Phase.Unserved (e : Engine) (now : DateTime) : Phase → Prop
  | .judging _ c | .rejudging _ _ c => e.Stale now c
  | .stamping _ p | .sending _ p _ | .receiving _ p _ _ _ => p.previous = none
  | .dropping .. | .saving .. => False
  | .publishing _ o | .releasing _ o | .finished o => ∀ c, o ≠ .ok c
  | .loading _ | .claiming _ | .waiting _ | .reloading .. => True

/-- A call that has not been served is still unserved at a later time. -/
theorem Phase.Unserved.mono (before : now.notAfter later = true) (h : p.Unserved e now) :
    p.Unserved e later := by
  cases p with
  | judging | rejudging => exact Stale.mono before h
  | _ => exact h

/-- A call begins unserved. -/
theorem unserved_start (e : Engine) (key : Key) (now : DateTime) :
    (e.start key).Unserved e now := by
  unfold start
  cases e.source.find? key.registrationId with
  | none => exact fun c => nofun
  | some r => trivial

/-- A call of an unattended grant goes on unserved. -/
theorem unserved_proceed (a : Nat) (existing : Option AuthorizedClient)
    (unattended : r.grantType.isUnattended = true) :
    (e.proceed key r a existing).Unserved e now := by
  rcases proceed_cases e key r a existing with ⟨pl, planned, h⟩ | ⟨f, -, h⟩
  · rw [h]
    exact previous_of_plan unattended planned
  · rw [h]
    exact fun c => nofun

/-- A call that comes across no usable client gets one by its own exchange or none. -/
theorem Move.unserved (h : Move e key env s p t q) (hp : p.Unserved e env.now)
    (belongs : p.BelongsTo e key) (registered : e.source.find? key.registrationId = some r)
    (unattended : r.grantType.isUnattended = true)
    (stored : ∀ c, s.store.entry key = some c → e.Stale env.now c)
    (heard : ∀ a, p = .waiting a → ∀ c, s.outcomes[a]? ≠ some (some (.ok c))) :
    q.Unserved e env.now ∨ ∃ a pl issuedAt sent ticket response,
      p = .receiving a pl issuedAt sent ticket ∧ env.result sent = .ok response := by
  cases h with
  | obtains answered => exact .inr ⟨_, _, _, _, _, _, rfl, answered⟩
  | loadFails | judgeFails | reloadFails | rejudgeFails | mismatches | fails =>
    exact .inl fun c => nofun
  | loadsNone | judgesExpired | joins | leads => exact .inl trivial
  | loadsSome loads | reloadsSome loads =>
    rcases loads.client with hc | ⟨-, hc⟩
    · exact .inl (stored _ hc.symm)
    · cases hc
  | judgesUsable judged | rejudgesUsable judged => exact absurd judged hp
  | hears published => exact .inl fun c ho => heard _ rfl c (ho ▸ published)
  | reloadsNone | rejudgesExpired =>
    obtain rfl := Option.some.inj (registered.symm.trans belongs)
    exact .inl (unserved_proceed _ _ unattended)
  | stamps | sends | publishes | releases => exact .inl hp
  | isRefused _ refreshing =>
    rw [show Plan.previous _ = none from hp] at refreshing
    cases refreshing
  | dropFails | drops | saveFails | saves => exact hp.elim

/-! ## With a usable client -/

/-- A call has no exchange under way, and has got no client but a certain one. -/
def Phase.Served (e : Engine) (now : DateTime) (c₀ : AuthorizedClient) : Phase → Prop
  | .judging r c => e.Stale now c ∨ c.bind r = c₀
  | .rejudging r _ c => c.bind r = c₀
  | .stamping .. | .sending .. | .receiving .. | .dropping .. | .saving .. => False
  | .publishing _ o | .releasing _ o | .finished o => ∀ c, o = .ok c → c = c₀
  | .loading _ | .claiming _ | .waiting _ | .reloading .. => True

/-- A call that has got no client but a certain one has got no other at a later time. -/
theorem Phase.Served.mono (before : now.notAfter later = true) (h : p.Served e now c₀) :
    p.Served e later c₀ := by
  cases p with
  | judging => exact h.imp_left (Stale.mono before)
  | _ => exact h

/-- A call that leads nothing may have missed the client, and will find it. -/
theorem Phase.Unserved.served (h : p.Unserved e now) (apart : p.leads? = none) :
    p.Served e now c₀ := by
  cases p with
  | judging => exact .inl h
  | finished o => exact fun c ho => absurd ho (h c)
  | loading | claiming | waiting => trivial
  | _ => cases apart

/-- Once a usable client is stored, calls come to no other. -/
theorem Move.served (h : Move e key env s p t q) (hp : p.Served e env.now c₀)
    (belongs : p.BelongsTo e key) (registered : e.source.find? key.registrationId = some r)
    (usable : e.isUsable c₀ env.now = .ok true) (visible : env.hidden = false)
    (stored : ∃ c, s.store.entry key = some c ∧ c.bind r = c₀)
    (heard : ∀ a, p = .waiting a → ∀ c, s.outcomes[a]? = some (some (.ok c)) → c = c₀) :
    q.Served e env.now c₀ := by
  obtain ⟨c', entry, bound⟩ := stored
  -- whatever is loaded is the stored client, since nothing is hidden
  have found : ∀ {c t}, Loads env key s (some c) t → c.bind r = c₀ := by
    intro c t loads
    rcases loads.client with hc | ⟨-, hc⟩
    · rw [entry] at hc
      cases hc
      exact bound
    · cases hc
  cases h with
  | loadFails | judgeFails | reloadFails | rejudgeFails => exact fun c => nofun
  | loadsNone | judgesExpired | joins | leads => trivial
  | loadsSome loads =>
    obtain rfl := Option.some.inj (registered.symm.trans belongs)
    exact .inr (found loads)
  | reloadsSome loads =>
    obtain rfl := Option.some.inj (registered.symm.trans belongs)
    exact found loads
  | reloadsNone loads =>
    rcases loads.client with hc | ⟨hidden, -⟩
    · rw [entry] at hc
      cases hc
    · rw [visible] at hidden
      cases hidden
  | judgesUsable judged =>
    rintro c ⟨⟩
    exact hp.resolve_left fun stale => stale judged
  | rejudgesUsable =>
    rintro c ⟨⟩
    exact hp
  | rejudgesExpired judged =>
    -- the client in hand is the usable one, so it cannot be judged expired
    have fresh : e.isUsable _ env.now = .ok true := hp ▸ usable
    rw [isUsable_bind, judged] at fresh
    cases fresh
  | hears published => exact fun c ho => heard _ rfl c (ho ▸ published)
  | publishes | releases => exact hp
  | _ => exact hp.elim

end Engine

end TokenBroker
