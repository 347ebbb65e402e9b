import TokenBroker.Proofs.Service.Call

/-!
# Services follow their cache

A service that does one operation after another is its cache, as long as nothing of an earlier call
is under way, the store is not in trouble and no clock goes back during a call (`Service.Ready`).
Every operation is the cache's (`Service.perform_cache`) and leaves the service ready for the next,
so any run of operations is a run of the cache, answer by answer (`operations_follow_cache`).
Conversely the cache allows nothing else at the times of a resolution
(`Service.perform_resolve_iff_cache`).
-/

namespace TokenBroker

namespace Service

/-- A service at rest: no call is under way, the store is not in trouble, and no clock goes back. -/
structure Ready (s : Service) : Prop where
  sound : s.world.Sound
  idle : s.world.shared.inFlight = []

/-- The cache of a service. -/
def cache (s : Service) : Cache := s.world.cache s.engine

/-- Removing an entry from the store removes it from the cache. -/
theorem cache_evict (w : World) (e : Engine) (k : Key) :
    ({ w with shared := { w.shared with store := w.shared.store.remove k } } : World).cache e =
      { w.cache e with entry := Function.update w.entry k none } := by
  have entry (l : Key) : (w.shared.store.remove k).entry l = Function.update w.entry k none l := by
    by_cases hl : l = k
    · subst hl
      rw [Function.update_self, Store.entry_remove_self]
    · rw [Function.update_of_ne hl]
      exact Store.entry_remove_of_ne hl _
  simp only [World.cache, Store.kind_remove]
  rw [← funext entry]
  rfl

/-- Saving a client in the store saves it in the cache. -/
theorem cache_save (w : World) (e : Engine) (c : AuthorizedClient) :
    ({ w with shared := { w.shared with store := w.shared.store.save c } } : World).cache e =
      { w.cache e with
        entry := Function.update w.entry c.key (some (Store.kept w.shared.store.kind c)) } := by
  have entry (l : Key) : (w.shared.store.save c).entry l =
      Function.update w.entry c.key (some (Store.kept w.shared.store.kind c)) l := by
    by_cases hl : l = c.key
    · subst hl
      rw [Function.update_self, Store.entry_save_self, Store.retrieve_eq]
    · rw [Function.update_of_ne hl]
      exact Store.entry_save_of_ne hl _
  simp only [World.cache, Store.kind_save]
  rw [← funext entry]
  rfl

/-- An operation of the service is an operation of the cache. -/
theorem perform_cache {s : Service} (ready : s.Ready) (op : Operation) :
    s.cache.Performs op (s.perform op).1.cache (s.perform op).2 ∧ (s.perform op).1.Ready := by
  obtain ⟨sound, idle⟩ := ready
  cases op with
  | resolve id requester =>
    obtain ⟨w', o, ran, sound', idle', resolves⟩ :=
      World.resolve_cache sound idle s.engine ⟨id, requester.principalName⟩
    simp only [perform, ran]
    exact ⟨.resolve resolves, sound', idle'⟩
  | evict id requester =>
    -- in a sound world the store raises nothing
    have calm : s.world.trouble.remove = none := by rw [sound.trouble]
    simp only [perform, World.evict, calm]
    refine ⟨?_, ⟨sound.trouble, sound.forward, sound.delay⟩, idle⟩
    show s.cache.Performs _ (World.cache _ s.engine) _
    rw [cache_evict]
    exact .evict
  | save c =>
    have calm : s.world.trouble.save = none := by rw [sound.trouble]
    simp only [perform, World.save, calm]
    refine ⟨?_, ⟨sound.trouble, sound.forward, sound.delay⟩, idle⟩
    show s.cache.Performs _ (World.cache _ s.engine) _
    rw [cache_save]
    exact .save
  | advance micros => exact ⟨.advance, ⟨sound.trouble, sound.forward, sound.delay⟩, idle⟩
  | rebuild e => exact ⟨.rebuild, ⟨sound.trouble, sound.forward, sound.delay⟩, rfl⟩
  | reopen =>
    simp only [perform, World.reopen_eq]
    exact ⟨.reopen, sound, idle⟩

/-- A list of operations of the service runs on the cache. -/
theorem performAll_cache {s : Service} (ready : s.Ready) (ops : List Operation) :
    s.cache.Runs ops (s.performAll ops).1.cache (s.performAll ops).2 ∧
    (s.performAll ops).1.Ready := by
  induction ops generalizing s with
  | nil => exact ⟨.nil _, ready⟩
  | cons op ops ih =>
    obtain ⟨first, ready'⟩ := perform_cache ready op
    obtain ⟨rest, ready''⟩ := ih ready'
    exact ⟨.cons first rest, ready''⟩

/-- A resolution leaves nothing open but the time at which a new client is issued: whatever the
cache may come to at the times of a resolution is what the service comes to. -/
theorem perform_resolve_iff_cache {s : Service} (ready : s.Ready) (id : String)
    (requester : Requester) :
    ∃ issuedAt, ∀ s' o,
      s.cache.Resolves ⟨id, requester.principalName⟩ issuedAt
          (s.perform (.resolve id requester)).1.cache.now s' o ↔
        s' = (s.perform (.resolve id requester)).1.cache ∧
          (s.perform (.resolve id requester)).2 = .outcome (some o) := by
  obtain ⟨performs, -⟩ := perform_cache ready (.resolve id requester)
  generalize (s.perform (.resolve id requester)).1.cache = after,
    (s.perform (.resolve id requester)).2 = answer at performs
  cases performs with
  | resolve resolves =>
    obtain ⟨issuedAt, -, -, resolves⟩ := resolves
    refine ⟨issuedAt, fun s' o => ⟨fun allowed => ?_, ?_⟩⟩
    · obtain ⟨rfl, rfl⟩ := allowed.functional resolves
      exact ⟨rfl, rfl⟩
    · rintro ⟨rfl, same⟩
      cases same
      exact resolves

end Service

/-! ## The result -/

/-- **Operations follow the cache.** Whatever the engine, the clock, the transport, the plug-ins and
the clients that are stored, in memory or on disk: when a service does operations, one after
another, every one of them gives the cache's answer and leaves what the cache leaves. A call of
`resolve` always ends, with a client or a fault. A call for an id that is not registered does
nothing at all, not even when the store is in trouble. -/
theorem operations_follow_cache {s : Service} (ready : s.Ready) (ops : List Operation) :
    s.cache.Runs ops (s.performAll ops).1.cache (s.performAll ops).2 ∧
      (s.performAll ops).1.Ready ∧
      ∀ (t : Service) (id : String) (requester : Requester), t.engine.source.find? id = none →
        t.perform (.resolve id requester) =
          (t, .outcome (some (.error (.failure (.unknownRegistration id))))) := by
  obtain ⟨runs, ready'⟩ := Service.performAll_cache ready ops
  refine ⟨runs, ready', ?_⟩
  intro t id requester unregistered
  simp only [Service.perform]
  rw [World.resolve_unknown t.world unregistered]

namespace Evicted

def registration : ClientRegistration :=
  { registrationId := "svc", clientId := "app", grantType := .clientCredentials,
    tokenUri := "/token" }

/-- Nothing is stored, and the clock moves on by a second with each reading. -/
def service : Service where
  engine := ⟨.unlisted [registration], ⟨[.plugin "Issuer" .clientCredentials 0]⟩, {}⟩
  world :=
    { clock := default
      tick := .steady 1000000
      transport := fun _ => { reply := .interrupted }
      plugin := fun _ _ => .ok { accessToken := "t", expiresIn := some 300 }
      shared := { store := .memory [] } }

/-- The client is used until it is removed, and then there is another exchange. -/
def operations : List Operation :=
  [.resolve "svc" .nobody, .resolve "svc" .nobody, .evict "svc" .nobody, .resolve "svc" .nobody]

theorem ready : service.Ready where
  sound :=
    { trouble := rfl
      forward := fun _ t => t.notAfter_shift? (by decide)
      delay := fun _ => Int.le_refl 0 }
  idle := rfl

end Evicted

open Evicted in
/-- A client that is evicted is asked for once more: its plug-in is called twice. -/
theorem evicted_client_exchanged_again :
    service.Ready ∧ (service.performAll operations).1.world.asked = [0, 0] ∧
      service.cache.Runs operations (service.performAll operations).1.cache
        (service.performAll operations).2 :=
  ⟨ready, by decide +kernel, (operations_follow_cache ready operations).1⟩

end TokenBroker
