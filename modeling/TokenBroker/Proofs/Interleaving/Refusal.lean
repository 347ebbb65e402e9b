import TokenBroker.Proofs.Interleaving.Writes

/-!
# Refused refresh tokens

What a leader removes when the refresh token that it has sent is refused (`Refusal`). The removal
names the key, not the client, so it takes whatever is stored by then. As long as nobody else
writes, that is the client whose token was refused (`Refusal.entry_unwritten`); a client that
another writer saves after the leader's load is taken as well. `refusal_loses_later_save` says
exactly when that happens, and `late_login_logged_out` is an example: a user who logs in while the
exchange is under way is logged out.
-/

namespace TokenBroker

namespace Engine

variable {e : Engine} {key k : Key} {env : Surroundings} {s t : Shared} {p q : Phase}
  {r : Interleaving} {reg : ClientRegistration} {old c : AuthorizedClient} {f : Failure}
  {i a m n : Nat}

/-! ## The exchange that is refused -/

/-- A leader is on its way to send the refresh token of the client that it has loaded, or has sent
it. -/
def Phase.Refreshes (e : Engine) (key : Key) (reg : ClientRegistration) (old : AuthorizedClient)
    (a : Nat) : Phase → Prop
  | .rejudging r b c => r = reg ∧ b = a ∧ c = old
  | .stamping b p | .sending b p _ | .receiving b p _ _ _ =>
    b = a ∧ e.plan key reg (some old) = .ok p
  | _ => False

/-- An attempt has come to an end, or has got a client. -/
def Phase.Concludes : Phase → Prop
  | .saving .. | .publishing .. | .releasing .. | .finished _ => True
  | _ => False

/-- A phase in which the refresh token of a client is with the authorization server. -/
def Phase.HasSent (reg : ClientRegistration) (old : AuthorizedClient) (a : Nat) : Phase → Prop
  | .receiving b p _ _ _ => b = a ∧
      ∃ token, old.refreshToken = some token ∧ p.request = .refreshToken reg old.accessToken token
  | _ => False

/-- A call that concludes goes on concluding. -/
theorem Move.concludes (h : Move e key env s p t q) (hp : p.Concludes) : q.Concludes := by
  cases h with
  | saveFails | saves | publishes | releases => trivial
  | _ => cases hp

/-- A call that refreshes goes on so, until it has sent its request or concludes. -/
theorem Move.refreshes (h : Move e key env s p t q) (hp : p.Refreshes e key reg old a) :
    q.Refreshes e key reg old a ∨ q.Concludes ∨ p.HasSent reg old a := by
  cases h with
  | rejudgeFails | rejudgesUsable | mismatches | obtains | fails => exact .inr (.inl trivial)
  | @rejudgesExpired r b c =>
    obtain ⟨rfl, rfl, rfl⟩ := hp
    rcases proceed_cases e key r b (some c) with ⟨pl, planned, hq⟩ | ⟨f, -, hq⟩
    · rw [hq]
      exact .inl ⟨rfl, planned⟩
    · rw [hq]
      exact .inr (.inl trivial)
  | stamps | sends => exact .inl hp
  | isRefused _ refreshing =>
    obtain ⟨rfl, planned⟩ := hp
    right; right
    -- an unattended plan replaces no client, so nothing is dropped for it
    rcases plan_eq_ok planned with ⟨-, -, nothing⟩ | ⟨-, old', token, hold, htoken, request, -⟩
    · rw [nothing] at refreshing
      cases refreshing
    · cases hold
      exact ⟨rfl, token, htoken, request⟩
  | _ => cases hp

/-- A leader that goes on to judge a client has loaded it again. -/
theorem Move.loads_again (h : Move e key env s (.reloading reg a) t q)
    (hq : q = .rejudging reg a old) : Loads env key s (some old) t := by
  cases h with
  | reloadFails => cases hq
  | reloadsSome loads =>
    cases hq
    exact loads
  | reloadsNone =>
    rcases proceed_cases e key reg a none with ⟨_, -, hs⟩ | ⟨_, -, hs⟩
    · rw [hs] at hq
      cases hq
    · rw [hs] at hq
      cases hq

/-- A call loads a client for its key with event `m`, sends its refresh token, and removes the entry
of the key with event `n`, since the token was refused. -/
structure Interleaving.Refusal (r : Interleaving) (i : Nat) (k : Key) (a : Nat)
    (reg : ClientRegistration) (old : AuthorizedClient) (f : Failure) (m n : Nat) : Prop where
  loading : (r.scene m).calls[i]? = some ⟨k, .reloading reg a⟩
  loaded : (r.scene (m + 1)).calls[i]? = some ⟨k, .rejudging reg a old⟩
  refused : (r.scene n).calls[i]? = some ⟨k, .dropping a f⟩
  removes : ∃ env, r.event n = .step i env ∧ env.storeFault = none

/-- A client was the last thing that another writer saved for a key between two events. -/
def Interleaving.SavedLast (r : Interleaving) (k : Key) (m n : Nat) (c : AuthorizedClient) : Prop :=
  ∃ q, m < q ∧ q < n ∧ r.event q = .save c ∧ c.key = k ∧
    ∀ q', q < q' → q' < n → (r.event q').writes k = false

/-- An event removes an entry that another writer has saved after an earlier event. -/
def Interleaving.LosesSave (r : Interleaving) (k : Key) (m n : Nat) : Prop :=
  ∃ saved c, r.SavedLast k m n saved ∧ Store.retrieve r.store.kind saved = some c ∧
    (r.scene n).entry k = some c ∧ (r.scene (n + 1)).entry k = none

namespace Interleaving.Refusal

variable (h : r.Refusal i k a reg old f m n)

include h

/-- The refusal comes after the client was loaded. -/
theorem lt : m < n := by
  refine Nat.lt_of_not_le fun hnm => ?_
  obtain ⟨p, hp, later⟩ := r.phase_later hnm h.refused
  rw [h.loading] at hp
  cases hp
  simp [Phase.rank] at later

/-- The refresh token that was refused is the one of the client that was loaded. -/
theorem sent : ∃ q p, m < q ∧ q < n ∧ (r.scene q).calls[i]? = some ⟨k, p⟩ ∧
    p.HasSent reg old a := by
  have track : ∀ n, m + 1 ≤ n →
      (∃ p, (r.scene n).calls[i]? = some ⟨k, p⟩ ∧
        (p.Refreshes r.engine k reg old a ∨ p.Concludes)) ∨
      ∃ q p, m < q ∧ q < n ∧ (r.scene q).calls[i]? = some ⟨k, p⟩ ∧ p.HasSent reg old a := by
    intro n hmn
    induction hmn with
    | refl => exact .inl ⟨_, h.loaded, .inl ⟨rfl, rfl, rfl⟩⟩
    | @step n hmn ih =>
      rcases ih with ⟨p, hp, on⟩ | ⟨q, p, hm, hn, sent⟩
      · rcases (r.turn n).call_cases hp with h' | ⟨env, q, -, move, hq⟩
        · exact .inl ⟨p, h', on⟩
        · rcases on with on | done
          · rcases move.refreshes on with next | done | sent
            · exact .inl ⟨q, hq, .inl next⟩
            · exact .inl ⟨q, hq, .inr done⟩
            · exact .inr ⟨n, p, hmn, Nat.lt_succ_self n, hp, sent⟩
          · exact .inl ⟨q, hq, .inr (move.concludes done)⟩
      · exact .inr ⟨q, p, hm, Nat.lt_succ_of_lt hn, sent⟩
  rcases track n h.lt with ⟨p, hp, on⟩ | sent
  · rw [h.refused] at hp
    cases hp
    rcases on with on | on
    · cases on
    · cases on
  · exact sent

/-- The store held the client when it was loaded. -/
theorem entry_loaded : (r.scene (m + 1)).entry k = some old := by
  rcases (r.turn m).call_cases h.loading with h' | ⟨env, q, -, move, hq⟩
  · rw [h.loaded] at h'
    cases h'
  · rw [h.loaded] at hq
    cases hq
    have loads := move.loads_again rfl
    show (r.scene (m + 1)).shared.store.entry k = some old
    rw [loads.entry k]
    rcases loads.client with hc | ⟨-, hc⟩
    · exact hc.symm
    · cases hc

/-- Between load and removal only other writers change the entry: the call itself leads its key and
is short of its own write. -/
theorem entry_step {j : Nat} (hm : m < j) (hn : j < n) (quiet : (r.event j).writes k = false) :
    (r.scene (j + 1)).entry k = (r.scene j).entry k := by
  obtain ⟨p, hp, late⟩ := r.phase_later hm h.loaded
  obtain ⟨p', hp', early⟩ := r.phase_later (Nat.le_of_lt hn) hp
  rw [h.refused] at hp'
  cases hp'
  have led : ∃ b, (r.scene j).Leads i k b := by
    cases p with
    | rejudging | stamping | sending | receiving | dropping | saving => exact ⟨_, _, hp, rfl⟩
    | _ => simp [Phase.rank] at early late
  obtain ⟨b, led⟩ := led
  -- whoever writes for the key leads it, and is this call, which would then be past its removal
  have nowrite : ∀ {i' : Nat} {b' : Nat} {o : Outcome}, (r.scene j).Leads i' k b' →
      (r.scene (j + 1)).calls[i']? ≠ some ⟨k, .publishing b' o⟩ := by
    intro i' b' o led' after
    obtain ⟨rfl, -⟩ := (r.coordinated j).leader_unique led led'
    obtain ⟨p', hp', before⟩ := r.phase_later hn after
    rw [h.refused] at hp'
    cases hp'
    simp [Phase.rank] at before
  rcases entry_cases quiet with same | ⟨i', b', f', o, at_i', after, -⟩
    | ⟨i', b', g, c, at_i', after, -⟩
  · exact same
  · exact absurd after (nowrite ⟨_, at_i', rfl⟩)
  · exact absurd after (nowrite ⟨_, at_i', rfl⟩)

/-- Where no event writes to the key, its entry stays. -/
theorem entry_quiet {j l : Nat} (hm : m < j) (hjl : j ≤ l) (hn : l ≤ n)
    (quiet : ∀ q, j ≤ q → q < l → (r.event q).writes k = false) :
    (r.scene l).entry k = (r.scene j).entry k := by
  induction hjl with
  | refl => rfl
  | @step l hjl ih =>
    rw [h.entry_step (Nat.lt_of_lt_of_le hm hjl) hn (quiet l hjl (Nat.lt_succ_self l))]
    exact ih (Nat.le_of_succ_le hn) fun q hq hl => quiet q hq (Nat.lt_succ_of_lt hl)

/-- What nobody else has written since the load is the client that was loaded. -/
theorem entry_unwritten (quiet : ∀ q, m < q → q < n → (r.event q).writes k = false) :
    (r.scene n).entry k = some old := by
  rw [h.entry_quiet (Nat.lt_succ_self m) h.lt (Nat.le_refl n) quiet]
  exact h.entry_loaded

/-- A client that was saved last is the one in the store. -/
theorem entry_of_savedLast (saved : r.SavedLast k m n c) :
    (r.scene n).entry k = Store.retrieve r.store.kind c := by
  obtain ⟨q, hm, hn, hc, rfl, quiet⟩ := saved
  rw [h.entry_quiet (Nat.lt_succ_of_lt hm) hn (Nat.le_refl n) quiet]
  exact entry_save hc

/-- The entry is the client that was loaded, unless another writer has removed or saved one
since. -/
theorem entry_eq : (r.scene n).entry k = some old ∨ (r.scene n).entry k = none ∨
    ∃ saved, r.SavedLast k m n saved := by
  rcases r.quiet_or_last_write k m n with quiet | ⟨q, hm, hn, written, quiet⟩
  · exact .inl (h.entry_unwritten quiet)
  · cases hev : r.event q with
    | evict l =>
      rw [hev] at written
      obtain rfl : l = k := by simpa [Event.writes] using written
      right; left
      rw [h.entry_quiet (Nat.lt_succ_of_lt hm) hn (Nat.le_refl n) quiet]
      exact entry_evict hev
    | save c =>
      rw [hev] at written
      exact .inr (.inr ⟨c, q, hm, hn, hev, by simpa [Event.writes] using written, quiet⟩)
    | _ =>
      rw [hev] at written
      cases written

/-- The refusal removes whatever the store holds under the key. -/
theorem store_removed : (r.scene (n + 1)).shared.store = (r.scene n).shared.store.remove k := by
  obtain ⟨env, hev, sound⟩ := h.removes
  have at_n := h.refused
  show ((r.scene n).after r.engine (r.event n)).shared.store = _
  rw [hev]
  simp only [Scene.after, at_n, step, sound]

end Interleaving.Refusal

/-! ## What a removal loses -/

/-- **When a refused refresh token costs a client saved later.** Whatever other calls and other
writers do meanwhile, and whatever the kind of store: the token that was refused is the one of the
client that the attempt has loaded. The removal takes a client that another writer has saved since
exactly if such a save was the last write for the key and the store gives the client back. Otherwise
it takes the loaded client or finds nothing. It takes the entry of its own key only. -/
theorem refusal_loses_later_save (h : r.Refusal i k a reg old f m n) :
    (∃ q p, m < q ∧ q < n ∧ (r.scene q).calls[i]? = some ⟨k, p⟩ ∧ p.HasSent reg old a) ∧
      (r.LosesSave k m n ↔
        ∃ saved, r.SavedLast k m n saved ∧ (Store.retrieve r.store.kind saved).isSome) ∧
      ((∀ saved, ¬ r.SavedLast k m n saved) →
        (r.scene n).entry k = some old ∨ (r.scene n).entry k = none) ∧
      (r.scene (n + 1)).entry k = none ∧
      ∀ l, l ≠ k → (r.scene (n + 1)).entry l = (r.scene n).entry l := by
  have gone : (r.scene (n + 1)).entry k = none := by
    show (r.scene (n + 1)).shared.store.entry k = none
    rw [h.store_removed, Store.entry_remove_self]
  refine ⟨h.sent, ⟨?_, ?_⟩, ?_, gone, ?_⟩
  · rintro ⟨saved, c, last, recalled, -, -⟩
    exact ⟨saved, last, by rw [recalled]; rfl⟩
  · rintro ⟨saved, last, recalled⟩
    obtain ⟨c, hc⟩ := Option.isSome_iff_exists.1 recalled
    exact ⟨saved, c, last, hc, by rw [h.entry_of_savedLast last, hc], gone⟩
  · intro none_saved
    rcases h.entry_eq with loaded | nothing | ⟨saved, last⟩
    · exact .inl loaded
    · exact .inr nothing
    · exact absurd last (none_saved saved)
  · intro l hl
    show (r.scene (n + 1)).shared.store.entry l = _
    rw [h.store_removed, Store.entry_remove_of_ne hl]
    rfl

/-! ## A login during the exchange -/

namespace LateLogin

/-- The time at which everything happens. -/
def now : DateTime := default

def registration : ClientRegistration :=
  { registrationId := "web", clientId := "app", grantType := .authorizationCode,
    tokenUri := "/token" }

def alice : Key := ⟨"web", "alice"⟩

/-- The client that is stored at first. -/
def stale : AuthorizedClient where
  registration := registration
  principalName := "alice"
  accessToken := { value := "a1", expiresAt := some now }
  refreshToken := some ⟨"r1", none⟩

/-- The client that the user gets by logging in. -/
def fresh : AuthorizedClient where
  registration := registration
  principalName := "alice"
  accessToken := { value := "a2", expiresAt := now.shift? 3600000000 }
  refreshToken := some ⟨"r2", none⟩

def refusal : Failure := .rejected "invalid_grant" .null .null .null

def calm : Surroundings := { now }

/-- One call for the user, with the login between the request and its answer. -/
def run : Interleaving where
  engine := ⟨.unlisted [registration], ⟨[.plugin "Refresher" .refreshToken 0]⟩, {}⟩
  clock := now
  store := .memory [(alice, stale)]
  event n :=
    [.begin alice, .step 0 calm, .step 0 calm, .step 0 calm, .step 0 calm, .step 0 calm,
      .step 0 calm, .step 0 calm, .save fresh,
      .step 0 { calm with response := .error (.failure refusal) }, .step 0 calm].getD n .pause

set_option maxRecDepth 20000 in
/-- The server refuses the refresh token of the stale client. -/
theorem run_refusal : run.Refusal 0 alice 0 registration stale refusal 4 10 where
  loading := rfl
  loaded := rfl
  refused := rfl
  removes := ⟨calm, rfl, rfl⟩

/-- A login saves a fresh client between the request and its refusal. -/
theorem fresh_savedLast : run.SavedLast alice 4 10 fresh := by
  refine ⟨8, by decide, by decide, rfl, rfl, ?_⟩
  intro q hq hq'
  obtain rfl : q = 9 := by omega
  rfl

end LateLogin

open LateLogin in
/-- The refusal of the stale client removes the fresh one, which a login saved while the request was
under way. -/
theorem late_login_loses_save :
    run.Refusal 0 alice 0 registration stale refusal 4 10 ∧ run.LosesSave alice 4 10 :=
  ⟨run_refusal, (refusal_loses_later_save run_refusal).2.1.2 ⟨fresh, fresh_savedLast, rfl⟩⟩

open LateLogin in
/-- The user has logged in and has a client with a refresh token of its own and an access token that
is good for hours. The refusal of the old refresh token removes it. -/
theorem late_login_logged_out :
    run.Refusal 0 alice 0 registration stale refusal 4 10 ∧ run.SavedLast alice 4 10 fresh ∧
      (run.scene 10).entry alice = some fresh ∧ fresh.refreshToken ≠ stale.refreshToken ∧
      (run.engine.isUsable fresh (run.scene 10).clock).toOption = some true ∧
      (run.scene 11).entry alice = none :=
  ⟨run_refusal, fresh_savedLast, by decide +kernel, by decide, by decide +kernel, by decide +kernel⟩

end Engine

end TokenBroker
