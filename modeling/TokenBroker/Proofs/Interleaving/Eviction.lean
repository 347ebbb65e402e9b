import TokenBroker.Proofs.Interleaving.Acquisition
import TokenBroker.Proofs.Interleaving.Origins

/-!
# Clients after an eviction

What a call can return that begins after the entry of its key has been removed. The removal is one
of the store alone. From then on the store gives only what has been put under the key since
(`Interleaving.entry_since`), but an attempt for the key that is under way goes on, and one that has
come by its client already hands it to every call that joins before the key is given back.

`evicted_unless_shared` says that there is no other way, and `evicted_client_returned` is a run in
which it happens: the client is saved, removed, and returned to a call that began after that.
-/

namespace TokenBroker

namespace Engine

variable {r : Interleaving} {k : Key} {reg : ClientRegistration} {c c₀ c₁ old : AuthorizedClient}
  {o : Outcome} {i j a m n q t : Nat} {p : Phase}

namespace Interleaving

/-! ## The entry since the removal -/

/-- With event `q` a client is put under a key: somebody else saves it, or a call does. -/
def Puts (r : Interleaving) (q : Nat) (k : Key) (c : AuthorizedClient) : Prop :=
  (r.event q = .save c ∧ c.key = k) ∨ ∃ j, r.Saves q j k c

/-- While an entry is removed no call moves. -/
theorem MovesAt.ne_of_evict {l : Key} {p q : Phase} (moved : r.MovesAt m j l p q)
    (evicted : r.event n = .evict k) : m ≠ n := by
  rintro rfl
  obtain ⟨env, stepped⟩ := moved.stepped
  rw [evicted] at stepped
  cases stepped

/-- An entry was there before or has just been put. -/
theorem entry_from (found : (r.scene (n + 1)).entry k = some c) :
    (r.scene n).entry k = some c ∨
      ∃ c₀, r.Puts n k c₀ ∧ Store.retrieve r.store.kind c₀ = some c := by
  by_cases written : (r.event n).writes k = true
  · cases hev : r.event n with
    | evict l =>
      rw [hev] at written
      obtain rfl : l = k := by simpa [Event.writes] using written
      rw [entry_evict hev] at found
      cases found
    | save c₀ =>
      rw [hev] at written
      obtain rfl : c₀.key = k := by simpa [Event.writes] using written
      rw [entry_save hev] at found
      exact .inr ⟨c₀, .inl ⟨hev, rfl⟩, found⟩
    | _ =>
      rw [hev] at written
      cases written
  · rcases entry_cases (Bool.eq_false_iff.2 written) with
      same | ⟨i, a, f, o, -, -, gone⟩ | ⟨i, a, g, c₀, at_i, after, stored⟩
    · rw [same] at found
      exact .inl found
    · rw [gone] at found
      cases found
    · rw [stored] at found
      exact .inr ⟨c₀, .inr ⟨i, a, g, at_i, after⟩, found⟩

/-- What the store gives after a removal has been put there since. -/
theorem entry_since (evicted : r.event n = .evict k) (hnt : n < t)
    (found : (r.scene t).entry k = some c) :
    ∃ q c₀, n < q ∧ q < t ∧ r.Puts q k c₀ ∧ Store.retrieve r.store.kind c₀ = some c := by
  induction hnt with
  | refl =>
    rw [entry_evict evicted] at found
    cases found
  | @step t hnt ih =>
    rcases entry_from found with earlier | ⟨c₀, puts, retrieved⟩
    · obtain ⟨q, c₀, hn, ht, put⟩ := ih earlier
      exact ⟨q, c₀, hn, Nat.lt_succ_of_lt ht, put⟩
    · exact ⟨t, c₀, hnt, Nat.lt_succ_self t, puts, retrieved⟩

/-! ## Calls that begin later -/

/-- A call has not begun by the end of event `n`. -/
def BeginsAfter (r : Interleaving) (n i : Nat) : Prop := (r.scene (n + 1)).calls.length ≤ i

/-- A call that begins after an event is not among the calls at that event. -/
theorem BeginsAfter.lt {call : Call} (h : r.BeginsAfter n i)
    (at_i : (r.scene q).calls[i]? = some call) :
    n < q := by
  refine Nat.lt_of_not_le fun hqn => ?_
  have begun := (List.getElem?_eq_some_iff.1 at_i).1
  have kept := r.begun (Nat.le_succ_of_le hqn)
  exact absurd h (Nat.not_le_of_lt (Nat.lt_of_lt_of_le begun kept))

/-- The attempt that such a call waits for is still led after the event. -/
theorem BeginsAfter.leads (h : r.BeginsAfter n i)
    (waits : (r.scene q).calls[i]? = some ⟨k, .waiting a⟩) (led : (r.scene m).Leads j k a) :
    ∃ q', n < q' ∧ q' < q ∧ (r.scene q').Leads j k a := by
  obtain ⟨q', hq, ⟨p, at_i⟩, taken⟩ := waits_joined (Scene.stands_waits_iff.2 waits)
  obtain ⟨j', led'⟩ := (r.coordinated q').holder taken
  obtain ⟨rfl, -⟩ := leader_of_attempt led' led
  exact ⟨q', h.lt at_i, hq, led'⟩

end Interleaving

open Interleaving

/-! ## What a leader has in hand -/

/-- A leader has come by a client: it is about to judge it, or to publish it, or has published
it. -/
def Phase.InHand (c : AuthorizedClient) : Phase → Prop
  | .rejudging reg _ old => c = old.bind reg
  | .publishing _ o | .releasing _ o => o = .ok c
  | _ => False

namespace Interleaving

/-- A call that has its outcome keeps it. -/
theorem settled_later (hmn : m ≤ n) (at_j : (r.scene m).calls[j]? = some ⟨k, p⟩)
    (settled : p.settled? = some o) :
    ∃ p', (r.scene n).calls[j]? = some ⟨k, p'⟩ ∧ p'.settled? = some o := by
  induction hmn with
  | refl => exact ⟨p, at_j, settled⟩
  | @step n _ ih =>
    obtain ⟨p', at_j', settled'⟩ := ih
    rcases (r.turn n).call_cases at_j' with stays | ⟨env, q, -, move, hq⟩
    · exact ⟨p', stays, settled'⟩
    · exact ⟨q, hq, move.settled_kept settled'⟩

/-- A leader that has settled on a client has it in hand until it gives its key back. -/
theorem inHand_of_settled (hmn : m ≤ n) (at_j : (r.scene m).calls[j]? = some ⟨k, p⟩)
    (settled : p.settled? = some (.ok c)) (hnq : n ≤ q) (led : (r.scene q).Leads j k a) :
    ∃ p', (r.scene n).calls[j]? = some ⟨k, p'⟩ ∧ p'.leads? = some a ∧ p'.InHand c := by
  have same : ∀ {b}, (r.scene n).Leads j k b → b = a := by
    intro b led'
    rcases leads_or_answered hnq led' with still | ⟨⟨o, ended, -⟩, -⟩
    · exact ((r.coordinated q).leader_unique still led).2
    · exact absurd ended led.not_ended
  obtain ⟨p', at_j', settled'⟩ := settled_later hmn at_j settled
  cases p' with
  | publishing b o | releasing b o =>
    obtain rfl := same ⟨_, at_j', rfl⟩
    cases settled'
    exact ⟨_, at_j', rfl, rfl⟩
  | finished o =>
    have ended := Interleaving.ended hnq (Scene.stands_ended_iff.2 at_j')
    exact absurd ended led.not_ended
  | _ => cases settled'

/-- A leader that has loaded a client and will judge it usable has it in hand until it gives its key
back. -/
theorem inHand_of_loaded (loaded : r.MovesAt m j k (.reloading reg a) (.rejudging reg a old))
    (judged : r.MovesAt t j k (.rejudging reg a old) (.publishing a (.ok (old.bind reg))))
    (hmn : m < n) (hnq : n ≤ q) (led : (r.scene q).Leads j k a) :
    ∃ p, (r.scene n).calls[j]? = some ⟨k, p⟩ ∧ p.leads? = some a ∧ p.InHand (old.bind reg) := by
  rcases Nat.lt_or_ge t n with htn | hnt
  · exact inHand_of_settled htn judged.at_q rfl hnq led
  · -- the leader does not move between load and judgement
    obtain ⟨p, at_j, late⟩ := r.phase_later hmn loaded.at_q
    obtain ⟨p', at_j', early⟩ := r.phase_later hnt at_j
    rw [judged.at_p] at at_j'
    cases at_j'
    obtain rfl : p = .rejudging reg a old := by
      rcases late with same | late
      · exact same
      · rcases early with same | early
        · exact same.symm
        · exact absurd early (Nat.lt_asymm late)
    exact ⟨_, at_j, rfl, rfl⟩

/-- At event `n` an attempt for a key is under way whose leader has a client in hand, and a call
joins it later, before event `m`. -/
def SharesAt (r : Interleaving) (n m i : Nat) (k : Key) (c : AuthorizedClient) : Prop :=
  ∃ (j a : Nat) (p : Phase), (r.scene n).calls[j]? = some ⟨k, p⟩ ∧ p.leads? = some a ∧ p.InHand c ∧
    ∃ q, n < q ∧ q < m ∧ (r.scene q).calls[i]? = some ⟨k, .waiting a⟩

/-- Between two events a client is put under a key that the store gives back as a certain one, once
that is bound to the registration of the key. -/
def PutBetween (r : Interleaving) (n m : Nat) (k : Key) (c : AuthorizedClient) : Prop :=
  ∃ q c₀, n < q ∧ q < m ∧ r.Puts q k c₀ ∧
    (c = c₀ ∨ ∃ c₁ reg, Store.retrieve r.store.kind c₀ = some c₁ ∧
      r.engine.source.find? k.registrationId = some reg ∧ c = c₁.bind reg)

/-- What is found after an eviction was put after the eviction. -/
theorem putBetween_of_entry (evicted : r.event n = .evict k) (hnt : n < t) (htm : t < m)
    (found : (r.scene t).entry k = some old)
    (registered : r.engine.source.find? k.registrationId = some reg) :
    r.PutBetween n m k (old.bind reg) := by
  obtain ⟨q, c₀, hn, ht, puts, retrieved⟩ := entry_since evicted hnt found
  exact ⟨q, c₀, hn, Nat.lt_trans ht htm, puts, .inr ⟨old, reg, retrieved, registered, rfl⟩⟩

end Interleaving

/-! ## The result -/

/-- **What is removed is not returned later, unless it is shared.** Whatever the interleaving: a
call for a key that begins after the entry of the key has been removed ends with a client that has
been put under the key since, as saved or as the store gives it back and bound to the registration
that is configured; or it shares the outcome of an attempt for the key whose leader had the client
in hand when the entry was removed. -/
theorem evicted_unless_shared (evicted : r.event n = .evict k) (later : r.BeginsAfter n i)
    (given : (r.scene m).calls[i]? = some ⟨k, .finished (.ok c)⟩) :
    r.PutBetween n m k c ∨ r.SharesAt n m i k c := by
  cases origin given with
  | @judged m₁ reg old before moves usable bound =>
    left
    obtain ⟨m₂, h₂, loading, found⟩ := judging_from moves.at_p
    rw [bound]
    exact putBetween_of_entry evicted (later.lt loading) (Nat.lt_trans h₂ before) found
      (belongsTo moves.at_p)
  | @rejudged m₁ j a reg old before moves usable bound part =>
    obtain ⟨m₂, h₂, loaded, found⟩ := rejudging_from moves.at_p
    subst bound
    rcases Nat.lt_or_ge n m₂ with hn | hn
    · exact .inl (putBetween_of_entry evicted hn (Nat.lt_trans h₂ before) found
        (belongsTo moves.at_p))
    · right
      -- the client was loaded before the eviction, so the call must have joined a leader in flight
      have hm₂ : m₂ < n := Nat.lt_of_le_of_ne hn (loaded.ne_of_evict evicted)
      rcases part with rfl | ⟨q, hq, waits⟩
      · exact absurd (later.lt loaded.at_p) (Nat.not_lt_of_le hn)
      · obtain ⟨q', hn', hq', led⟩ := later.leads waits ⟨_, moves.at_p, rfl⟩
        obtain ⟨p, at_j, leads, inHand⟩ :=
          inHand_of_loaded loaded moves hm₂ (Nat.le_of_lt hn') led
        exact ⟨j, a, p, at_j, leads, inHand, q, Nat.lt_trans hn' hq', hq, waits⟩
  | @saved m₁ j a g before moves part =>
    rcases Nat.lt_or_ge n m₁ with hn | hn
    · exact .inl ⟨m₁, c, hn, before, .inr ⟨j, a, g, moves.at_p, moves.at_q⟩, .inl rfl⟩
    · right
      have hm₁ : m₁ < n := Nat.lt_of_le_of_ne hn (moves.ne_of_evict evicted)
      rcases part with rfl | ⟨q, hq, waits⟩
      · exact absurd (later.lt moves.at_p) (Nat.not_lt_of_le hn)
      · obtain ⟨q', hn', hq', led⟩ := later.leads waits ⟨_, moves.at_p, rfl⟩
        obtain ⟨p, at_j, leads, inHand⟩ :=
          inHand_of_settled hm₁ moves.at_q rfl (Nat.le_of_lt hn') led
        exact ⟨j, a, p, at_j, leads, inHand, q, Nat.lt_trans hn' hq', hq, waits⟩

/-! ## A client shared after its removal -/

namespace SharedLate

def registration : ClientRegistration :=
  { registrationId := "svc", clientId := "app", grantType := .clientCredentials,
    tokenUri := "/token" }

def system : Key := ⟨"svc", "system"⟩

def now : DateTime := default

def calm : Surroundings := { now, response := .ok { accessToken := "t", expiresIn := some 300 } }

/-- The first call saves its client; before it publishes it, the entry is removed and the second
call begins. -/
def script : List Event :=
  .begin system :: List.replicate 7 (.step 0 calm) ++
    [.evict system, .begin system, .step 1 calm, .step 1 calm, .step 0 calm, .step 1 calm]

def run : Interleaving where
  engine := ⟨.unlisted [registration], ⟨[.plugin "Issuer" .clientCredentials 0]⟩, {}⟩
  clock := now
  store := .memory []
  event n := script.getD n .pause

def client : AuthorizedClient where
  registration := registration
  principalName := "system"
  accessToken := { value := "t", issuedAt := some now, expiresAt := now.shift? 300000000 }

def isSaving : Phase → Bool
  | .saving .. => true
  | _ => false

/-- The second call ends with a client. -/
theorem given : (run.scene 14).calls[1]? = some ⟨system, .finished (.ok client)⟩ := by
  have ended : ((run.scene 14).calls[1]?.bind fun call => call.ends?) = some (system, client) := by
    decide +kernel
  obtain ⟨call, at_1, ends⟩ := Option.bind_eq_some_iff.1 ended
  rw [at_1, Call.eq_of_ends? ends]

/-- The second call begins after the eviction. -/
theorem later : run.BeginsAfter 8 1 := by
  show (run.scene 9).calls.length ≤ 1
  decide +kernel

/-- Nothing moves once the script is through. -/
theorem scene_eq {n : Nat} (hn : 14 ≤ n) : run.scene n = run.scene 14 := by
  induction hn with
  | refl => rfl
  | @step n hn ih =>
    have past : script[n]? = none := List.getElem?_eq_none hn
    have paused : run.event n = .pause := by
      show script.getD n .pause = .pause
      rw [List.getD_eq_getElem?_getD, past]
      rfl
    rw [← ih]
    show (run.scene n).after run.engine (run.event n) = run.scene n
    rw [paused]
    rfl

/-- From the eviction on no call is about to save. -/
theorem not_saving {n : Nat} (hn : 8 ≤ n) : (run.scene n).calls.all (!isSaving ·.phase) = true := by
  rcases Nat.lt_or_ge n 14 with script | past
  · exact (by decide +kernel :
      ∀ n < 14, 8 ≤ n → (run.scene n).calls.all (!isSaving ·.phase) = true) n script hn
  · rw [scene_eq past]
    decide +kernel

theorem not_puts {n : Nat} (hn : 8 ≤ n) (c : AuthorizedClient) : ¬ run.Puts n system c := by
  rintro (⟨saved, -⟩ | ⟨j, a, g, at_j, -⟩)
  · rcases Event.getD_pause_cases script n with member | paused
    · rw [show script.getD n .pause = .save c from saved] at member
      simp [script] at member
    · rw [show script.getD n .pause = .save c from saved] at paused
      cases paused
  · have none_saves := List.all_eq_true.1 (not_saving hn) _ (List.mem_of_getElem? at_j)
    cases none_saves

end SharedLate

open SharedLate in
/-- The second call shares the outcome of the first. -/
theorem removed_client_shared :
    run.event 8 = .evict system ∧ run.BeginsAfter 8 1 ∧
      (run.scene 14).calls[1]? = some ⟨system, .finished (.ok client)⟩ ∧
      run.SharesAt 8 14 1 system client := by
  refine ⟨rfl, later, given, ?_⟩
  rcases evicted_unless_shared rfl later given with ⟨q, c₀, hq, -, puts, -⟩ | shares
  · exact absurd puts (not_puts (Nat.le_of_lt hq) c₀)
  · exact shares

open SharedLate in
/-- A client is stored for a key when the entry of the key is removed, nothing is put under the key
after that, and a call that begins still later ends with that client. -/
theorem evicted_client_returned :
    (run.scene 8).entry system = some client ∧ run.event 8 = .evict system ∧
      (∀ q c, 8 < q → ¬ run.Puts q system c) ∧ run.BeginsAfter 8 1 ∧
      (run.scene 14).calls[1]? = some ⟨system, .finished (.ok client)⟩ :=
  ⟨by decide +kernel, rfl, fun _ c hq => not_puts (Nat.le_of_lt hq) c, later, given⟩

end Engine

end TokenBroker
