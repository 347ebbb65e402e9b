import TokenBroker.Proofs.Engine.Freshness
import TokenBroker.Proofs.Interleaving.Sharing
import TokenBroker.Proofs.Interleaving.Writes

/-!
# Acquiring a client once

Any number of calls for one key of an unattended registration, on a store that nobody else writes
for the key and that remembers what it is given, with exchanges whose clients stay usable
(`Steady`). However the steps of the calls fall, the run is in one of three stages: no exchange for
the key has succeeded (`Fruitless`), one has and its client is about to be saved (`Obtained`), or
the client is stored (`Stored`). A call that has missed the client before it was stored does no
harm: it has to take the key before it makes an exchange, and then looks into the store again.

`acquired_once` states the result: one exchange succeeds at most, none begins once its client is
saved, and all calls that return a client return that one.
-/

namespace TokenBroker

namespace Engine

variable {r : Interleaving} {k : Key} {reg : ClientRegistration} {c c₀ : AuthorizedClient}
  {i j m n : Nat} {p : Phase}

namespace Interleaving

/-! ## Successes -/

/-- With event `n` an exchange of a call for a key succeeds, and this is what the engine makes of
the response. -/
def Succeeds (r : Interleaving) (n i : Nat) (k : Key) (o : Outcome) : Prop :=
  ∃ env a pl issuedAt sent ticket response, r.event n = .step i env ∧
    (r.scene n).calls[i]? = some ⟨k, .receiving a pl issuedAt sent ticket⟩ ∧
    env.result sent = .ok response ∧ r.engine.clientOf k pl issuedAt response = o

/-- With event `n` a call for a key starts an exchange. -/
def StartsExchange (r : Interleaving) (n i : Nat) (k : Key) : Prop :=
  ∃ a pl issuedAt sent ticket, (r.scene n).calls[i]? = some ⟨k, .sending a pl issuedAt⟩ ∧
    (r.scene (n + 1)).calls[i]? = some ⟨k, .receiving a pl issuedAt sent ticket⟩

/-- With event `n` a call for a key has its client saved. -/
def Saves (r : Interleaving) (n i : Nat) (k : Key) (c : AuthorizedClient) : Prop :=
  ∃ a g, (r.scene n).calls[i]? = some ⟨k, .saving a g c⟩ ∧
    (r.scene (n + 1)).calls[i]? = some ⟨k, .publishing a (.ok c)⟩

/-- The calls for a key are left alone: their registration is unattended, the clock does not go
back, the store gives back what was saved, had no usable client at the start and is not written by
others, and every success gives a client that stays usable. -/
structure Steady (r : Interleaving) (k : Key) (reg : ClientRegistration) : Prop where
  registered : r.engine.source.find? k.registrationId = some reg
  unattended : reg.grantType = .clientCredentials
  recalls : Store.Recalls r.store.kind
  forward : ∀ n, (r.scene n).clock.notAfter (r.scene (n + 1)).clock = true
  unusable : ∀ c, r.store.entry k = some c → r.engine.isUsable c r.clock ≠ .ok true
  alone : ∀ n, (r.event n).writes k = false
  visible : ∀ {n i : Nat} {p : Phase} {env : Surroundings}, (r.scene n).calls[i]? = some ⟨k, p⟩ →
    r.event n = .step i env → env.hidden = false
  sound : ∀ {n i a : Nat} {g : GrantType} {c : AuthorizedClient} {env : Surroundings},
    (r.scene n).calls[i]? = some ⟨k, .saving a g c⟩ → r.event n = .step i env →
      env.storeFault = none
  lasting : ∀ {n i o}, r.Succeeds n i k o → ∃ c, o = .ok c ∧
    ∀ m, n < m → r.engine.isUsable c (r.scene m).clock = .ok true

end Interleaving

open Interleaving

/-! ## The stages of a run -/

/-- No exchange for the key has succeeded before event `n`, and no call for it has got a client. -/
structure Fruitless (r : Interleaving) (k : Key) (n : Nat) : Prop where
  none_succeeds : ∀ {q i o}, q < n → ¬ r.Succeeds q i k o
  calls : ∀ {i : Nat} {p : Phase}, (r.scene n).calls[i]? = some ⟨k, p⟩ →
    p.Unserved r.engine (r.scene n).clock
  entry : ∀ c, (r.scene n).entry k = some c → r.engine.Stale (r.scene n).clock c

/-- One exchange for the key has succeeded before event `n`, with a certain client. -/
structure OneSuccess (r : Interleaving) (k : Key) (n : Nat) (c₀ : AuthorizedClient) : Prop where
  found : ∃ q i, q < n ∧ r.Succeeds q i k (.ok c₀)
  only : ∀ {q q' i j o o'}, q < n → q' < n → r.Succeeds q i k o → r.Succeeds q' j k o' → q = q'

/-- The client of the one success is about to be saved. -/
structure Obtained (r : Interleaving) (k : Key) (n i : Nat) (c₀ : AuthorizedClient) : Prop where
  once : OneSuccess r k n c₀
  saving : ∃ a g, (r.scene n).calls[i]? = some ⟨k, .saving a g c₀⟩
  calls : ∀ {j : Nat} {p : Phase}, j ≠ i → (r.scene n).calls[j]? = some ⟨k, p⟩ →
    p.Unserved r.engine (r.scene n).clock
  entry : ∀ c, (r.scene n).entry k = some c → r.engine.Stale (r.scene n).clock c

/-- The client of the one success is stored. -/
structure Stored (r : Interleaving) (k : Key) (reg : ClientRegistration) (n : Nat)
    (c₀ : AuthorizedClient) : Prop where
  once : OneSuccess r k n c₀
  calls : ∀ {i : Nat} {p : Phase}, (r.scene n).calls[i]? = some ⟨k, p⟩ →
    p.Served r.engine (r.scene n).clock c₀
  entry : ∃ c, (r.scene n).entry k = some c ∧ c.bind reg = c₀

/-! ## What a call hears -/

/-- What a waiting call would hear, its leader has come to. -/
theorem Interleaving.heard_from {a : Nat} {o : Outcome}
    (waiting : (r.scene n).calls[i]? = some ⟨k, .waiting a⟩)
    (outcome : (r.scene n).shared.outcomes[a]? = some (some o)) :
    ∃ (j : Nat) (p : Phase), (r.scene n).calls[j]? = some ⟨k, p⟩ ∧
      (p = .releasing a o ∨ p = .finished o) := by
  obtain ⟨m, hm, j, hj⟩ := waits_leader (Scene.stands_waits_iff.2 waiting)
  rcases leader_of_outcome (Nat.le_of_lt hm) hj outcome with h | h
  · exact ⟨j, _, Scene.stands_published_iff.1 h, .inl rfl⟩
  · exact ⟨j, _, Scene.stands_ended_iff.1 h, .inr rfl⟩

/-- A success belongs to a call that leads. -/
theorem Interleaving.Succeeds.leads {o : Outcome} (h : r.Succeeds n i k o) :
    ∃ a, (r.scene n).Leads i k a := by
  obtain ⟨env, a, pl, issuedAt, sent, ticket, response, -, at_i, -⟩ := h
  exact ⟨a, _, at_i, rfl⟩

/-- The call whose exchange succeeds goes on to save the client. -/
theorem Interleaving.Succeeds.saving (h : r.Succeeds n i k (.ok c)) :
    ∃ a g, (r.scene (n + 1)).calls[i]? = some ⟨k, .saving a g c⟩ := by
  obtain ⟨env, a, pl, issuedAt, sent, ticket, response, hev, at_i, answered, made⟩ := h
  refine ⟨a, pl.request.grantType, ?_⟩
  have result : ({ env with now := (r.scene n).clock } : Surroundings).result sent =
    .ok response := by
    cases sent <;> exact answered
  show ((r.scene n).after r.engine (r.event n)).calls[i]? = _
  rw [hev]
  simp only [Scene.after, at_i, step, result, settle, made]
  rw [getElem?_set_call at_i, if_pos rfl]

/-- One event makes one response. -/
theorem Interleaving.Succeeds.unique {o o' : Outcome} (h : r.Succeeds n i k o)
    (h' : r.Succeeds n j k o') : i = j ∧ o = o' := by
  obtain ⟨env, a, pl, issuedAt, sent, ticket, response, hev, at_i, answered, made⟩ := h
  obtain ⟨env', a', pl', issuedAt', sent', ticket', response', hev', at_j, answered', made'⟩ := h'
  rw [hev] at hev'
  cases hev'
  rw [at_i] at at_j
  cases at_j
  rw [answered] at answered'
  cases answered'
  exact ⟨rfl, made.symm.trans made'⟩

/-- Later on there is still one success, if no other comes. -/
theorem OneSuccess.next (h : OneSuccess r k n c₀) (none_now : ∀ {i o}, ¬ r.Succeeds n i k o) :
    OneSuccess r k (n + 1) c₀ where
  found := by
    obtain ⟨q, i, hq, success⟩ := h.found
    exact ⟨q, i, Nat.lt_succ_of_lt hq, success⟩
  only := by
    have earlier : ∀ {q i o}, q < n + 1 → r.Succeeds q i k o → q < n := by
      intro q i o hq success
      refine Nat.lt_of_le_of_ne (Nat.le_of_lt_succ hq) ?_
      rintro rfl
      exact none_now success
    intro q q' i j o o' hq hq' success success'
    exact h.only (earlier hq success) (earlier hq' success') success success'

namespace Obtained

variable (ho : Obtained r k n i c₀)

include ho

/-- A call of the key has not been served yet or is saving a client. -/
theorem call_cases (hp : (r.scene n).calls[j]? = some ⟨k, p⟩) :
    p.Unserved r.engine (r.scene n).clock ∨ ∃ a g c, p = .saving a g c := by
  by_cases hji : j = i
  · subst hji
    obtain ⟨a, g, at_i⟩ := ho.saving
    rw [at_i] at hp
    cases hp
    exact .inr ⟨a, g, c₀, rfl⟩
  · exact .inl (ho.calls hji hp)

/-- The call that saves leads, so no other call for the key has an exchange under way. -/
theorem not_succeeds {o : Outcome} : ¬ r.Succeeds n j k o := by
  intro success
  obtain ⟨a, g, at_i⟩ := ho.saving
  obtain ⟨b, hj⟩ := success.leads
  obtain ⟨rfl, -⟩ := (r.coordinated n).leader_unique hj ⟨_, at_i, rfl⟩
  obtain ⟨_, _, _, _, _, _, _, -, at_j, -⟩ := success
  rw [at_i] at at_j
  cases at_j

end Obtained

/-! ## From stage to stage -/

namespace Interleaving.Steady

variable (h : r.Steady k reg)

include h

theorem isUnattended : reg.grantType.isUnattended = true := by
  rw [h.unattended]
  rfl

/-- A call that has got no client gets none with the next event, unless its exchange succeeds. -/
theorem unserved_next {q : Phase}
    (calls : ∀ {j : Nat} {p : Phase}, (r.scene n).calls[j]? = some ⟨k, p⟩ →
      p.Unserved r.engine (r.scene n).clock ∨ ∃ a g c, p = .saving a g c)
    (entry : ∀ c, (r.scene n).entry k = some c → r.engine.Stale (r.scene n).clock c)
    (unserved : ∀ p, (r.scene n).calls[i]? = some ⟨k, p⟩ → p.Unserved r.engine (r.scene n).clock)
    (hq : (r.scene (n + 1)).calls[i]? = some ⟨k, q⟩) :
    q.Unserved r.engine (r.scene (n + 1)).clock ∨ ∃ o, r.Succeeds n i k o := by
  rcases (r.turn n).call_from hq with at_i | ⟨-, -, rfl⟩ | ⟨env, p, hev, at_i, move⟩
  · exact .inl ((unserved q at_i).mono (h.forward n))
  · exact .inl (unserved_start r.engine k _)
  · have heard : ∀ a, p = .waiting a →
        ∀ c, (r.scene n).shared.outcomes[a]? ≠ some (some (.ok c)) := by
      rintro a rfl c outcome
      obtain ⟨j, p, at_j, hp⟩ := heard_from at_i outcome
      rcases calls at_j with unserved | ⟨_, _, _, saving⟩
      · rcases hp with rfl | rfl
        · exact unserved c rfl
        · exact unserved c rfl
      · rcases hp with rfl | rfl
        · cases saving
        · cases saving
    rcases move.unserved (unserved p at_i)
      (belongsTo at_i) h.registered h.isUnattended entry heard with
      next | ⟨a, pl, issuedAt, sent, ticket, response, rfl, answered⟩
    · exact .inl (next.mono (h.forward n))
    · have answered : env.result sent = .ok response := by cases sent <;> exact answered
      exact .inr ⟨_, env, a, pl, issuedAt, sent, ticket, response, hev, at_i, answered, rfl⟩

/-- Only a call that removes or saves changes the entry. -/
theorem entry_kept
    (nowrite : ∀ {j a : Nat} {o : Outcome},
      (r.scene (n + 1)).calls[j]? = some ⟨k, .publishing a o⟩ →
      (∀ f : Failure, (r.scene n).calls[j]? ≠ some ⟨k, .dropping a f⟩) ∧
        ∀ (g : GrantType) (c : AuthorizedClient), (r.scene n).calls[j]? ≠ some ⟨k, .saving a g c⟩) :
    (r.scene (n + 1)).entry k = (r.scene n).entry k := by
  rcases entry_cases (h.alone n) with same | ⟨i, a, f, o, at_i, after, -⟩
    | ⟨i, a, g, c, at_i, after, -⟩
  · exact same
  · exact absurd at_i ((nowrite after).1 f)
  · exact absurd at_i ((nowrite after).2 g c)

/-- At the beginning nothing has been obtained. -/
theorem fruitless_zero : Fruitless r k 0 where
  none_succeeds hq := absurd hq (Nat.not_lt_zero _)
  calls hp := by simp [scene, Scene.initial] at hp
  entry := h.unusable

/-- A fruitless time goes on until a call obtains a client. -/
theorem fruitless_next (hw : Fruitless r k n) :
    Fruitless r k (n + 1) ∨ ∃ i c, Obtained r k (n + 1) i c := by
  have entry : ∀ c, (r.scene (n + 1)).entry k = some c →
      r.engine.Stale (r.scene (n + 1)).clock c := by
    intro c hc
    rw [h.entry_kept fun _ => ⟨fun f at_j => hw.calls at_j, fun g c at_j => hw.calls at_j⟩] at hc
    exact (hw.entry c hc).mono (h.forward n)
  by_cases success : ∃ i o, r.Succeeds n i k o
  · right
    obtain ⟨i, o, success⟩ := success
    obtain ⟨c, rfl, -⟩ := h.lasting success
    -- none succeeded before, so this is the first success
    have now : ∀ {q i o}, q < n + 1 → r.Succeeds q i k o → q = n := by
      intro q i o hq hs
      refine Nat.le_antisymm (Nat.le_of_lt_succ hq) (Nat.le_of_not_lt fun hqn => ?_)
      exact hw.none_succeeds hqn hs
    refine ⟨i, c, ⟨⟨n, i, Nat.lt_succ_self n, success⟩, ?_⟩, success.saving, ?_, entry⟩
    · intro q q' i j o o' hq hq' hs hs'
      rw [now hq hs, now hq' hs']
    · -- the other calls do not move with this event
      intro j p hji hp
      obtain ⟨env, _, _, _, _, _, _, hev, -⟩ := success
      rcases (r.turn n).call_from hp with at_j | ⟨hev', -, -⟩ | ⟨env', p', hev', -, -⟩
      · exact (hw.calls at_j).mono (h.forward n)
      · rw [hev] at hev'
        cases hev'
      · rw [hev] at hev'
        cases hev'
        exact absurd rfl hji
  · left
    refine ⟨?_, ?_, entry⟩
    · intro q i o hq hs
      rcases Nat.lt_succ_iff_lt_or_eq.1 hq with hq | rfl
      · exact hw.none_succeeds hq hs
      · exact success ⟨i, o, hs⟩
    · intro i p hp
      rcases h.unserved_next (fun at_j => .inl (hw.calls at_j)) hw.entry
        (fun p at_i => hw.calls at_i) hp with next | ⟨o, hs⟩
      · exact next
      · exact absurd ⟨i, o, hs⟩ success

/-- As long as the client is about to be saved, the calls that have none get none. -/
theorem obtained_stays (ho : Obtained r k n i c₀) {a : Nat} {g : GrantType}
    (stays : (r.scene (n + 1)).calls[i]? = some ⟨k, .saving a g c₀⟩) :
    Obtained r k (n + 1) i c₀ := by
  refine ⟨ho.once.next ho.not_succeeds, ⟨a, g, stays⟩, ?_, ?_⟩
  · intro j p hji hp
    have unserved : ∀ p, (r.scene n).calls[j]? = some ⟨k, p⟩ →
        p.Unserved r.engine (r.scene n).clock := fun p at_j => ho.calls hji at_j
    rcases h.unserved_next ho.call_cases ho.entry unserved hp with next | ⟨o, success⟩
    · exact next
    · exact absurd success ho.not_succeeds
  · intro c hc
    rw [h.entry_kept ?_] at hc
    · exact (ho.entry c hc).mono (h.forward n)
    · intro j b o after
      have hji : j ≠ i := by
        rintro rfl
        rw [stays] at after
        cases after
      exact ⟨fun f at_j => ho.calls hji at_j, fun g c at_j => ho.calls hji at_j⟩

/-- When the client has been saved, no other call leads, and one that has missed it looks again. -/
theorem stored_of_saves (ho : Obtained r k n i c₀) {env : Surroundings}
    (hev : r.event n = .step i env)
    (saved : (r.scene (n + 1)).shared.store = (r.scene n).shared.store.save c₀)
    (after : ∃ a, (r.scene (n + 1)).calls[i]? = some ⟨k, .publishing a (.ok c₀)⟩) :
    Stored r k reg (n + 1) c₀ := by
  obtain ⟨a, g, at_i⟩ := ho.saving
  obtain ⟨b, after⟩ := after
  have belongs := belongsTo at_i
  refine ⟨ho.once.next ho.not_succeeds, ?_, ?_⟩
  · intro j p hp
    by_cases hji : j = i
    · subst hji
      rw [after] at hp
      cases hp
      rintro c ⟨⟩
      rfl
    · rcases (r.turn n).call_from hp with at_j | ⟨hev', -, -⟩ | ⟨env', p', hev', -, -⟩
      · -- the key has one leader, the call that saves, so this one leads nothing
        have apart : p.leads? = none := by
          cases hl : p.leads? with
          | none => rfl
          | some l =>
            exact absurd ((r.coordinated n).leader_unique ⟨p, at_j, hl⟩ ⟨_, at_i, rfl⟩).1 hji
        exact ((ho.calls hji at_j).served apart).mono (h.forward n)
      · rw [hev] at hev'
        cases hev'
      · rw [hev] at hev'
        cases hev'
        exact absurd rfl hji
  · obtain ⟨c, retrieved, bound⟩ := h.recalls c₀
    refine ⟨c, ?_, ?_⟩
    · have found := Store.entry_save_self (r.scene n).shared.store c₀
      rw [belongs.key_eq, ← saved, r.kind n, retrieved] at found
      exact found
    · rw [Option.some.inj (h.registered.symm.trans belongs.1)]
      exact bound

/-- A client that was obtained is saved by the call that obtained it. -/
theorem obtained_next (ho : Obtained r k n i c₀) :
    Obtained r k (n + 1) i c₀ ∨ Stored r k reg (n + 1) c₀ := by
  obtain ⟨a, g, at_i⟩ := ho.saving
  rcases (r.turn n).call_cases at_i with stays | ⟨env, q, hev, move, hq⟩
  · exact .inl (h.obtained_stays ho stays)
  · right
    generalize ht : (r.scene (n + 1)).shared = t at move
    cases move with
    | saveFails raised =>
      have sound : env.storeFault = none := h.sound at_i hev
      rw [show env.storeFault = some _ from raised] at sound
      cases sound
    | saves => exact h.stored_of_saves ho hev (by rw [ht]) ⟨a, hq⟩

/-- A client that was stored stays there. -/
theorem stored_next (hs : Stored r k reg n c₀) : Stored r k reg (n + 1) c₀ := by
  have none_now : ∀ {i o}, ¬ r.Succeeds n i k o := by
    rintro i o ⟨_, _, _, _, _, _, _, -, at_i, -⟩
    exact hs.calls at_i
  obtain ⟨q, _, hq, success⟩ := hs.once.found
  obtain ⟨c, hc, lasts⟩ := h.lasting success
  cases hc
  -- what a waiting call hears was published by a call that has been served
  have heard : ∀ {i a : Nat} {c : AuthorizedClient}, (r.scene n).calls[i]? = some ⟨k, .waiting a⟩ →
      (r.scene n).shared.outcomes[a]? = some (some (.ok c)) → c = c₀ := by
    intro i a c waiting outcome
    obtain ⟨j, p, at_j, hp⟩ := heard_from waiting outcome
    have served := hs.calls at_j
    rcases hp with rfl | rfl
    · exact served c rfl
    · exact served c rfl
  refine ⟨hs.once.next none_now, ?_, ?_⟩
  · intro i p hp
    rcases (r.turn n).call_from hp with at_i | ⟨-, -, rfl⟩ | ⟨env, p', hev, at_i, move⟩
    · exact (hs.calls at_i).mono (h.forward n)
    · unfold start
      rw [h.registered]
      trivial
    · have visible : env.hidden = false := h.visible at_i hev
      refine (move.served (hs.calls at_i) (belongsTo at_i) h.registered (lasts n hq) visible
        hs.entry ?_).mono (h.forward n)
      rintro a rfl c outcome
      exact heard at_i outcome
  · rw [h.entry_kept fun _ => ⟨fun f at_j => hs.calls at_j, fun g c at_j => hs.calls at_j⟩]
    exact hs.entry

/-- A client that was stored is found ever after. -/
theorem stored_later (hmn : m ≤ n) (hs : Stored r k reg m c₀) : Stored r k reg n c₀ := by
  induction hmn with
  | refl => exact hs
  | step _ ih => exact h.stored_next ih

/-- Every moment is in one of the stages. -/
theorem stages (n : Nat) :
    Fruitless r k n ∨ (∃ i c, Obtained r k n i c) ∨ ∃ c, Stored r k reg n c := by
  induction n with
  | zero => exact .inl h.fruitless_zero
  | succ n ih =>
    rcases ih with hw | ⟨i, c, ho⟩ | ⟨c, hs⟩
    · rcases h.fruitless_next hw with hw | obtained
      · exact .inl hw
      · exact .inr (.inl obtained)
    · rcases h.obtained_next ho with ho | hs
      · exact .inr (.inl ⟨i, c, ho⟩)
      · exact .inr (.inr ⟨c, hs⟩)
    · exact .inr (.inr ⟨c, h.stored_next hs⟩)

/-- When a call has come to a client, that client is stored. -/
theorem stored_of_settled (at_i : (r.scene n).calls[i]? = some ⟨k, p⟩)
    (settled : p.settled? = some (.ok c)) : Stored r k reg n c := by
  have got : ∀ {now}, ¬ p.Unserved r.engine now := by
    intro now unserved
    cases p with
    | publishing | releasing | finished =>
      cases settled
      exact unserved c rfl
    | _ => cases settled
  rcases h.stages n with hw | ⟨j, c', ho⟩ | ⟨c', hs⟩
  · exact absurd (hw.calls at_i) got
  · by_cases hij : i = j
    · subst hij
      obtain ⟨a, g, saving⟩ := ho.saving
      rw [at_i] at saving
      cases saving
      cases settled
    · exact absurd (ho.calls hij at_i) got
  · have same : c = c' := by
      have served := hs.calls at_i
      cases p with
      | publishing | releasing | finished =>
        cases settled
        exact served c rfl
      | _ => cases settled
    rw [same]
    exact hs

end Interleaving.Steady

/-! ## The result -/

/-- **A client is acquired once.** However the steps of the calls for one key fall: at most one
exchange for it succeeds, no exchange starts after its client has been saved, and every call that
returns a client, from the store, from its own exchange or from another's, returns the client of
that one success, which came before. -/
theorem acquired_once (h : r.Steady k reg) :
    (∀ m n i j o o', r.Succeeds m i k o → r.Succeeds n j k o' → m = n ∧ i = j ∧ o = o') ∧
      (∀ m n i j c, r.Saves m i k c → m < n → ¬ r.StartsExchange n j k) ∧
      (∀ (n i : Nat) (c : AuthorizedClient), (r.scene n).calls[i]? = some ⟨k, .finished (.ok c)⟩ →
        ∃ q j, q < n ∧ r.Succeeds q j k (.ok c)) ∧
      ∀ (m n i j : Nat) (c c' : AuthorizedClient),
        (r.scene m).calls[i]? = some ⟨k, .finished (.ok c)⟩ →
        (r.scene n).calls[j]? = some ⟨k, .finished (.ok c')⟩ → c = c' := by
  have once : ∀ {m n i j o o'}, r.Succeeds m i k o → r.Succeeds n j k o' →
      m = n ∧ i = j ∧ o = o' := by
    intro m n i j o o' hm hn
    obtain rfl : m = n := by
      have hm' : m < max m n + 1 := by omega
      have hn' : n < max m n + 1 := by omega
      rcases h.stages (max m n + 1) with hw | ⟨_, _, ho⟩ | ⟨_, hs⟩
      · exact absurd hm (hw.none_succeeds hm')
      · exact ho.once.only hm' hn' hm hn
      · exact hs.once.only hm' hn' hm hn
    exact ⟨rfl, hm.unique hn⟩
  have given : ∀ {n i : Nat} {c : AuthorizedClient},
      (r.scene n).calls[i]? = some ⟨k, .finished (.ok c)⟩ →
      ∃ q j, q < n ∧ r.Succeeds q j k (.ok c) := by
    intro n i c hi
    exact (h.stored_of_settled hi rfl).once.found
  refine ⟨fun _ _ _ _ _ _ => once, ?_, fun _ _ _ => given, ?_⟩
  · rintro m n i j c ⟨a, g, -, after⟩ hmn ⟨_, _, _, _, _, sending, -⟩
    exact (h.stored_later hmn (h.stored_of_settled after rfl)).calls sending
  · intro m n i j c c' hi hj
    obtain ⟨q, _, -, success⟩ := given hi
    obtain ⟨q', _, -, success'⟩ := given hj
    obtain ⟨-, -, same⟩ := once success success'
    cases same
    rfl

/-! ## A leader that comes late -/

namespace LateLeader

def registration : ClientRegistration :=
  { registrationId := "svc", clientId := "app", grantType := .clientCredentials,
    tokenUri := "/token" }

def system : Key := ⟨"svc", "system"⟩

theorem utc_valid : (-1440 : Int) < 0 ∧ (0 : Int) < 1440 := by decide

/-- The time at which everything happens. -/
def now : DateTime := ⟨.first, 43200000000, 0, by decide, utc_valid⟩

/-- Every exchange is answered with the same token. -/
def calm : Surroundings := { now, response := .ok { accessToken := "t", scopes := [] } }

/-- Both calls miss the client; the second one takes the key when the first has given it back. -/
def script : List Event :=
  [.begin system, .begin system] ++ [0, 1, 0, 0, 0, 0, 0, 0, 0, 0, 1, 1, 1, 1, 1].map (.step · calm)

def run : Interleaving where
  engine := ⟨.unlisted [registration], ⟨[.plugin "Issuer" .clientCredentials 0]⟩, {}⟩
  clock := now
  store := .memory []
  event n := script.getD n .pause

/-- Every event of the run begins a call, lets one step, or is a pause. -/
theorem event_cases (n : Nat) :
    run.event n = .begin system ∨ (∃ i, run.event n = .step i calm) ∨ run.event n = .pause := by
  rcases Event.getD_pause_cases script n with member | paused
  · rcases List.mem_append.1 member with begins | steps
    · simp only [List.mem_cons, List.not_mem_nil, or_false, or_self] at begins
      exact .inl begins
    · obtain ⟨i, -, step⟩ := List.mem_map.1 steps
      exact .inr (.inl ⟨i, step.symm⟩)
  · exact .inr (.inr paused)

theorem env_eq {n i : Nat} {env : Surroundings} (h : run.event n = .step i env) : env = calm := by
  rcases event_cases n with h' | ⟨i', h'⟩ | h'
  · rw [h'] at h; cases h
  · rw [h'] at h; cases h; rfl
  · rw [h'] at h; cases h

theorem clock_eq (n : Nat) : (run.scene n).clock = now := by
  induction n with
  | zero => rfl
  | succ n ih =>
    rw [(run.turn n).clock_kept ?_, ih]
    intro later h
    rcases event_cases n with h' | ⟨i, h'⟩ | h'
    · rw [h'] at h; cases h
    · rw [h'] at h; cases h
    · rw [h'] at h; cases h

/-- Whether the event is a step of a call that waits for a reply. -/
def receives (n : Nat) : Bool :=
  match run.event n with
  | .step i _ =>
    match (run.scene n).calls[i]? with
    | some ⟨_, .receiving ..⟩ => true
    | _ => false
  | _ => false

/-- The one success of the run is its ninth event. -/
theorem eq_eight_of_succeeds {n i : Nat} {o : Outcome} (h : run.Succeeds n i system o) : n = 8 := by
  obtain ⟨env, a, pl, issuedAt, sent, ticket, response, hev, at_i, -⟩ := h
  have receiving : receives n = true := by
    unfold receives
    rw [hev]
    simp only [at_i]
  rcases Nat.lt_or_ge n 17 with hn | hn
  · exact (by decide +kernel : ∀ n < 17, receives n = true → n = 8) n hn receiving
  · have past : script[n]? = none := List.getElem?_eq_none hn
    have paused : run.event n = .pause := by
      show script.getD n .pause = .pause
      rw [List.getD_eq_getElem?_getD, past]
      rfl
    rw [paused] at hev
    cases hev

/-- The client that both calls return. -/
def client : AuthorizedClient where
  registration := registration
  principalName := "system"
  accessToken :=
    { value := "t"
      issuedAt := some now
      expiresAt := some ⟨.first, 46800000000, 0, by decide, utc_valid⟩ }

set_option maxRecDepth 20000 in
/-- The run is steady: the registration is served and no one else writes to the store. -/
theorem run_steady : run.Steady system registration where
  registered := rfl
  unattended := rfl
  recalls := Store.recalls_memory
  forward n := by
    rw [clock_eq, clock_eq]
    decide +kernel
  unusable c hc := by cases hc
  alone n := by
    rcases event_cases n with h | ⟨i, h⟩ | h
    · rw [h]; rfl
    · rw [h]; rfl
    · rw [h]; rfl
  visible _ hev := by rw [env_eq hev]; rfl
  sound _ hev := by rw [env_eq hev]; rfl
  lasting := by
    intro n i o success
    obtain rfl := eq_eight_of_succeeds success
    obtain ⟨env, a, pl, issuedAt, sent, ticket, response, hev, at_i, answered, rfl⟩ := success
    obtain rfl := env_eq hev
    cases hev
    cases at_i
    cases answered
    refine ⟨client, rfl, ?_⟩
    intro m _
    rw [clock_eq]
    rfl

end LateLeader

set_option maxRecDepth 20000 in
open LateLeader in
/-- A second leader, which came after the first had given the key back, finds the client of the
first and makes no request. -/
theorem late_leader_finds_client :
    run.Steady system registration ∧
      (run.scene 17).calls[1]? = some ⟨system, .finished (.ok client)⟩ ∧
      ∃ q j, q < 17 ∧ run.Succeeds q j system (.ok client) :=
  ⟨run_steady, rfl, (acquired_once run_steady).2.2.1 17 1 client rfl⟩

end Engine

end TokenBroker
