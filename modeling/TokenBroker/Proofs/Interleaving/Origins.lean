import TokenBroker.Proofs.Engine.Arrival
import TokenBroker.Proofs.Interleaving.Sharing
import TokenBroker.Proofs.Interleaving.Writes

/-!
# Where clients come from

Backwards from what a call holds to the steps that brought it there. A call that has not begun in a
phase has moved to it (`Interleaving.moved_to`). So a client that a call judges was stored when it
was loaded (`Interleaving.judging_from`, `Interleaving.rejudging_from`), a client that it saves was
made of a response and issued at a reading of its own (`Interleaving.saving_from`), and a published
outcome was published by the leader of its attempt (`Interleaving.published_from`).

A call that ends with a client therefore has one of three reasons, which `Interleaving.Origin`
lists: it has judged a stored client usable, or the leader of an attempt that it takes part in has,
or that leader has got the client by its exchange and saved it (`Interleaving.origin`).
-/

namespace TokenBroker

namespace Engine

namespace Interleaving

variable {r : Interleaving} {k l : Key} {i j a m n : Nat} {reg : ClientRegistration}
  {c : AuthorizedClient} {o : Outcome} {p q : Phase}

/-! ## Arriving at a phase -/

/-- With event `m` a call moves from one phase to another. -/
structure MovesAt (r : Interleaving) (m i : Nat) (k : Key) (p q : Phase) : Prop where
  stepped : ∃ env, r.event m = .step i env
  at_p : (r.scene m).calls[i]? = some ⟨k, p⟩
  at_q : (r.scene (m + 1)).calls[i]? = some ⟨k, q⟩
  move : ∃ env, env.now = (r.scene m).clock ∧
    Move r.engine k env (r.scene m).shared p (r.scene (m + 1)).shared q

/-- What call `j` does in a phase is done for call `i` of a key: it is that call, or it leads an
attempt that call `i` waits for. -/
def ActsFor (r : Interleaving) (j : Nat) (p : Phase) (i : Nat) (k : Key) : Prop :=
  j = i ∨ ∃ (a n : Nat), p.leads? = some a ∧ (r.scene n).calls[i]? = some ⟨k, .waiting a⟩

/-- A call that leads the same attempt acts for the same calls. -/
theorem ActsFor.of_leads (h : r.ActsFor j p i k) (same : q.leads? = p.leads?) :
    r.ActsFor j q i k := by
  unfold ActsFor
  rwa [same]

/-- A call that does not begin in a phase has taken the step to it. -/
theorem stepped_to (h : (r.scene n).calls[i]? = some ⟨k, q⟩) (start : r.engine.start k ≠ q) :
    ∃ m < n, ∃ env p, r.event m = .step i env ∧ (r.scene m).calls[i]? = some ⟨k, p⟩ ∧
      (r.scene (m + 1)).calls[i]? = some ⟨k, q⟩ ∧
      Move r.engine k { env with now := (r.scene m).clock } (r.scene m).shared p
        (r.scene (m + 1)).shared q := by
  induction n with
  | zero => simp [scene, Scene.initial] at h
  | succ n ih =>
    rcases (r.turn n).call_from h with earlier | ⟨-, -, rfl⟩ | ⟨env, p, hev, hp, move⟩
    · obtain ⟨m, hm, stepped⟩ := ih earlier
      exact ⟨m, Nat.lt_succ_of_lt hm, stepped⟩
    · exact absurd rfl start
    · exact ⟨n, Nat.lt_succ_self n, env, p, hev, hp, h, move⟩

/-- A call that is not at its start has come there by a step. -/
theorem moved_to (h : (r.scene n).calls[i]? = some ⟨k, q⟩) (start : r.engine.start k ≠ q) :
    ∃ m < n, ∃ p, r.MovesAt m i k p q := by
  obtain ⟨m, hm, env, p, hev, at_p, at_q, move⟩ := stepped_to h start
  exact ⟨m, hm, p, ⟨env, hev⟩, at_p, at_q, _, rfl, move⟩

/-! ## Loaded, issued and published -/

/-- A client is judged after it was found in the store. -/
theorem judging_from (h : (r.scene n).calls[i]? = some ⟨k, .judging reg c⟩) :
    ∃ m < n, (r.scene m).calls[i]? = some ⟨k, .loading reg⟩ ∧ (r.scene m).entry k = some c := by
  obtain ⟨m, hm, p, moved⟩ := moved_to h (start_ne (fun _ => nofun) fun _ => nofun)
  obtain ⟨env, -, move⟩ := moved.move
  obtain ⟨rfl, loads⟩ := move.to_judging
  exact ⟨m, hm, moved.at_p, loads.entry_eq⟩

/-- A leader judges once more what it found in the store when it looked again. -/
theorem rejudging_from (h : (r.scene n).calls[i]? = some ⟨k, .rejudging reg a c⟩) :
    ∃ m < n, r.MovesAt m i k (.reloading reg a) (.rejudging reg a c) ∧
      (r.scene m).entry k = some c := by
  obtain ⟨m, hm, p, moved⟩ := moved_to h (start_ne (fun _ => nofun) fun _ => nofun)
  obtain ⟨env, -, move⟩ := moved.move
  obtain ⟨rfl, loads⟩ := move.to_rejudging
  exact ⟨m, hm, moved, loads.entry_eq⟩

/-- A client that is about to be saved was issued at a reading that its call has taken before. -/
theorem saving_from {g : GrantType} (h : (r.scene n).calls[i]? = some ⟨k, .saving a g c⟩) :
    ∃ m < n, ∃ pl response, r.MovesAt m i k (.stamping a pl) (.sending a pl (r.scene m).clock) ∧
      r.engine.clientOf k pl (r.scene m).clock response = .ok c := by
  obtain ⟨m₂, h₂, _, saved⟩ := moved_to h (start_ne (fun _ => nofun) fun _ => nofun)
  obtain ⟨env₂, -, move₂⟩ := saved.move
  obtain ⟨pl, issuedAt, sent, ticket, response, rfl, made⟩ := move₂.to_saving
  obtain ⟨m₁, h₁, _, received⟩ := moved_to saved.at_p (start_ne (fun _ => nofun) fun _ => nofun)
  obtain ⟨env₁, -, move₁⟩ := received.move
  obtain rfl := move₁.to_receiving
  obtain ⟨m₀, h₀, _, stamped⟩ := moved_to received.at_p (start_ne (fun _ => nofun) fun _ => nofun)
  obtain ⟨env₀, now, move₀⟩ := stamped.move
  obtain ⟨rfl, rfl⟩ := move₀.to_sending
  rw [now] at stamped made
  exact ⟨m₀, by omega, pl, response, stamped, made⟩

/-- An outcome of an attempt was published by a call. -/
theorem published_from (h : (r.scene n).shared.outcomes[a]? = some (some o)) :
    ∃ m < n, ∃ (j : Nat) (l : Key), (r.scene m).calls[j]? = some ⟨l, .publishing a o⟩ := by
  induction n with
  | zero => simp [scene, Scene.initial] at h
  | succ n ih =>
    have earlier : (r.scene n).shared.outcomes[a]? = some (some o) →
        ∃ m < n + 1, ∃ (j : Nat) (l : Key), (r.scene m).calls[j]? = some ⟨l, .publishing a o⟩ := by
      intro before
      obtain ⟨m, hm, published⟩ := ih before
      exact ⟨m, Nat.lt_succ_of_lt hm, published⟩
    have turn := r.turn n
    generalize r.scene (n + 1) = s' at turn h
    generalize r.event n = ev at turn
    cases turn with
    | begins | evicts | saves | ticks | waits | pauses => exact earlier h
    | @moves i env key p t q at_i move =>
      rcases move.outcome_from h with before | rfl
      · exact earlier before
      · exact ⟨n, Nat.lt_succ_self n, i, key, at_i⟩

/-! ## The origin of a client -/

/-- Before event `n` a call has come by a client in one of three ways. -/
inductive Origin (r : Interleaving) (n i : Nat) (k : Key) (c : AuthorizedClient) : Prop
  /-- The call has loaded it and judged it usable. -/
  | judged {m reg old} (before : m < n)
      (moves : r.MovesAt m i k (.judging reg old) (.finished (.ok c)))
      (usable : r.engine.isUsable old (r.scene m).clock = .ok true) (bound : c = old.bind reg)
  /-- The leader of its attempt has loaded it and judged it usable. -/
  | rejudged {m j a reg old} (before : m < n)
      (moves : r.MovesAt m j k (.rejudging reg a old) (.publishing a (.ok c)))
      (usable : r.engine.isUsable old (r.scene m).clock = .ok true) (bound : c = old.bind reg)
      (part : j = i ∨ ∃ q < n, (r.scene q).calls[i]? = some ⟨k, .waiting a⟩)
  /-- The leader of its attempt has got it by an exchange, and the store has taken it. -/
  | saved {m j a g} (before : m < n)
      (moves : r.MovesAt m j k (.saving a g c) (.publishing a (.ok c)))
      (part : j = i ∨ ∃ q < n, (r.scene q).calls[i]? = some ⟨k, .waiting a⟩)

/-- Whoever publishes a client, its attempt's callers have it from there. -/
theorem origin_of_publishing (hmn : m < n)
    (h : (r.scene m).calls[j]? = some ⟨k, .publishing a (.ok c)⟩)
    (part : j = i ∨ ∃ q < n, (r.scene q).calls[i]? = some ⟨k, .waiting a⟩) : r.Origin n i k c := by
  obtain ⟨m', hm', p, moved⟩ := moved_to h (start_ne (fun _ => nofun) fun _ => nofun)
  obtain ⟨env, now, move⟩ := moved.move
  rcases move.to_publishing with ⟨reg, old, rfl, usable, bound⟩ | ⟨g, rfl⟩
  · rw [now] at usable
    exact .rejudged (Nat.lt_trans hm' hmn) moved usable bound part
  · exact .saved (Nat.lt_trans hm' hmn) moved part

/-- Every client that is handed out has an origin. -/
theorem origin (given : (r.scene n).calls[i]? = some ⟨k, .finished (.ok c)⟩) :
    r.Origin n i k c := by
  obtain ⟨m, hm, p, ended⟩ := moved_to given (start_ne (fun _ => nofun) fun _ => nofun)
  obtain ⟨env, now, move⟩ := ended.move
  rcases move.to_finished with ⟨reg, old, rfl, usable, bound⟩ | ⟨a, rfl, heard⟩ | ⟨a, rfl⟩
  · rw [now] at usable
    exact .judged hm ended usable bound
  · obtain ⟨m', hm', j, l, published⟩ := published_from heard
    -- the attempt is one for the key of the call that waits
    obtain ⟨q, -, j', led⟩ := waits_leader (Scene.stands_waits_iff.2 ended.at_p)
    obtain ⟨-, rfl⟩ := leader_of_attempt ⟨_, published, rfl⟩ led
    exact origin_of_publishing (Nat.lt_trans hm' hm) published (.inr ⟨m, hm, ended.at_p⟩)
  · obtain ⟨m', hm', p, released⟩ := moved_to ended.at_p (start_ne (fun _ => nofun) fun _ => nofun)
    obtain ⟨env', -, move'⟩ := released.move
    obtain rfl := move'.to_releasing
    exact origin_of_publishing (Nat.lt_trans hm' hm) released.at_p (.inl rfl)

end Interleaving

end Engine

end TokenBroker
