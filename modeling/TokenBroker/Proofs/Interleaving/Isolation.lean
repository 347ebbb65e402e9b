import TokenBroker.Proofs.Interleaving.Projection

/-!
# Keys do not get in each other's way

What is for one key has no bearing on what is for another. `Forces` says of calls for a key that
they can be brought to a goal by steps of their own, while calls for other keys stay where they are
and whatever comes of the steps; in this sense every call can be brought to its end
(`Awaited.forces_end`), since what it may wait for is led for its own key.

`keys_isolated` puts this together with what is left of an interleaving that is restricted to the
key.
-/

namespace TokenBroker

namespace Engine

variable {e : Engine} {s s' : Scene} {k : Key} {i j a n : Nat} {p : Phase} {o : Outcome}
  {ev : Event} {goal goal' : Scene → Prop}

/-! ## Steps of calls for one key -/

/-- The goal can be reached by steps of calls for a key alone: some such call can be let take its
next step, and whatever its surroundings contribute the goal can be reached from there. -/
inductive Forces (e : Engine) (k : Key) (goal : Scene → Prop) : Scene → Prop
  | done {s : Scene} (reached : goal s) : Forces e k goal s
  | next {s : Scene} {j : Nat} {p : Phase} (at_j : s.calls[j]? = some ⟨k, p⟩)
      (forced : ∀ env, Forces e k goal (s.after e (.step j env))) : Forces e k goal s

/-- What is forced after something forced is forced. -/
theorem Forces.trans (h : Forces e k goal s) (further : ∀ s, goal s → Forces e k goal' s) :
    Forces e k goal' s := by
  induction h with
  | done reached => exact further _ reached
  | next at_j _ ih => exact .next at_j ih

/-- A call that neither waits nor has ended takes a step. -/
theorem after_step (at_i : s.calls[i]? = some ⟨k, p⟩) (running : p.outcome? = none)
    (free : ∀ a, p ≠ .waiting a) (env : Surroundings) :
    ∃ t q, Move e k { env with now := s.clock } s.shared p t q ∧
      s.after e (.step i env) = { s with shared := t, calls := s.calls.set i ⟨k, q⟩ } := by
  obtain ⟨next, step⟩ :=
    Option.isSome_iff_exists.1 (step_isSome e k { env with now := s.clock } s.shared running free)
  exact ⟨next.shared, next.phase, move_of_step step, by simp only [Scene.after, at_i, step]⟩

/-! ## What calls wait for -/

/-- An attempt that a call waits for is led for the call's own key, unless its outcome is
published. -/
structure Awaited (s : Scene) : Prop where
  coordinated : Coordinated s
  awaited : ∀ {i k a}, s.Stands i k (.waits a) →
    (∃ o, s.shared.outcomes[a]? = some (some o)) ∨ ∃ j, s.Leads j k a

/-- Every turn keeps each attempt that is waited for with its leader. -/
theorem Awaited.turns (h : Awaited s) (turn : Turn e s ev s') : Awaited s' where
  coordinated := h.coordinated.turns turn
  awaited := by
    have kept : ∀ {k a}, ((∃ o, s.shared.outcomes[a]? = some (some o)) ∨ ∃ j, s.Leads j k a) →
        (∃ o, s'.shared.outcomes[a]? = some (some o)) ∨ ∃ j, s'.Leads j k a := by
      rintro k a (⟨o, outcome⟩ | ⟨j, leads⟩)
      · exact .inl ⟨o, turn.outcome_kept h.coordinated outcome⟩
      · rcases turn.leads_kept h.coordinated leads with leads | ⟨⟨o, -, outcome⟩, -⟩
        · exact .inr ⟨j, leads⟩
        · exact .inl ⟨o, outcome⟩
    intro i k a waits
    rcases turn.stands_from waits with before | (apart | ⟨o, ended⟩) | ⟨y, stood, passage⟩
    · exact kept (h.awaited before)
    · cases apart
    · cases ended
    · refine kept ?_
      generalize s'.shared = t at passage
      cases passage with
      | stays => exact h.awaited stood
      | joins taken => exact .inr (h.coordinated.holder taken)

/-- Each attempt that is waited for has a leader at all times. -/
theorem Interleaving.awaited (r : Interleaving) (n : Nat) : Awaited (r.scene n) := by
  induction n with
  | zero =>
    refine ⟨.initial r.clock r.store, ?_⟩
    rintro i k a ⟨p, at_i, -⟩
    simp [scene, Scene.initial] at at_i
  | succ n ih => exact ih.turns (r.turn n)

/-! ## Bringing calls to their end -/

/-- Whoever waits for an attempt whose outcome is published hears it. -/
theorem forces_hearing (at_i : s.calls[i]? = some ⟨k, .waiting a⟩)
    (outcome : s.shared.outcomes[a]? = some (some o)) :
    Forces e k (fun s => ∃ o, s.calls[i]? = some ⟨k, .finished o⟩) s := by
  refine .next at_i fun env => .done ⟨o, ?_⟩
  simp only [Scene.after, at_i, step, outcome]
  rw [getElem?_set_call at_i, if_pos rfl]

namespace Awaited

/-- A leader can be brought to publish its outcome, while whoever waits for it still does. -/
theorem forces_outcome (h : Awaited s) (at_j : s.calls[j]? = some ⟨k, p⟩)
    (leads : p.standing = .leads a) (at_i : s.calls[i]? = some ⟨k, .waiting a⟩) :
    Forces e k (fun s => s.calls[i]? = some ⟨k, .waiting a⟩ ∧
      ∃ o, s.shared.outcomes[a]? = some (some o)) s := by
  -- by the leader's distance from its end, which every step of it shortens
  induction hn : p.rank using Nat.strongRecOn generalizing s p with
  | _ n ih =>
    have running : p.outcome? = none := by
      cases p <;> first | rfl | cases leads
    have free : ∀ b, p ≠ .waiting b := by
      rintro b rfl
      cases leads
    refine .next at_j fun env => ?_
    obtain ⟨t, q, move, after⟩ := after_step (e := e) at_j running free env
    have kept := h.turns (turn_after e s (.step j env))
    rw [after] at kept ⊢
    have at_j' : (s.calls.set j ⟨k, q⟩)[j]? = some ⟨k, q⟩ := by
      rw [getElem?_set_call at_j, if_pos rfl]
    have at_i' : (s.calls.set j ⟨k, q⟩)[i]? = some ⟨k, .waiting a⟩ := by
      have other : i ≠ j := by
        rintro rfl
        rw [at_i] at at_j
        cases at_j
        cases leads
      rw [getElem?_set_call at_j, if_neg other]
      exact at_i
    have lt := h.coordinated.attempt_lt ((Scene.leads_iff).2 (.inl ⟨p, at_j, leads⟩))
    have passage := move.passage
    rw [leads] at passage
    generalize hq : q.standing = y at passage
    cases passage with
    | stays => exact ih q.rank (hn ▸ move.rank_lt) kept at_j' hq at_i' rfl
    | @publishes _ o => exact .done ⟨at_i', o, List.getElem?_set_self lt⟩

/-- Every call can be brought to its end. -/
theorem forces_end (h : Awaited s) (at_i : s.calls[i]? = some ⟨k, p⟩) :
    Forces e k (fun s => ∃ o, s.calls[i]? = some ⟨k, .finished o⟩) s := by
  induction hn : p.rank using Nat.strongRecOn generalizing s p with
  | _ n ih =>
    have step : p.outcome? = none → (∀ a, p ≠ .waiting a) →
        Forces e k (fun s => ∃ o, s.calls[i]? = some ⟨k, .finished o⟩) s := by
      intro running free
      refine .next at_i fun env => ?_
      obtain ⟨t, q, move, after⟩ := after_step (e := e) at_i running free env
      have kept := h.turns (turn_after e s (.step i env))
      rw [after] at kept ⊢
      refine ih q.rank (hn ▸ move.rank_lt) kept ?_ rfl
      rw [getElem?_set_call at_i, if_pos rfl]
    cases p with
    | finished o => exact .done ⟨o, at_i⟩
    | waiting a =>
      -- its own steps bring it no further: either the outcome is there, or its leader goes first
      rcases h.awaited (Scene.stands_waits_iff.2 at_i) with ⟨o, outcome⟩ | ⟨j, leads⟩
      · exact forces_hearing at_i outcome
      · rcases Scene.leads_iff.1 leads with ⟨p, at_j, unpublished⟩ | ⟨o, published⟩
        · refine (h.forces_outcome at_j unpublished at_i).trans ?_
          rintro s ⟨at_i, o, outcome⟩
          exact forces_hearing at_i outcome
        · exact forces_hearing at_i (h.coordinated.published published)
    | _ => exact step rfl nofun

end Awaited

/-! ## Isolation -/

/-- An event that is not for a key leaves its entry and its attempt in flight. -/
theorem Interleaving.unchanged_of_key?_ne {r : Interleaving}
    (other : (r.event n).key? (r.scene n) ≠ some k) :
    (r.scene (n + 1)).entry k = (r.scene n).entry k ∧
      (r.scene (n + 1)).shared.inFlight.get? k = (r.scene n).shared.inFlight.get? k := by
  have turn := r.turn n
  generalize r.scene (n + 1) = s' at turn
  generalize r.event n = ev at turn other
  cases turn with
  | begins | ticks | waits | pauses => exact ⟨rfl, rfl⟩
  | evicts l => exact ⟨Store.entry_remove_of_ne (fun h => other (by rw [h]; rfl)) _, rfl⟩
  | saves c => exact ⟨Store.entry_save_of_ne (fun h => other (by rw [h]; rfl)) _, rfl⟩
  | @moves i env l p t q at_i move =>
    have hl : k ≠ l := by
      rintro rfl
      exact other (by simp [Event.key?, at_i])
    refine ⟨move.entry_of_ne (r.belongsTo at_i) hl, ?_⟩
    have passage := move.passage
    generalize p.standing = x at passage
    generalize q.standing = y at passage
    cases passage with
    | stays inFlight => exact congrArg (·.get? k) inFlight
    | ends | joins | hears | publishes => rfl
    | takes => exact Table.get?_put_of_ne hl _ _
    | givesBack => exact Table.get?_erase_of_ne hl _

/-- What is left of an event is for the key. -/
theorem Shows.key?_restrict {t : Scene} {f : Nat → Nat} {l : Key} (h : Shows k f s t)
    (isFor : (ev.restrict k s).key? t = some l) : l = k := by
  cases ev with
  | tick | pause => cases isFor
  | begin l' | evict l' =>
    by_cases hl : l' = k
    · simp [Event.restrict, Event.key?, hl] at isFor
      exact isFor.symm
    · simp [Event.restrict, Event.key?, hl] at isFor
  | save c =>
    by_cases hl : c.key = k
    · simp [Event.restrict, Event.key?, hl] at isFor
      exact isFor.symm
    · simp [Event.restrict, Event.key?, hl] at isFor
  | step i env =>
    by_cases hl : s.calls[i]?.map (·.key) = some k
    · simp only [Event.restrict, if_pos hl] at isFor
      obtain ⟨c, at_c, rfl⟩ := Option.map_eq_some_iff.1 isFor
      exact h.key_eq (List.mem_of_getElem? at_c)
    · simp only [Event.restrict, if_neg hl] at isFor
      cases isFor

/-- **Keys are isolated from one another.** In every interleaving of calls for any keys, with
whatever stores and exchanges answer, and for every key:

* an event that is not for the key leaves the key's entry and its attempt in flight as they are;
* without the events that are for other keys there is an interleaving, all of whose events are for
  the key, that agrees with the whole one at every moment: in the clock, the entry, the attempt in
  flight and the calls for the key, each in the same phase with what it has sent and got and with
  the outcome that it has ended with, but for the numbers of attempts;
* an attempt that a call for the key waits for has been begun by a call for the key and is led by no
  other;
* every call for the key can be brought to its end by steps of calls for the key alone, whatever
  their surroundings contribute;
* another key is the same only if both of its parts are. -/
theorem keys_isolated (r : Interleaving) (k : Key) :
    (∀ n, (r.event n).key? (r.scene n) ≠ some k →
        (r.scene (n + 1)).entry k = (r.scene n).entry k ∧
          (r.scene (n + 1)).shared.inFlight.get? k = (r.scene n).shared.inFlight.get? k) ∧
      (∀ n,
        let s := r.scene n
        let t := (r.only k).scene n
        (∀ l, ((r.only k).event n).key? t = some l → l = k) ∧
          t.clock = s.clock ∧ t.entry k = s.entry k ∧
          ∃ f : Nat → Nat,
            (∀ a < t.shared.outcomes.length, ∀ b < t.shared.outcomes.length, f a = f b → a = b) ∧
              s.shared.inFlight.get? k = (t.shared.inFlight.get? k).map f ∧
              s.calls.filter (·.key = k) = t.calls.map (Call.renumber f)) ∧
      (∀ n i a : Nat, (r.scene n).calls[i]? = some ⟨k, .waiting a⟩ →
        (∃ m < n, ∃ j, (r.scene m).Leads j k a) ∧ ∀ m j l, (r.scene m).Leads j l a → l = k) ∧
      (∀ (n i : Nat) (p : Phase), (r.scene n).calls[i]? = some ⟨k, p⟩ →
        Forces r.engine k (fun s => ∃ o, s.calls[i]? = some ⟨k, .finished o⟩) (r.scene n)) ∧
      ∀ l : Key, k = l ↔ k.registrationId = l.registrationId ∧
      k.principalName = l.principalName := by
  refine ⟨?_, ?_, ?_, ?_, ?_⟩
  · intro n other
    exact Interleaving.unchanged_of_key?_ne other
  · intro n
    -- the interleaving of the key alone is the whole one without the other events
    obtain ⟨f, shows⟩ := r.shows_only k n
    exact ⟨fun l isFor => shows.key?_restrict isFor, shows.clock, shows.alike.entry, f,
      shows.alike.injective, shows.alike.taken, shows.calls⟩
  · intro n i a waiting
    obtain ⟨m, hm, j, leads⟩ := Interleaving.waits_leader (Scene.stands_waits_iff.2 waiting)
    exact ⟨⟨m, hm, j, leads⟩, fun m' j' l leads' => (Interleaving.leader_of_attempt leads' leads).2⟩
  · intro n i p at_i
    exact (r.awaited n).forces_end at_i
  · intro l
    obtain ⟨id, name⟩ := k
    obtain ⟨id', name'⟩ := l
    exact Key.mk.injEq id name id' name' ▸ Iff.rfl

end Engine

end TokenBroker
