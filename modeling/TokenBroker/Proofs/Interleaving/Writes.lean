import TokenBroker.Proofs.Interleaving.InFlight

/-!
# Entries over time

Who changes the entry of a key. Besides other writers of the store (`Event.writes`), only a call for
the key does, in two places: where it removes a client whose refresh token was refused, and where it
saves the client of its exchange (`Interleaving.entry_cases`). A call passes each of them at most
once, since it never comes back to where it has been (`Interleaving.phase_later`).
-/

namespace TokenBroker

namespace Engine

variable {r : Interleaving} {k : Key} {i m n : Nat} {p : Phase}

/-! ## A call over time -/

/-- A call stays where it is or is nearer to its end later. -/
theorem Interleaving.phase_later (hmn : m ≤ n) (h : (r.scene m).calls[i]? = some ⟨k, p⟩) :
    ∃ q, (r.scene n).calls[i]? = some ⟨k, q⟩ ∧ (q = p ∨ q.rank < p.rank) := by
  induction hmn with
  | refl => exact ⟨p, h, .inl rfl⟩
  | @step n _ ih =>
    obtain ⟨q, hq, before⟩ := ih
    rcases (r.turn n).call_cases hq with h' | ⟨env, q', -, move, h'⟩
    · exact ⟨q, h', before⟩
    · refine ⟨q', h', .inr ?_⟩
      rcases before with rfl | before
      · exact move.rank_lt
      · exact Nat.lt_trans move.rank_lt before

/-- What holds where a call begins and is kept by its steps holds of every phase of it. -/
theorem Interleaving.each_phase {P : Phase → Prop} (start : P (r.engine.start k))
    (kept : ∀ {env s p t q}, Move r.engine k env s p t q → P p → P q)
    (h : (r.scene n).calls[i]? = some ⟨k, p⟩) : P p := by
  induction n generalizing p with
  | zero => simp [scene, Scene.initial] at h
  | succ n ih =>
    rcases (r.turn n).call_from h with h | ⟨-, -, rfl⟩ | ⟨env, p', -, hp, move⟩
    · exact ih h
    · exact start
    · exact kept move (ih hp)

/-- What a call holds belongs to its key at every moment. -/
theorem Interleaving.belongsTo (h : (r.scene n).calls[i]? = some ⟨k, p⟩) :
    p.BelongsTo r.engine k :=
  each_phase (belongsTo_start r.engine k) (fun move => move.belongsTo) h

/-! ## Writers -/

/-- Whether an event is another writer's for a key. -/
def Event.writes (k : Key) : Event → Bool
  | .evict l => l = k
  | .save c => c.key = k
  | _ => false

/-- A store stays of its kind. -/
theorem Interleaving.kind (r : Interleaving) (n : Nat) :
    (r.scene n).shared.store.kind = r.store.kind := by
  induction n with
  | zero => rfl
  | succ n ih =>
    rw [← ih]
    have turn := r.turn n
    generalize r.scene (n + 1) = s' at turn
    generalize r.event n = ev at turn
    cases turn with
    | begins | ticks | waits | pauses => rfl
    | evicts l => exact Store.kind_remove _ l
    | saves c => exact Store.kind_save _ c
    | moves _ move => exact move.kind

/-- Another writer's client is stored from then on. -/
theorem Interleaving.entry_save {c : AuthorizedClient} (h : r.event n = .save c) :
    (r.scene (n + 1)).entry c.key = Store.retrieve r.store.kind c := by
  rw [← r.kind n]
  show ((r.scene n).after r.engine (r.event n)).entry c.key = _
  rw [h]
  exact Store.entry_save_self _ c

/-- What another writer removes is gone. -/
theorem Interleaving.entry_evict (h : r.event n = .evict k) : (r.scene (n + 1)).entry k = none := by
  show ((r.scene n).after r.engine (r.event n)).entry k = _
  rw [h]
  exact Store.entry_remove_self _ k

/-- Between two events either no other writer writes for a key, or one of the writes is the last. -/
theorem Interleaving.quiet_or_last_write (r : Interleaving) (k : Key) (m n : Nat) :
    (∀ q, m < q → q < n → (r.event q).writes k = false) ∨
      ∃ q, m < q ∧ q < n ∧ (r.event q).writes k = true ∧
        ∀ q', q < q' → q' < n → (r.event q').writes k = false := by
  induction n with
  | zero => exact .inl fun q _ hq => absurd hq (Nat.not_lt_zero q)
  | succ n ih =>
    by_cases last : m < n ∧ (r.event n).writes k = true
    · exact .inr ⟨n, last.1, Nat.lt_succ_self n, last.2, fun q' hq hq' => by omega⟩
    · have now : m < n → (r.event n).writes k = false := by
        intro hm
        simpa [hm] using last
      rcases ih with quiet | ⟨q, hm, hn, written, quiet⟩
      · left
        intro q hm hq
        rcases Nat.lt_succ_iff_lt_or_eq.1 hq with hq | rfl
        · exact quiet q hm hq
        · exact now hm
      · refine .inr ⟨q, hm, Nat.lt_succ_of_lt hn, written, ?_⟩
        intro q' hq hq'
        rcases Nat.lt_succ_iff_lt_or_eq.1 hq' with hq' | rfl
        · exact quiet q' hq hq'
        · exact now (Nat.lt_trans hm hq)

/-- While no other writer writes for a key, its entry stays, unless a call for the key removes it or
saves one. -/
theorem Interleaving.entry_cases (quiet : (r.event n).writes k = false) :
    (r.scene (n + 1)).entry k = (r.scene n).entry k ∨
      (∃ (i a : Nat) (f : Failure) (o : Outcome), (r.scene n).calls[i]? = some ⟨k, .dropping a f⟩ ∧
        (r.scene (n + 1)).calls[i]? = some ⟨k, .publishing a o⟩ ∧
        (r.scene (n + 1)).entry k = none) ∨
      ∃ (i a : Nat) (g : GrantType) (c : AuthorizedClient),
        (r.scene n).calls[i]? = some ⟨k, .saving a g c⟩ ∧
        (r.scene (n + 1)).calls[i]? = some ⟨k, .publishing a (.ok c)⟩ ∧
        (r.scene (n + 1)).entry k = Store.retrieve r.store.kind c := by
  have turn := r.turn n
  generalize hs' : r.scene (n + 1) = s' at turn
  generalize r.event n = ev at turn quiet
  cases turn with
  | begins | ticks | waits | pauses => exact .inl rfl
  | evicts l =>
    have hl : k ≠ l := fun h => by simp [Event.writes, h] at quiet
    exact .inl (Store.entry_remove_of_ne hl _)
  | saves c =>
    have hc : k ≠ c.key := fun h => by simp [Event.writes, h] at quiet
    exact .inl (Store.entry_save_of_ne hc _)
  | @moves i env key p t q at_i move =>
    have belongs := r.belongsTo at_i
    have moved : ((r.scene n).calls.set i ⟨key, q⟩)[i]? = some ⟨key, q⟩ := by
      rw [getElem?_set_call at_i, if_pos rfl]
    -- only a call for the key writes to its entry
    by_cases hk : k = key
    · subst hk
      rcases move.entry_cases with same | ⟨a, f, rfl, dropped, rfl⟩ | ⟨a, g, c, rfl, saved, rfl⟩
      · exact .inl (same k)
      · refine .inr (.inl ⟨i, a, f, _, at_i, moved, ?_⟩)
        show t.store.entry k = none
        rw [dropped, Store.entry_remove_self]
      · refine .inr (.inr ⟨i, a, g, c, at_i, moved, ?_⟩)
        have recalled := Store.entry_save_self (r.scene n).shared.store c
        rw [belongs.key_eq, ← saved, r.kind n] at recalled
        exact recalled
    · exact .inl (move.entry_of_ne belongs hk)

end Engine

end TokenBroker
