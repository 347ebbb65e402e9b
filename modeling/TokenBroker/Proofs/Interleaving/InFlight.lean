import TokenBroker.Proofs.Interleaving.Basic

/-!
# Keys in flight

`Coordinated` ties the map of keys in flight to the calls: a key is in it, with an attempt, just
when some call leads that attempt for the key, an attempt has one leader, and its outcome is
published just when the leader has got that far. Every turn keeps it (`Coordinated.turns`), so it
holds at every moment of every interleaving (`Interleaving.coordinated`).

`inFlight_held_by_leaders` is what follows for an engine: each key in flight has exactly one leader
and each leader's key is in flight, no two exchanges for one key run at a time, a leader that gives
its key back finds its own attempt under it, and nothing is in flight when nobody leads.
-/

namespace TokenBroker

namespace Engine

variable {e : Engine} {s : Scene} {key k : Key} {i j a b : Nat} {p q : Phase} {t : Shared}

/-- The map of keys in flight and the published outcomes agree with where the calls stand. -/
structure Coordinated (s : Scene) : Prop where
  keys_nodup : (s.shared.inFlight.map (·.1)).Nodup
  holder : ∀ {k a}, s.shared.inFlight.get? k = some a → ∃ i, s.Leads i k a
  entry : ∀ {i k a}, s.Leads i k a → s.shared.inFlight.get? k = some a
  sole : ∀ {i j k l a}, s.Leads i k a → s.Leads j l a → i = j
  unpublished : ∀ {i k a}, s.Stands i k (.leads a) → s.shared.outcomes[a]? = some none
  published : ∀ {i k a o}, s.Stands i k (.published a o) → s.shared.outcomes[a]? = some (some o)

/-! ## Leading and standing -/

namespace Scene

/-- A call leads from the moment it takes its key until it has given it back. -/
theorem leads_iff : s.Leads i k a ↔ s.Stands i k (.leads a) ∨
    ∃ o, s.Stands i k (.published a o) := by
  constructor
  · rintro ⟨p, hp, hl⟩
    rw [← holds?_standing] at hl
    cases hx : p.standing <;> rw [hx] at hl <;> cases hl
    · exact .inl ⟨p, hp, hx⟩
    · exact .inr ⟨_, p, hp, hx⟩
  · rintro (⟨p, hp, hx⟩ | ⟨o, p, hp, hx⟩)
    · exact ⟨p, hp, by rw [← holds?_standing, hx]; rfl⟩
    · exact ⟨p, hp, by rw [← holds?_standing, hx]; rfl⟩

/-- A call stands in one place. -/
theorem Stands.unique {l : Key} {x y : Standing} (h : s.Stands i k x) (h' : s.Stands i l y) :
    k = l ∧ x = y := by
  obtain ⟨p, hp, rfl⟩ := h
  obtain ⟨p', hp', rfl⟩ := h'
  rw [hp] at hp'
  cases hp'
  exact ⟨rfl, rfl⟩

/-- After a move of one call, all others stand where they stood. -/
theorem stands_moved (at_i : s.calls[i]? = some ⟨key, p⟩) {x : Standing} :
    ({ s with shared := t, calls := s.calls.set i ⟨key, q⟩ } : Scene).Stands j k x ↔
      (j = i ∧ k = key ∧ x = q.standing) ∨ (j ≠ i ∧ s.Stands j k x) := by
  unfold Stands
  simp only [getElem?_set_call at_i]
  by_cases hj : j = i
  · simp only [hj, if_true, Option.some.injEq, Call.mk.injEq]
    grind
  · simp [hj]

/-- After a move of one call, all others lead what they led. -/
theorem leads_moved (at_i : s.calls[i]? = some ⟨key, p⟩) :
    ({ s with shared := t, calls := s.calls.set i ⟨key, q⟩ } : Scene).Leads j k a ↔
      (j = i ∧ k = key ∧ q.standing.holds? = some a) ∨ (j ≠ i ∧ s.Leads j k a) := by
  unfold Leads
  simp only [getElem?_set_call at_i, holds?_standing]
  by_cases hj : j = i
  · simp only [hj, if_true, Option.some.injEq, Call.mk.injEq]
    grind
  · simp [hj]

theorem leads_at (at_i : s.calls[i]? = some ⟨key, p⟩) :
    s.Leads i k a ↔ k = key ∧ p.standing.holds? = some a := by
  unfold Leads
  rw [at_i, holds?_standing]
  grind

/-- A move that neither enters nor leaves a standing changes nobody's share in it. -/
theorem stands_moved_iff (at_i : s.calls[i]? = some ⟨key, p⟩) {x : Standing}
    (hx : q.standing = x ↔ p.standing = x) :
    ({ s with shared := t, calls := s.calls.set i ⟨key, q⟩ } : Scene).Stands j k x ↔
      s.Stands j k x := by
  rw [stands_moved at_i]
  by_cases hj : j = i
  · subst hj
    unfold Stands
    rw [at_i]
    grind
  · simp [hj]

/-- A call that begins neither leads nor has published anything. -/
theorem stands_begun_iff {x : Standing} (hx : ∀ k, (e.start k).standing ≠ x) :
    ({ s with calls := s.calls ++ [⟨key, e.start key⟩] } : Scene).Stands j k x ↔
      s.Stands j k x := by
  constructor
  · rintro ⟨p, hp, hxp⟩
    rcases getElem?_append_call_cases hp with hp | ⟨-, hc⟩
    · exact ⟨p, hp, hxp⟩
    · cases hc
      exact absurd hxp (hx key)
  · rintro ⟨p, hp, hxp⟩
    exact ⟨p, getElem?_append_call hp, hxp⟩

/-- At the beginning nobody leads. -/
theorem initial_not_leads (clock : DateTime) (store : Store) :
    ¬ (initial clock store).Leads i k a := by
  rintro ⟨p, hp, -⟩
  simp [initial] at hp

end Scene

/-! ## Every event keeps the agreement -/

namespace Coordinated

/-- The outcome of an attempt that is led has its place. -/
theorem attempt_lt (h : Coordinated s) (hl : s.Leads i k a) : a < s.shared.outcomes.length := by
  rcases Scene.leads_iff.1 hl with hx | ⟨o, hx⟩
  · exact (List.getElem?_eq_some_iff.1 (h.unpublished hx)).1
  · exact (List.getElem?_eq_some_iff.1 (h.published hx)).1

/-- A key has one leader, which leads one attempt. -/
theorem leader_unique (h : Coordinated s) (hi : s.Leads i k a) (hj : s.Leads j k b) :
    i = j ∧ a = b := by
  have hab : a = b := by
    have e := (h.entry hi).symm.trans (h.entry hj)
    exact Option.some.inj e
  subst hab
  exact ⟨h.sole hi hj, rfl⟩

/-- Two phases in which a call leads for one key are the same phase of the same call. -/
theorem phase_unique {p q : Phase} (h : Coordinated s) (at_i : s.calls[i]? = some ⟨k, p⟩)
    (hp : p.leads? = some a) (at_j : s.calls[j]? = some ⟨k, q⟩) (hq : q.leads? = some b) :
    i = j ∧ p = q := by
  obtain ⟨rfl, -⟩ := h.leader_unique ⟨p, at_i, hp⟩ ⟨q, at_j, hq⟩
  rw [at_i] at at_j
  cases at_j
  exact ⟨rfl, rfl⟩

/-- At the beginning the attempts in flight are in order. -/
theorem initial (clock : DateTime) (store : Store) : Coordinated (.initial clock store) where
  keys_nodup := List.nodup_nil
  holder h := by simp [Scene.initial] at h
  entry h := absurd h (Scene.initial_not_leads clock store)
  sole h := absurd h (Scene.initial_not_leads clock store)
  unpublished h := absurd (Scene.leads_iff.2 (.inl h)) (Scene.initial_not_leads clock store)
  published h := absurd (Scene.leads_iff.2 (.inr ⟨_, h⟩)) (Scene.initial_not_leads clock store)

/-- Only leading calls, the keys in flight and the outcomes matter. -/
theorem congr (h : Coordinated s) {s' : Scene} (inFlight : s'.shared.inFlight = s.shared.inFlight)
    (outcomes : s'.shared.outcomes = s.shared.outcomes)
    (leading : ∀ i k a, s'.Stands i k (.leads a) ↔ s.Stands i k (.leads a))
    (done : ∀ i k a o, s'.Stands i k (.published a o) ↔ s.Stands i k (.published a o)) :
    Coordinated s' := by
  have leads : ∀ i k a, s'.Leads i k a ↔ s.Leads i k a := by
    intro i k a
    simp only [Scene.leads_iff, leading, done]
  refine ⟨?_, ?_, ?_, ?_, ?_, ?_⟩
  · rw [inFlight]; exact h.keys_nodup
  · intro k a hk
    rw [inFlight] at hk
    obtain ⟨i, hi⟩ := h.holder hk
    exact ⟨i, (leads i k a).2 hi⟩
  · intro i k a hi
    rw [inFlight]
    exact h.entry ((leads i k a).1 hi)
  · intro i j k l a hi hj
    exact h.sole ((leads i k a).1 hi) ((leads j l a).1 hj)
  · intro i k a hi
    rw [outcomes]
    exact h.unpublished ((leading i k a).1 hi)
  · intro i k a o hi
    rw [outcomes]
    exact h.published ((done i k a o).1 hi)

section Takes

variable (h : Coordinated s) (at_i : s.calls[i]? = some ⟨key, p⟩)
  (hq : q.standing = .leads s.shared.outcomes.length) (free : s.shared.inFlight.get? key = none)

/-- The scene after a call has taken its key for an attempt of its own. -/
def taking (s : Scene) (i : Nat) (key : Key) (q : Phase) : Scene :=
  { s with
    shared :=
      { s.shared with
        inFlight := s.shared.inFlight.put key s.shared.outcomes.length
        outcomes := s.shared.outcomes ++ [none] }
    calls := s.calls.set i ⟨key, q⟩ }

include h free in
/-- A key that was free is in flight once after it is taken. -/
theorem keys_nodup_taking : ((taking s i key q).shared.inFlight.map (·.1)).Nodup := by
  show ((s.shared.inFlight.put key _).map (·.1)).Nodup
  rw [Table.keys_put_of_get? free, List.nodup_append]
  refine ⟨h.keys_nodup, List.pairwise_singleton _ key, ?_⟩
  intro k hk k' hk' e
  rw [List.mem_singleton] at hk'
  obtain ⟨a, ha⟩ := Table.mem_keys_iff.1 hk
  rw [e, hk', free] at ha
  cases ha

include h at_i hq in
/-- After a key is taken each key in flight has a call that leads it. -/
theorem holder_taking (hk : (taking s i key q).shared.inFlight.get? k = some a) :
    ∃ j, (taking s i key q).Leads j k a := by
  change (s.shared.inFlight.put key s.shared.outcomes.length).get? k = some a at hk
  by_cases hkk : k = key
  · subst hkk
    rw [Table.get?_put_self] at hk
    exact ⟨i, (Scene.leads_moved at_i).2 (.inl ⟨rfl, rfl, by rw [hq]; exact hk⟩)⟩
  · rw [Table.get?_put_of_ne hkk] at hk
    obtain ⟨j, hj⟩ := h.holder hk
    refine ⟨j, (Scene.leads_moved at_i).2 (.inr ⟨?_, hj⟩)⟩
    rintro rfl
    exact hkk ((Scene.leads_at at_i).1 hj).1

include h at_i hq free in
/-- After a key is taken each call that leads has its key in flight. -/
theorem entry_taking (hj : (taking s i key q).Leads j k a) :
    (taking s i key q).shared.inFlight.get? k = some a := by
  show (s.shared.inFlight.put key s.shared.outcomes.length).get? k = some a
  rcases (Scene.leads_moved at_i).1 hj with ⟨-, rfl, ha⟩ | ⟨-, hj⟩
  · rw [hq] at ha
    rw [Table.get?_put_self]
    exact ha
  · have hk := h.entry hj
    have hkk : k ≠ key := by
      rintro rfl
      rw [free] at hk
      cases hk
    rw [Table.get?_put_of_ne hkk]
    exact hk

include h at_i hq in
/-- After a key is taken each attempt in flight has one leader. -/
theorem sole_taking (hj : (taking s i key q).Leads j k a) (hj' : (taking s i key q).Leads j' l a) :
    j = j' := by
  -- the new attempt is none of those that are led already
  have fresh : ∀ {j k a}, s.Leads j k a →
      Standing.holds? (.leads s.shared.outcomes.length) ≠ some a := by
    intro j k a hj ha
    have := h.attempt_lt hj
    cases ha
    exact Nat.lt_irrefl _ this
  rcases (Scene.leads_moved at_i).1 hj with ⟨hji, -, ha⟩ | ⟨-, old⟩
  · rcases (Scene.leads_moved at_i).1 hj' with ⟨hji', -, -⟩ | ⟨-, old'⟩
    · rw [hji, hji']
    · exact absurd (hq ▸ ha) (fresh old')
  · rcases (Scene.leads_moved at_i).1 hj' with ⟨-, -, ha⟩ | ⟨-, old'⟩
    · exact absurd (hq ▸ ha) (fresh old)
    · exact h.sole old old'

/-- A new attempt leaves the outcomes of the others as they are. -/
theorem outcome_taking {o : Option Outcome} (ha : s.shared.outcomes[a]? = some o) :
    (taking s i key q).shared.outcomes[a]? = some o := by
  show (s.shared.outcomes ++ [none])[a]? = some o
  rw [List.getElem?_append_left (List.getElem?_eq_some_iff.1 ha).1]
  exact ha

include h at_i hq free in
/-- A call that takes its key starts an attempt of its own. -/
theorem takes : Coordinated (taking s i key q) where
  keys_nodup := keys_nodup_taking h free
  holder := holder_taking h at_i hq
  entry := entry_taking h at_i hq free
  sole := sole_taking h at_i hq
  unpublished hj := by
    rcases (Scene.stands_moved at_i).1 hj with ⟨-, -, ha⟩ | ⟨-, hj⟩
    · rw [hq] at ha
      cases ha
      exact List.getElem?_concat_length
    · exact outcome_taking (h.unpublished hj)
  published hj := by
    rcases (Scene.stands_moved at_i).1 hj with ⟨-, -, ha⟩ | ⟨-, hj⟩
    · rw [hq] at ha
      cases ha
    · exact outcome_taking (h.published hj)

end Takes

/-- A leader publishes in the place of its own attempt. -/
theorem publishes (h : Coordinated s) {o : Outcome} (at_i : s.calls[i]? = some ⟨key, p⟩)
    (hp : p.standing = .leads a) (hq : q.standing = .published a o) :
    Coordinated
      { s with
        shared := { s.shared with outcomes := s.shared.outcomes.set a (some o) }
        calls := s.calls.set i ⟨key, q⟩ } := by
  have led : s.Leads i key a := (Scene.leads_at at_i).2 ⟨rfl, by rw [hp]; rfl⟩
  have leads : ∀ {j k b},
      ({ s with
        shared := { s.shared with outcomes := s.shared.outcomes.set a (some o) }
        calls := s.calls.set i ⟨key, q⟩ } : Scene).Leads j k b ↔ s.Leads j k b := by
    intro j k b
    rw [Scene.leads_moved at_i]
    by_cases hj : j = i
    · subst hj
      simp [Scene.leads_at at_i, hp, hq, Standing.holds?]
    · simp [hj]
  -- no other leader is touched, since its attempt is another one
  have others : ∀ {j k b}, j ≠ i → s.Leads j k b → a ≠ b := by
    rintro j k b hj hl rfl
    exact hj (h.sole hl led)
  refine ⟨h.keys_nodup, ?_, ?_, ?_, ?_, ?_⟩
  · intro k b hk
    obtain ⟨j, hj⟩ := h.holder hk
    exact ⟨j, leads.2 hj⟩
  · intro j k b hj
    exact h.entry (leads.1 hj)
  · intro j j' k l b hj hj'
    exact h.sole (leads.1 hj) (leads.1 hj')
  · intro j k b hj
    rcases (Scene.stands_moved at_i).1 hj with ⟨-, -, hb⟩ | ⟨hji, hj⟩
    · rw [hq] at hb
      cases hb
    · show (s.shared.outcomes.set a (some o))[b]? = some none
      rw [List.getElem?_set_ne (others hji (Scene.leads_iff.2 (.inl hj)))]
      exact h.unpublished hj
  · intro j k b o' hj
    rcases (Scene.stands_moved at_i).1 hj with ⟨-, -, hb⟩ | ⟨hji, hj⟩
    · rw [hq] at hb
      cases hb
      exact List.getElem?_set_self (h.attempt_lt led)
    · show (s.shared.outcomes.set a (some o))[b]? = some (some o')
      rw [List.getElem?_set_ne (others hji (Scene.leads_iff.2 (.inr ⟨o', hj⟩)))]
      exact h.published hj

/-- A leader gives its own key back, and no other. -/
theorem givesBack (h : Coordinated s) {o : Outcome} (at_i : s.calls[i]? = some ⟨key, p⟩)
    (hp : p.standing = .published a o) (hq : q.standing = .ended o) :
    Coordinated
      { s with
        shared := { s.shared with inFlight := s.shared.inFlight.erase key }
        calls := s.calls.set i ⟨key, q⟩ } := by
  have led : s.Leads i key a := (Scene.leads_at at_i).2 ⟨rfl, by rw [hp]; rfl⟩
  have leads : ∀ {j k b},
      ({ s with
        shared := { s.shared with inFlight := s.shared.inFlight.erase key }
        calls := s.calls.set i ⟨key, q⟩ } : Scene).Leads j k b → j ≠ i ∧ s.Leads j k b := by
    intro j k b hj
    rcases (Scene.leads_moved at_i).1 hj with ⟨-, -, hb⟩ | hj
    · rw [hq] at hb
      cases hb
    · exact hj
  refine ⟨?_, ?_, ?_, ?_, ?_, ?_⟩
  · show ((s.shared.inFlight.erase key).map (·.1)).Nodup
    rw [Table.keys_erase]
    exact h.keys_nodup.filter _
  · intro k b hk
    by_cases hkk : k = key
    · subst hkk
      rw [Table.get?_erase_self] at hk
      cases hk
    · rw [Table.get?_erase_of_ne hkk] at hk
      obtain ⟨j, hj⟩ := h.holder hk
      refine ⟨j, (Scene.leads_moved at_i).2 (.inr ⟨?_, hj⟩)⟩
      rintro rfl
      exact hkk ((Scene.leads_at at_i).1 hj).1
  · intro j k b hj
    obtain ⟨hji, old⟩ := leads hj
    -- whoever still leads has another key, for this one had a single leader
    have hkk : k ≠ key := by
      intro hkk
      exact hji (h.leader_unique old (hkk ▸ led)).1
    rw [Table.get?_erase_of_ne hkk]
    exact h.entry old
  · intro j j' k l b hj hj'
    exact h.sole (leads hj).2 (leads hj').2
  · intro j k b hj
    rcases (Scene.stands_moved at_i).1 hj with ⟨-, -, hb⟩ | ⟨-, hj⟩
    · rw [hq] at hb
      cases hb
    · exact h.unpublished hj
  · intro j k b o' hj
    rcases (Scene.stands_moved at_i).1 hj with ⟨-, -, hb⟩ | ⟨-, hj⟩
    · rw [hq] at hb
      cases hb
    · exact h.published hj

/-- One step of a call. -/
theorem moves (h : Coordinated s) (at_i : s.calls[i]? = some ⟨key, p⟩)
    (passage : Passage key s.shared p.standing t q.standing) :
    Coordinated { s with shared := t, calls := s.calls.set i ⟨key, q⟩ } := by
  generalize hp : p.standing = x at passage
  generalize hq : q.standing = y at passage
  cases passage with
  | stays inFlight outcomes =>
    have same : ∀ z, q.standing = z ↔ p.standing = z := by
      intro z
      rw [hp, hq]
    exact h.congr inFlight outcomes (fun _ _ _ => Scene.stands_moved_iff at_i (same _))
      (fun _ _ _ _ => Scene.stands_moved_iff at_i (same _))
  | ends | joins taken | hears published =>
    exact h.congr rfl rfl (fun _ _ _ => Scene.stands_moved_iff at_i (by simp [hp, hq]))
      (fun _ _ _ _ => Scene.stands_moved_iff at_i (by simp [hp, hq]))
  | takes free => exact h.takes at_i hq free
  | publishes => exact h.publishes at_i hp hq
  | givesBack => exact h.givesBack at_i hp hq

/-- One event. -/
theorem turns (h : Coordinated s) {ev : Event} {s' : Scene} (turn : Turn e s ev s') :
    Coordinated s' := by
  cases turn with
  | begins key =>
    have fresh : ∀ (k : Key) (x : Standing), x.holds? ≠ none → (e.start k).standing ≠ x := by
      intro k x hx hk
      rcases standing_start e k with hs | ⟨o, hs⟩
      · exact hx (by rw [← hk, hs]; rfl)
      · exact hx (by rw [← hk, hs]; rfl)
    exact h.congr rfl rfl
      (fun _ _ _ => Scene.stands_begun_iff fun k => fresh k _ (by simp [Standing.holds?]))
      (fun _ _ _ _ => Scene.stands_begun_iff fun k => fresh k _ (by simp [Standing.holds?]))
  | moves at_i move => exact h.moves at_i move.passage
  | evicts | saves | ticks | waits | pauses =>
    exact h.congr rfl rfl (fun _ _ _ => Iff.rfl) (fun _ _ _ _ => Iff.rfl)

end Coordinated

/-- At every moment the keys in flight agree with the calls. -/
theorem Interleaving.coordinated (r : Interleaving) (n : Nat) : Coordinated (r.scene n) := by
  induction n with
  | zero => exact .initial r.clock r.store
  | succ n ih => exact ih.turns (r.turn n)

/-! ## Mutual exclusion -/

namespace Scene

/-- An exchange of a call for a key is under way: it has started and not yet ended. -/
def Exchanges (s : Scene) (i : Nat) (k : Key) : Prop :=
  ∃ a p issuedAt sent ticket, s.calls[i]? = some ⟨k, .receiving a p issuedAt sent ticket⟩

/-- Only the leader of an attempt sends its request. -/
theorem Exchanges.leads (h : s.Exchanges i k) : ∃ a, s.Leads i k a := by
  obtain ⟨a, p, issuedAt, sent, ticket, hp⟩ := h
  exact ⟨a, _, hp, rfl⟩

/-- The calls that lead, in the order in which they began. -/
def leaders (s : Scene) : List Call := s.calls.filter (·.phase.leads?.isSome)

/-- The keys of the leaders are those that some call leads. -/
theorem mem_leaders_iff : k ∈ s.leaders.map (·.key) ↔ ∃ i a, s.Leads i k a := by
  constructor
  · intro hk
    obtain ⟨⟨k', p⟩, hc, rfl⟩ := List.mem_map.1 hk
    obtain ⟨hc, hl⟩ := List.mem_filter.1 hc
    obtain ⟨i, hi⟩ := List.mem_iff_getElem?.1 hc
    obtain ⟨a, ha⟩ := Option.isSome_iff_exists.1 hl
    exact ⟨i, a, p, hi, ha⟩
  · rintro ⟨i, a, p, hp, ha⟩
    exact List.mem_map.2 ⟨⟨k, p⟩, List.mem_filter.2 ⟨List.mem_of_getElem? hp, by simp [ha]⟩, rfl⟩

end Scene

/-- Leaders have distinct keys. -/
theorem Coordinated.nodup_leaders (h : Coordinated s) : (s.leaders.map (·.key)).Nodup := by
  have apart : s.calls.Pairwise fun c d =>
      c.phase.leads?.isSome = true → d.phase.leads?.isSome = true → c.key ≠ d.key := by
    rw [List.pairwise_iff_getElem]
    intro i j hi hj hij hc hd hk
    obtain ⟨a, ha⟩ := Option.isSome_iff_exists.1 hc
    obtain ⟨b, hb⟩ := Option.isSome_iff_exists.1 hd
    have li : s.Leads i s.calls[i].key a := ⟨_, List.getElem?_eq_getElem hi, ha⟩
    have lj : s.Leads j s.calls[i].key b := ⟨_, by rw [hk]; exact List.getElem?_eq_getElem hj, hb⟩
    have := (h.leader_unique li lj).1
    omega
  unfold Scene.leaders List.Nodup
  rw [List.pairwise_map, List.pairwise_filter]
  exact apart.imp fun hcd hc hd => hcd hc hd

/-- As many keys are in flight as calls lead. -/
theorem Coordinated.inFlight_eq (h : Coordinated s) : s.inFlight = s.leaders.length := by
  have same : (s.shared.inFlight.map (·.1)).Perm (s.leaders.map (·.key)) := by
    rw [List.perm_ext_iff_of_nodup h.keys_nodup h.nodup_leaders]
    intro k
    rw [Table.mem_keys_iff, Scene.mem_leaders_iff]
    constructor
    · rintro ⟨a, ha⟩
      obtain ⟨i, hi⟩ := h.holder ha
      exact ⟨i, a, hi⟩
    · rintro ⟨i, a, hi⟩
      exact ⟨a, h.entry hi⟩
  simpa [Scene.inFlight] using same.length_eq

/-- **Mutual exclusion for each key.** At every moment of every interleaving, whatever store and
exchanges answer: the keys in flight, each standing in the map once, are the keys of the calls that
lead, and each has exactly one leader; two exchanges for one key are one; a call about to give its
key back finds under it the attempt that it leads and nobody else does; and as many keys are in
flight as calls lead, so none when nobody does. -/
theorem inFlight_held_by_leaders (r : Interleaving) (n : Nat) :
    let s := r.scene n
    (s.shared.inFlight.map (·.1)).Nodup ∧
      (∀ k, k ∈ s.shared.inFlight.map (·.1) ↔ ∃ i a, s.Leads i k a) ∧
      (∀ k i j a b, s.Leads i k a → s.Leads j k b → i = j ∧ a = b) ∧
      (∀ k i j, s.Exchanges i k → s.Exchanges j k → i = j) ∧
      (∀ k i a o, s.calls[i]? = some ⟨k, .releasing a o⟩ →
        s.shared.inFlight.get? k = some a ∧ ∀ j l, s.Leads j l a → j = i) ∧
      s.inFlight = s.leaders.length ∧
      ((∀ i k a, ¬ s.Leads i k a) → s.inFlight = 0) := by
  intro s
  have h : Coordinated s := r.coordinated n
  refine ⟨h.keys_nodup, ?_, ?_, ?_, ?_, h.inFlight_eq, ?_⟩
  · intro k
    rw [Table.mem_keys_iff]
    constructor
    · rintro ⟨a, ha⟩
      obtain ⟨i, hi⟩ := h.holder ha
      exact ⟨i, a, hi⟩
    · rintro ⟨i, a, hi⟩
      exact ⟨a, h.entry hi⟩
  · intro k i j a b hi hj
    exact h.leader_unique hi hj
  · intro k i j hi hj
    obtain ⟨a, hi⟩ := hi.leads
    obtain ⟨b, hj⟩ := hj.leads
    exact (h.leader_unique hi hj).1
  · intro k i a o hi
    have led : s.Leads i k a := ⟨_, hi, rfl⟩
    exact ⟨h.entry led, fun j l hj => h.sole hj led⟩
  · intro idle
    -- the count is that of the leaders, and there are none
    rw [h.inFlight_eq, List.length_eq_zero_iff, List.eq_nil_iff_forall_not_mem]
    intro c hc
    obtain ⟨i, a, hl⟩ := Scene.mem_leaders_iff.1 (List.mem_map_of_mem hc)
    exact idle i c.key a hl

end Engine

end TokenBroker
