import TokenBroker.Proofs.Interleaving.InFlight

/-!
# Sharing outcomes

What a call that waits gets. The history of an attempt is short: it is led by one call, from the
moment at which that call takes the key until the call ends with the outcome that it has published
(`Interleaving.leads_or_answered`); after that nobody leads the attempt again (`Scene.Spent`). A
call waits only for an attempt that was in flight for its key when it looked
(`Interleaving.waits_joined`), and it ends with what is published there
(`Interleaving.waits_or_answered`).

`waiters_share_outcome` puts this together: a waiting call and the leader are for one key and end
alike, an attempt whose key was given back before a call began says nothing to it, a client that
comes from an exchange is saved before anyone is given it, and a call never waits for a leader that
is gone.
-/

namespace TokenBroker

namespace Engine

variable {e : Engine} {s s' : Scene} {ev : Event} {k l : Key} {i j a m n : Nat} {o : Outcome}
  {x : Standing} {r : Interleaving}

/-! ## Phases and standings -/

namespace Scene

/-- A standing that belongs to one phase only tells where the call is. -/
theorem stands_iff_of_standing {q : Phase} (only : ∀ p : Phase, p.standing = x ↔ p = q) :
    s.Stands i k x ↔ s.calls[i]? = some ⟨k, q⟩ := by
  unfold Stands
  simp only [only]
  constructor
  · rintro ⟨p, hp, rfl⟩
    exact hp
  · intro h
    exact ⟨q, h, rfl⟩

theorem stands_waits_iff : s.Stands i k (.waits a) ↔ s.calls[i]? = some ⟨k, .waiting a⟩ :=
  stands_iff_of_standing fun p => by cases p <;> simp [Phase.standing]

theorem stands_published_iff :
    s.Stands i k (.published a o) ↔ s.calls[i]? = some ⟨k, .releasing a o⟩ :=
  stands_iff_of_standing fun p => by cases p <;> simp [Phase.standing]

theorem stands_ended_iff : s.Stands i k (.ended o) ↔ s.calls[i]? = some ⟨k, .finished o⟩ :=
  stands_iff_of_standing fun p => by cases p <;> simp [Phase.standing]

/-- A call that leads has not ended. -/
theorem Leads.not_ended (h : s.Leads i k a) : ¬ s.Stands i l (.ended o) := by
  intro ended
  rcases leads_iff.1 h with hx | ⟨o', hx⟩
  · cases (hx.unique ended).2
  · cases (hx.unique ended).2

/-- A call leads one key. -/
theorem Leads.key_eq (h : s.Leads i k a) (h' : s.Leads i l a) : k = l := by
  obtain ⟨p, hp, -⟩ := h
  obtain ⟨p', hp', -⟩ := h'
  rw [hp] at hp'
  cases hp'
  rfl

end Scene

/-- A call keeps its standing unless it moves by a passage. -/
theorem Turn.stands_cases (turn : Turn e s ev s') (h : s.Stands i k x) :
    s'.Stands i k x ∨ ∃ y, Passage k s.shared x s'.shared y ∧ s'.Stands i k y := by
  obtain ⟨p, hp, rfl⟩ := h
  rcases turn.call_cases hp with h | ⟨env, q, -, move, hq⟩
  · exact .inl ⟨p, h, rfl⟩
  · exact .inr ⟨q.standing, move.passage, q, hq, rfl⟩

/-- Where a standing comes from. -/
theorem Turn.stands_from (turn : Turn e s ev s') (h : s'.Stands i k x) :
    s.Stands i k x ∨ (x = .apart ∨ ∃ o, x = .ended o) ∨
      ∃ y, s.Stands i k y ∧ Passage k s.shared y s'.shared x := by
  obtain ⟨q, hq, rfl⟩ := h
  rcases turn.call_from hq with h | ⟨-, -, rfl⟩ | ⟨env, p, -, hp, move⟩
  · exact .inl ⟨q, h, rfl⟩
  · exact .inr (.inl (standing_start e k))
  · exact .inr (.inr ⟨p.standing, ⟨p, hp, rfl⟩, move.passage⟩)

/-! ## What lasts -/

/-- What every turn keeps lasts. -/
theorem Interleaving.lasts {P : Scene → Prop}
    (keeps : ∀ {s ev s'}, Coordinated s → Turn r.engine s ev s' → P s → P s') (hmn : m ≤ n)
    (hm : P (r.scene m)) : P (r.scene n) := by
  induction hmn with
  | refl => exact hm
  | @step n _ ih => exact keeps (r.coordinated n) (r.turn n) ih

/-- A call that has ended stays as it is. -/
theorem Turn.ended_kept (turn : Turn e s ev s') (h : s.Stands i k (.ended o)) :
    s'.Stands i k (.ended o) := by
  rcases turn.stands_cases h with h | ⟨y, passage, h⟩
  · exact h
  · cases passage
    exact h

/-- An outcome, once published, stays. -/
theorem Turn.outcome_kept (turn : Turn e s ev s') (hc : Coordinated s)
    (h : s.shared.outcomes[a]? = some (some o)) : s'.shared.outcomes[a]? = some (some o) := by
  cases turn with
  | begins | evicts | saves | ticks | waits | pauses => exact h
  | @moves i env key p t q at_i move =>
    have passage := move.passage
    generalize hp : p.standing = x at passage
    generalize q.standing = y at passage
    cases passage with
    | stays _ outcomes =>
      show t.outcomes[a]? = _
      rw [outcomes]
      exact h
    | ends | joins | hears | givesBack => exact h
    | takes =>
      show (s.shared.outcomes ++ [none])[a]? = _
      rw [List.getElem?_append_left (List.getElem?_eq_some_iff.1 h).1]
      exact h
    | @publishes b o' =>
      have hb := hc.unpublished ⟨p, at_i, hp⟩
      have hab : b ≠ a := by
        rintro rfl
        rw [h] at hb
        cases hb
      show (s.shared.outcomes.set b (some o'))[a]? = _
      rw [List.getElem?_set_ne hab]
      exact h

namespace Scene

/-- An attempt that has been made and that nobody leads any more. -/
def Spent (s : Scene) (a : Nat) : Prop :=
  a < s.shared.outcomes.length ∧ ∀ i k, ¬ s.Leads i k a

/-- A call has ended with the outcome of an attempt. -/
def Answered (s : Scene) (i : Nat) (k : Key) (a : Nat) : Prop :=
  ∃ o, s.Stands i k (.ended o) ∧ s.shared.outcomes[a]? = some (some o)

end Scene

/-- Attempts are numbered on and on. -/
theorem Turn.attempts_kept (turn : Turn e s ev s') :
    s.shared.outcomes.length ≤ s'.shared.outcomes.length := by
  cases turn with
  | begins | evicts | saves | ticks | waits | pauses => exact Nat.le_refl _
  | moves _ move => exact move.attempts_kept

/-- Only a call that takes its key comes to lead, and it leads an attempt that is new. -/
theorem Turn.spent_kept (turn : Turn e s ev s') (h : s.Spent a) : s'.Spent a := by
  obtain ⟨made, unled⟩ := h
  refine ⟨Nat.lt_of_lt_of_le made turn.attempts_kept, ?_⟩
  have still : ∀ i k x, x.holds? = some a → ¬ s.Stands i k x := by
    rintro i k x hx ⟨p, hp, rfl⟩
    exact unled i k ⟨p, hp, by rw [← holds?_standing]; exact hx⟩
  rintro i k ⟨q, hq, hl⟩
  rw [← holds?_standing] at hl
  rcases turn.stands_from ⟨q, hq, rfl⟩ with h | (h | ⟨o, h⟩) | ⟨y, hy, passage⟩
  · exact still i k _ hl h
  · rw [h] at hl; cases hl
  · rw [h] at hl; cases hl
  · generalize q.standing = x at hl passage
    generalize s'.shared = t at passage
    cases passage with
    | stays => exact still i k _ hl hy
    | ends | joins | hears | givesBack => cases hl
    | takes =>
      cases hl
      exact Nat.lt_irrefl _ made
    | publishes => exact still i k (.leads _) hl hy

/-- A call that has its answer keeps it. -/
theorem Turn.answered_kept (turn : Turn e s ev s') (hc : Coordinated s) (h : s.Answered i k a) :
    s'.Answered i k a := by
  obtain ⟨o, ended, outcome⟩ := h
  exact ⟨o, turn.ended_kept ended, turn.outcome_kept hc outcome⟩

/-- A waiting call waits on or hears the outcome. -/
theorem Turn.waits_kept (turn : Turn e s ev s') (h : s.Stands i k (.waits a)) :
    s'.Stands i k (.waits a) ∨ s'.Answered i k a := by
  rcases turn.stands_cases h with h | ⟨y, passage, h⟩
  · exact .inl h
  · generalize ht : s'.shared = t at passage
    cases passage with
    | stays => exact .inl h
    | @hears _ o published => exact .inr ⟨o, h, by rw [ht]; exact published⟩

/-- A leader leads on, or ends with the outcome that it has published; then nobody leads its
attempt. -/
theorem Turn.leads_kept (turn : Turn e s ev s') (hc : Coordinated s) (h : s.Leads i k a) :
    s'.Leads i k a ∨ s'.Answered i k a ∧ s'.Spent a := by
  have hc' : Coordinated s' := hc.turns turn
  rcases Scene.leads_iff.1 h with hx | ⟨o, hx⟩
  · left
    rcases turn.stands_cases hx with h | ⟨y, passage, h⟩
    · exact Scene.leads_iff.2 (.inl h)
    · generalize s'.shared = t at passage
      cases passage with
      | stays => exact Scene.leads_iff.2 (.inl h)
      | publishes => exact Scene.leads_iff.2 (.inr ⟨_, h⟩)
  · rcases turn.stands_cases hx with h' | ⟨y, passage, h'⟩
    · exact .inl (Scene.leads_iff.2 (.inr ⟨o, h'⟩))
    · generalize ht : s'.shared = t at passage
      cases passage with
      | stays => exact .inl (Scene.leads_iff.2 (.inr ⟨o, h'⟩))
      | givesBack =>
        -- the outcome was published before the key is given back
        have outcome : s'.shared.outcomes[a]? = some (some o) := by
          rw [ht]
          exact hc.published hx
        refine .inr ⟨⟨o, h', outcome⟩, (List.getElem?_eq_some_iff.1 outcome).1, ?_⟩
        intro j l hj
        have taken := hc'.entry hj
        rw [ht] at taken
        by_cases hl : l = k
        · subst hl
          rw [Table.get?_erase_self] at taken
          cases taken
        · rw [Table.get?_erase_of_ne hl] at taken
          obtain ⟨j', hj'⟩ := hc.holder taken
          have hji := hc.sole hj' h
          subst hji
          exact hl (hj'.key_eq h)

namespace Interleaving

/-- An attempt that is over stays over. -/
theorem spent (hmn : m ≤ n) (h : (r.scene m).Spent a) : (r.scene n).Spent a :=
  lasts (fun _ turn h => turn.spent_kept h) hmn h

/-- A call that has ended stays as it is. -/
theorem ended (hmn : m ≤ n) (h : (r.scene m).Stands i k (.ended o)) :
    (r.scene n).Stands i k (.ended o) :=
  lasts (fun _ turn h => turn.ended_kept h) hmn h

/-- An outcome that was published stays published. -/
theorem outcome (hmn : m ≤ n) (h : (r.scene m).shared.outcomes[a]? = some (some o)) :
    (r.scene n).shared.outcomes[a]? = some (some o) :=
  lasts (fun hc turn h => turn.outcome_kept hc h) hmn h

/-- Whoever leads an attempt leads it until it has ended with its outcome. -/
theorem leads_or_answered (hmn : m ≤ n) (h : (r.scene m).Leads i k a) :
    (r.scene n).Leads i k a ∨ (r.scene n).Answered i k a ∧ (r.scene n).Spent a := by
  refine lasts (P := fun s => s.Leads i k a ∨ s.Answered i k a ∧ s.Spent a) ?_ hmn (.inl h)
  rintro s ev s' hc turn (h | ⟨answered, spent⟩)
  · exact turn.leads_kept hc h
  · exact .inr ⟨turn.answered_kept hc answered, turn.spent_kept spent⟩

/-- Whoever waits for an attempt waits until it has ended with its outcome. -/
theorem waits_or_answered (hmn : m ≤ n) (h : (r.scene m).Stands i k (.waits a)) :
    (r.scene n).Stands i k (.waits a) ∨ (r.scene n).Answered i k a := by
  refine lasts (P := fun s => s.Stands i k (.waits a) ∨ s.Answered i k a) ?_ hmn (.inl h)
  rintro s ev s' hc turn (h | answered)
  · exact turn.waits_kept h
  · exact .inr (turn.answered_kept hc answered)

/-! ## Attempts and their leaders -/

/-- An attempt has one leader, of one key, however far apart the moments are. -/
theorem leader_of_attempt (hi : (r.scene m).Leads i k a) (hj : (r.scene n).Leads j l a) :
    i = j ∧ k = l := by
  have forward : ∀ {m n i j k l}, m ≤ n → (r.scene m).Leads i k a → (r.scene n).Leads j l a →
      i = j ∧ k = l := by
    intro m n i j k l hmn hi hj
    rcases leads_or_answered hmn hi with h | ⟨-, spent⟩
    · obtain rfl := (r.coordinated n).sole h hj
      exact ⟨rfl, h.key_eq hj⟩
    · exact absurd hj (spent.2 j l)
  rcases Nat.le_total m n with hmn | hnm
  · exact forward hmn hi hj
  · obtain ⟨rfl, rfl⟩ := forward hnm hj hi
    exact ⟨rfl, rfl⟩

/-- A call joins an attempt while its own key is taken by it. -/
theorem waits_joined (h : (r.scene n).Stands i k (.waits a)) :
    ∃ m < n, (∃ p, (r.scene m).calls[i]? = some ⟨k, p⟩) ∧
      (r.scene m).shared.inFlight.get? k = some a := by
  induction n with
  | zero =>
    obtain ⟨p, hp, -⟩ := h
    simp [scene, Scene.initial] at hp
  | succ n ih =>
    rcases (r.turn n).stands_from h with h | (h | ⟨o, h⟩) | ⟨y, hy, passage⟩
    · obtain ⟨m, hm, joined⟩ := ih h
      exact ⟨m, Nat.lt_succ_of_lt hm, joined⟩
    · cases h
    · cases h
    · generalize (r.scene (n + 1)).shared = t at passage
      cases passage with
      | stays =>
        obtain ⟨m, hm, joined⟩ := ih hy
        exact ⟨m, Nat.lt_succ_of_lt hm, joined⟩
      | joins taken =>
        obtain ⟨p, hp, -⟩ := hy
        exact ⟨n, Nat.lt_succ_self n, ⟨p, hp⟩, taken⟩

/-- Whoever waits has a leader, which took the key before. -/
theorem waits_leader (h : (r.scene n).Stands i k (.waits a)) :
    ∃ m < n, ∃ j, (r.scene m).Leads j k a := by
  obtain ⟨m, hm, -, taken⟩ := waits_joined h
  obtain ⟨j, hj⟩ := (r.coordinated m).holder taken
  exact ⟨m, hm, j, hj⟩

/-- When an outcome is published, the leader of its attempt holds it, or has ended with it. -/
theorem leader_of_outcome (hmn : m ≤ n) (h : (r.scene m).Leads j k a)
    (outcome : (r.scene n).shared.outcomes[a]? = some (some o)) :
    (r.scene n).Stands j k (.published a o) ∨ (r.scene n).Stands j k (.ended o) := by
  rcases leads_or_answered hmn h with leads | ⟨⟨o', ended, outcome'⟩, -⟩
  · rcases Scene.leads_iff.1 leads with hx | ⟨o', hx⟩
    · have unpublished := (r.coordinated n).unpublished hx
      rw [outcome] at unpublished
      cases unpublished
    · have published := (r.coordinated n).published hx
      rw [outcome] at published
      cases published
      exact .inl hx
  · rw [outcome] at outcome'
    cases outcome'
    exact .inr ended

/-- A call that has ended after it led or waited for an attempt has ended with its outcome. -/
theorem ended_answered (h : (r.scene m).Stands i k (.waits a) ∨ (r.scene m).Leads i k a)
    (ended : (r.scene n).Stands i l (.ended o)) :
    m < n ∧ l = k ∧ (r.scene n).shared.outcomes[a]? = some (some o) := by
  have hmn : m < n := by
    refine Nat.lt_of_not_le fun hnm => ?_
    have early := Interleaving.ended hnm ended
    rcases h with waits | leads
    · cases (waits.unique early).2
    · exact leads.not_ended early
  have answered : (r.scene n).Answered i k a := by
    rcases h with waits | leads
    · rcases waits_or_answered (Nat.le_of_lt hmn) waits with waits | answered
      · cases (waits.unique ended).2
      · exact answered
    · rcases leads_or_answered (Nat.le_of_lt hmn) leads with leads | ⟨answered, -⟩
      · exact absurd ended leads.not_ended
      · exact answered
  obtain ⟨o', ended', outcome⟩ := answered
  obtain ⟨hk, ho⟩ := ended.unique ended'
  cases ho
  exact ⟨hmn, hk, outcome⟩

end Interleaving

/-! ## From the exchange to the callers -/

/-- What a leader publishes, once it has come to that. -/
def Phase.settled? : Phase → Option Outcome
  | .publishing _ o | .releasing _ o | .finished o => some o
  | _ => none

/-- A call that has its outcome keeps it. -/
theorem Move.settled_kept {key : Key} {env : Surroundings} {u v : Shared} {p q : Phase}
    (h : Move e key env u p v q) (hp : p.settled? = some o) : q.settled? = some o := by
  cases h with
  | publishes | releases => exact hp
  | _ => cases hp

/-- Between two moments, a leader passes the client of its exchange to the store, and the store
takes it. -/
def Interleaving.SavedBetween (r : Interleaving) (m n j : Nat) (k : Key) (a : Nat) (g : GrantType)
    (c : AuthorizedClient) : Prop :=
  ∃ q, m ≤ q ∧ q < n ∧ (r.scene q).calls[j]? = some ⟨k, .saving a g c⟩ ∧
    (r.scene (q + 1)).shared.store = (r.scene q).shared.store.save c

/-- A client saved within a time is saved within a longer one. -/
theorem Interleaving.SavedBetween.succ {g : GrantType} {c : AuthorizedClient}
    (h : r.SavedBetween m n j k a g c) : r.SavedBetween m (n + 1) j k a g c := by
  obtain ⟨q, hm, hn, saving, saved⟩ := h
  exact ⟨q, hm, Nat.lt_succ_of_lt hn, saving, saved⟩

/-- A leader whose exchange has got a client settles on that client only by saving it. -/
theorem Interleaving.saves_before_settling {g : GrantType} {c : AuthorizedClient} (hmn : m ≤ n)
    (h : (r.scene m).calls[j]? = some ⟨k, .saving a g c⟩) :
    (r.scene n).calls[j]? = some ⟨k, .saving a g c⟩ ∨
      ∃ p o, (r.scene n).calls[j]? = some ⟨k, p⟩ ∧ p.settled? = some o ∧
        ∀ c', o = .ok c' → c' = c ∧ r.SavedBetween m n j k a g c := by
  induction hmn with
  | refl => exact .inl h
  | @step n hmn ih =>
    rcases ih with saving | ⟨p, o, hp, settled, saved⟩
    · rcases (r.turn n).call_cases saving with h | ⟨env, q, -, move, hq⟩
      · exact .inl h
      · right
        generalize ht : (r.scene (n + 1)).shared = t at move
        cases move with
        | saveFails =>
          refine ⟨_, _, hq, rfl, ?_⟩
          intro c' hc
          cases hc
        | saves =>
          refine ⟨_, _, hq, rfl, ?_⟩
          intro c' hc
          cases hc
          exact ⟨rfl, n, hmn, Nat.lt_succ_self n, saving, by rw [ht]⟩
    · right
      rcases (r.turn n).call_cases hp with h | ⟨env, q, -, move, hq⟩
      · exact ⟨p, o, h, settled, fun c' hc => ⟨(saved c' hc).1, (saved c' hc).2.succ⟩⟩
      · exact ⟨q, o, hq, move.settled_kept settled,
          fun c' hc => ⟨(saved c' hc).1, (saved c' hc).2.succ⟩⟩

/-! ## Waiting calls -/

/-- A call waits for an attempt or leads it. -/
def Scene.TakesPart (s : Scene) (i : Nat) (k : Key) (a : Nat) : Prop :=
  s.calls[i]? = some ⟨k, .waiting a⟩ ∨ s.Leads i k a

/-- Calls that have begun are not forgotten. -/
theorem Interleaving.begun (hmn : m ≤ n) : (r.scene m).calls.length ≤ (r.scene n).calls.length :=
  lasts (P := fun s => (r.scene m).calls.length ≤ s.calls.length)
    (fun _ turn h => Nat.le_trans h turn.begun_kept) hmn (Nat.le_refl _)

/-- What an exchange has got is saved before any call that takes part in the attempt is given it. -/
theorem Interleaving.saves_before_answering {q : Nat} {g : GrantType} {c c' : AuthorizedClient}
    (exchanged : (r.scene m).calls[j]? = some ⟨k, .saving a g c⟩)
    (part : (r.scene q).TakesPart i l a)
    (given : (r.scene n).calls[i]? = some ⟨l, .finished (.ok c')⟩) :
    c' = c ∧ r.SavedBetween m n j k a g c := by
  have leads : (r.scene m).Leads j k a := ⟨_, exchanged, rfl⟩
  obtain ⟨-, -, outcome⟩ :=
    ended_answered (part.imp_left Scene.stands_waits_iff.2) (Scene.stands_ended_iff.2 given)
  have hmn : m ≤ n := by
    -- nothing is published before the exchange has ended
    refine Nat.le_of_not_lt fun hnm => ?_
    have early := Interleaving.outcome (Nat.le_of_lt hnm) outcome
    rw [(r.coordinated m).unpublished ⟨_, exchanged, rfl⟩] at early
    cases early
  have settled : ∃ p, (r.scene n).calls[j]? = some ⟨k, p⟩ ∧ p.settled? = some (.ok c') := by
    rcases leader_of_outcome hmn leads outcome with hj | hj
    · exact ⟨_, Scene.stands_published_iff.1 hj, rfl⟩
    · exact ⟨_, Scene.stands_ended_iff.1 hj, rfl⟩
  obtain ⟨p, hp, ho⟩ := settled
  rcases saves_before_settling hmn exchanged with saving | ⟨p', o, hp', ho', saved⟩
  · rw [hp] at saving
    cases saving
    cases ho
  · rw [hp] at hp'
    cases hp'
    rw [ho] at ho'
    cases ho'
    exact saved c' rfl

namespace Interleaving

/-- Two calls that have taken part in an attempt, as its leader or waiting for it, end alike. -/
theorem ended_alike {q q' : Nat} {o' : Outcome} (part : (r.scene m).TakesPart i k a)
    (part' : (r.scene n).TakesPart j l a) (ended : (r.scene q).calls[i]? = some ⟨k, .finished o⟩)
    (ended' : (r.scene q').calls[j]? = some ⟨l, .finished o'⟩) : o' = o := by
  obtain ⟨-, -, outcome⟩ :=
    ended_answered (part.imp_left Scene.stands_waits_iff.2) (Scene.stands_ended_iff.2 ended)
  obtain ⟨-, -, outcome'⟩ :=
    ended_answered (part'.imp_left Scene.stands_waits_iff.2) (Scene.stands_ended_iff.2 ended')
  -- both are the outcome of the attempt at the later of the two moments
  have late := Interleaving.outcome (Nat.le_max_left q q') outcome
  rw [Interleaving.outcome (Nat.le_max_right q q') outcome'] at late
  cases late
  rfl

/-- Whoever waits has one leader, which has published the outcome that it ends with. -/
theorem leader_of_waiting (waiting : (r.scene n).calls[i]? = some ⟨k, .waiting a⟩) :
    ∃ j, (∃ m < n, (r.scene m).Leads j k a) ∧
      (∀ m j' l, (r.scene m).Leads j' l a → j' = j ∧ l = k) ∧
      ∀ (q : Nat) (o : Outcome), (r.scene q).calls[i]? = some ⟨k, .finished o⟩ →
        ((r.scene q).calls[j]? = some ⟨k, .releasing a o⟩ ∨
          (r.scene q).calls[j]? = some ⟨k, .finished o⟩) ∧
        ∀ (q' : Nat) (o' : Outcome), (r.scene q').calls[j]? = some ⟨k, .finished o'⟩ → o' = o := by
  have waits := Scene.stands_waits_iff.2 waiting
  obtain ⟨m, hm, j, hj⟩ := waits_leader waits
  refine ⟨j, ⟨m, hm, hj⟩, fun m' j' l hj' => leader_of_attempt hj' hj, fun q o hq => ⟨?_, ?_⟩⟩
  · obtain ⟨hnq, -, outcome⟩ := ended_answered (.inl waits) (Scene.stands_ended_iff.2 hq)
    exact (leader_of_outcome (by omega) hj outcome).imp Scene.stands_published_iff.1
      Scene.stands_ended_iff.1
  · exact fun q' o' hq' => ended_alike (.inl waiting) (.inr hj) hq hq'

/-- An attempt that is not in flight any more is not joined by a call that begins later. -/
theorem not_waiting_of_gone (made : a < (r.scene m).shared.outcomes.length)
    (gone : ∀ k, (r.scene m).shared.inFlight.get? k ≠ some a)
    (late : (r.scene m).calls.length ≤ i) : (r.scene n).calls[i]? ≠ some ⟨k, .waiting a⟩ := by
  intro waiting
  obtain ⟨q, -, ⟨p, begun⟩, taken⟩ := waits_joined (Scene.stands_waits_iff.2 waiting)
  have spent : (r.scene m).Spent a := ⟨made, fun j l hj => gone l ((r.coordinated m).entry hj)⟩
  have hmq : m ≤ q := by
    refine Nat.le_of_not_lt fun hqm => ?_
    have hi := (List.getElem?_eq_some_iff.1 begun).1
    have := r.begun (Nat.le_of_lt hqm)
    omega
  obtain ⟨j, hj⟩ := (r.coordinated q).holder taken
  exact (Interleaving.spent hmq spent).2 j k hj

/-- A call that leads an attempt and has not published its outcome has a next step. -/
theorem step_isSome_of_leads {p : Phase} (leads : p.standing = .leads a) (env : Surroundings)
    (s : Shared) : (r.engine.step k env s p).isSome := by
  have running : p.outcome? = none := by cases p <;> first | rfl | cases leads
  refine step_isSome r.engine k env s running ?_
  rintro b rfl
  cases leads

/-- While a call waits, the outcome is published, or a leader is on its way to it. -/
theorem published_or_led (waiting : (r.scene n).calls[i]? = some ⟨k, .waiting a⟩) :
    (∃ o, (r.scene n).shared.outcomes[a]? = some (some o)) ∨
      (r.scene n).shared.outcomes[a]? = some none ∧
        ∃ (j : Nat) (p : Phase), (r.scene n).calls[j]? = some ⟨k, p⟩ ∧ p.standing = .leads a ∧
          ∀ env, (r.engine.step k env (r.scene n).shared p).isSome := by
  obtain ⟨m, hm, j, hj⟩ := waits_leader (Scene.stands_waits_iff.2 waiting)
  rcases leads_or_answered (Nat.le_of_lt hm) hj with h | ⟨⟨o, -, outcome⟩, -⟩
  · rcases Scene.leads_iff.1 h with hx | ⟨o, hx⟩
    · have unpublished := (r.coordinated n).unpublished hx
      obtain ⟨p, hp, hx⟩ := hx
      exact .inr ⟨unpublished, j, p, hp, hx, fun env => step_isSome_of_leads hx env _⟩
    · exact .inl ⟨o, (r.coordinated n).published hx⟩
  · exact .inl ⟨o, outcome⟩

end Interleaving

/-- **Waiting calls share the outcome of an overlapping attempt.** In every interleaving, whatever
store and exchanges answer:

* an attempt that a call waits for has one leader ever, which is for the same key and led before;
  when the waiting call has ended, the leader has published the same outcome and ends with no other;
* a call that waits has begun before a moment at which the attempt was in flight for its key, and an
  attempt that is in flight no more is never joined by a call that begins later;
* if the exchange of an attempt has got a client, no call that leads or waits for the attempt is
  given a client before the store has taken that one, and then it is given that one;
* at every moment the outcome of an attempt that is waited for is published, or the attempt is led
  by a call that has not published yet and that has a next step. -/
theorem waiters_share_outcome (r : Interleaving) :
    (∀ (n i : Nat) (k : Key) (a : Nat), (r.scene n).calls[i]? = some ⟨k, .waiting a⟩ →
      ∃ j, (∃ m < n, (r.scene m).Leads j k a) ∧
        (∀ m j' l, (r.scene m).Leads j' l a → j' = j ∧ l = k) ∧
        ∀ (q : Nat) (o : Outcome), (r.scene q).calls[i]? = some ⟨k, .finished o⟩ →
          ((r.scene q).calls[j]? = some ⟨k, .releasing a o⟩ ∨
            (r.scene q).calls[j]? = some ⟨k, .finished o⟩) ∧
          ∀ (q' : Nat) (o' : Outcome), (r.scene q').calls[j]? = some ⟨k, .finished o'⟩ → o' = o) ∧
      (∀ (n i : Nat) (k : Key) (a : Nat), (r.scene n).calls[i]? = some ⟨k, .waiting a⟩ →
        ∃ m < n, (∃ p, (r.scene m).calls[i]? = some ⟨k, p⟩) ∧
          (r.scene m).shared.inFlight.get? k = some a) ∧
      (∀ m a, a < (r.scene m).shared.outcomes.length →
        (∀ k, (r.scene m).shared.inFlight.get? k ≠ some a) →
        ∀ (n i : Nat) (k : Key), (r.scene m).calls.length ≤ i →
          (r.scene n).calls[i]? ≠ some ⟨k, .waiting a⟩) ∧
      (∀ (m j : Nat) (k : Key) (a : Nat) (g : GrantType) (c : AuthorizedClient),
        (r.scene m).calls[j]? = some ⟨k, .saving a g c⟩ →
        ∀ (q n i : Nat) (l : Key) (c' : AuthorizedClient), (r.scene q).TakesPart i l a →
          (r.scene n).calls[i]? = some ⟨l, .finished (.ok c')⟩ →
          c' = c ∧ r.SavedBetween m n j k a g c) ∧
      ∀ (n i : Nat) (k : Key) (a : Nat), (r.scene n).calls[i]? = some ⟨k, .waiting a⟩ →
        (∃ o, (r.scene n).shared.outcomes[a]? = some (some o)) ∨
          (r.scene n).shared.outcomes[a]? = some none ∧
            ∃ (j : Nat) (p : Phase), (r.scene n).calls[j]? = some ⟨k, p⟩ ∧ p.standing = .leads a ∧
              ∀ env, (r.engine.step k env (r.scene n).shared p).isSome := by
  refine ⟨fun n i k a waiting => Interleaving.leader_of_waiting waiting, fun n i k a waiting => ?_,
    fun m a made gone n i k late => Interleaving.not_waiting_of_gone made gone late, ?_,
    fun n i k a waiting => Interleaving.published_or_led waiting⟩
  · exact Interleaving.waits_joined (Scene.stands_waits_iff.2 waiting)
  · intro m j k a g c exchanged q n i l c' part given
    exact Interleaving.saves_before_answering exchanged part given

end Engine

end TokenBroker
