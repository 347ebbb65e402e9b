import TokenBroker.Proofs.Engine.Alike
import TokenBroker.Proofs.Interleaving.Sharing
import TokenBroker.Proofs.Interleaving.Writes

/-!
# The part of an interleaving that is for one key

`Interleaving.only` leaves the calls for one key and what others do to the key's entry; whatever is
for another key is left out, and the clock moves as it did. A call for the key has another index
then, and an attempt another number, but the smaller interleaving shows of the key all that the
whole one does (`Shows`): the entry, the attempt in flight, and every call for the key in the phase
in which it is, with what it has sent and got. One event keeps this (`Shows.after`), so it holds at
every moment (`Interleaving.shows_only`).
-/

namespace TokenBroker

namespace Engine

variable {e : Engine} {s t s' t' : Scene} {u v w : Shared} {k l : Key} {f g : Nat → Nat}
  {p q : Phase} {env : Surroundings} {i n : Nat}

/-! ## Leaving out what is for other keys -/

/-- The number of calls for a key among the first `i` calls. -/
def Scene.indexFor (s : Scene) (k : Key) (i : Nat) : Nat := (s.calls.take i).countP (·.key = k)

/-- The key that an event is for. -/
def Event.key? (s : Scene) : Event → Option Key
  | .begin l | .evict l => some l
  | .step i _ => s.calls[i]?.map (·.key)
  | .save c => some c.key
  | .tick _ | .pause => none

/-- What an event is where there are calls for one key only: the same with another index if it is
for the key, and nothing if it is for another one. -/
def Event.restrict (k : Key) (s : Scene) : Event → Event
  | .begin l => if l = k then .begin l else .pause
  | .step i env => if s.calls[i]?.map (·.key) = some k then .step (s.indexFor k i) env else .pause
  | .evict l => if l = k then .evict l else .pause
  | .save c => if c.key = k then .save c else .pause
  | .tick now => .tick now
  | .pause => .pause

/-- The interleaving without the events that are for other keys. -/
def Interleaving.only (r : Interleaving) (k : Key) : Interleaving where
  engine := r.engine
  clock := r.clock
  store := r.store
  event n := (r.event n).restrict k (r.scene n)

/-- A call with other numbers for attempts. -/
def Call.renumber (f : Nat → Nat) (c : Call) : Call := ⟨c.key, c.phase.renumber f⟩

/-- A scene shows of a key what another one does: attempt `a` of the smaller one is attempt `f
a`. -/
structure Shows (k : Key) (f : Nat → Nat) (s t : Scene) : Prop where
  clock : t.clock = s.clock
  alike : Alike k f s.shared t.shared
  calls : s.calls.filter (·.key = k) = t.calls.map (Call.renumber f)
  known : ∀ c ∈ t.calls, c.phase.Knows t.shared
  /-- No call for another key leads an attempt for this one. -/
  apart : ∀ c ∈ s.calls, c.key ≠ k → ∀ a < t.shared.outcomes.length, c.phase.leads? ≠ some (f a)

/-! ## Places in a filtered list -/

section

variable {α : Type} {x y : α} {P : α → Bool} {xs : List α} {i : Nat}

/-- What is left of a list in which one element is put in the place of another. -/
theorem filter_set (at_i : xs[i]? = some x) (y : α) :
    (xs.set i y).filter P =
      (xs.take i).filter P ++ ([y].filter P ++ (xs.drop (i + 1)).filter P) := by
  obtain ⟨h, -⟩ := List.getElem?_eq_some_iff.1 at_i
  rw [List.set_eq_take_append_cons_drop, if_pos h, List.filter_append, ← List.singleton_append,
    List.filter_append]

theorem filter_of_getElem? (at_i : xs[i]? = some x) :
    xs.filter P = (xs.take i).filter P ++ ([x].filter P ++ (xs.drop (i + 1)).filter P) := by
  obtain ⟨h, rfl⟩ := List.getElem?_eq_some_iff.1 at_i
  rw [← filter_set at_i, List.set_getElem_self]

/-- An element that passes comes after those before it that pass. -/
theorem getElem?_filter_countP (at_i : xs[i]? = some x) (hx : P x = true) :
    (xs.filter P)[(xs.take i).countP P]? = some x := by
  rw [filter_of_getElem? at_i, List.countP_eq_length_filter,
    List.getElem?_append_right (Nat.le_refl _)]
  simp [hx]

/-- A change of an element that passes is a change in its place among those that pass. -/
theorem filter_set_countP (at_i : xs[i]? = some x) (hx : P x = true) (hy : P y = true) :
    (xs.set i y).filter P = (xs.filter P).set ((xs.take i).countP P) y := by
  rw [filter_set at_i, filter_of_getElem? at_i, List.countP_eq_length_filter,
    List.set_append_right _ _ (Nat.le_refl _)]
  simp [hx, hy]

/-- A change of an element that does not pass is not seen among those that pass. -/
theorem filter_set_of_not (at_i : xs[i]? = some x) (hx : P x = false) (hy : P y = false) :
    (xs.set i y).filter P = xs.filter P := by
  rw [filter_set at_i, filter_of_getElem? at_i]
  simp [hx, hy]

end

/-! ## Steps of calls for other keys -/

/-- A step of a call for another key makes no difference. -/
theorem Alike.foreign (h : Alike k f u w) (move : Move e l env u p v q) (own : p.BelongsTo e l)
    (hl : k ≠ l) (apart : ∀ a < w.outcomes.length, p.leads? ≠ some (f a)) : Alike k f v w := by
  refine ⟨?_, ?_, ?_, h.made, ?_, h.injective⟩
  · rw [move.entry_of_ne own hl, h.entry]
  · rw [move.kind, h.kind]
  · have passage := move.passage
    generalize p.standing = x at passage
    generalize q.standing = y at passage
    cases passage with
    | stays inFlight => rw [inFlight]; exact h.taken
    | ends | joins | hears | publishes => exact h.taken
    | takes =>
      show (u.inFlight.put l _).get? k = _
      rw [Table.get?_put_of_ne hl, h.taken]
    | givesBack =>
      show (u.inFlight.erase l).get? k = _
      rw [Table.get?_erase_of_ne hl, h.taken]
  · intro a ha
    -- outcomes are published by leaders only, and the call leads no attempt for the key
    have passage := move.passage
    rw [← h.outcome a ha]
    have other := apart a ha
    rw [← holds?_standing] at other
    generalize p.standing = x at passage other
    generalize q.standing = y at passage
    cases passage with
    | stays _ outcomes => rw [outcomes]
    | ends | joins | hears | givesBack => rfl
    | takes => exact List.getElem?_append_left (h.lt_length ha)
    | @publishes b o =>
      have hb : b ≠ f a := fun same => other (by rw [← same]; rfl)
      exact List.getElem?_set_ne hb

namespace Shows

/-- The scenes of an engine that has not been called yet. -/
theorem initial (k : Key) (clock : DateTime) (store : Store) :
    Shows k id (.initial clock store) (.initial clock store) where
  clock := rfl
  alike := .of_earlier (fun a ha => by cases ha) ⟨fun _ => rfl, rfl⟩ rfl List.prefix_rfl
  calls := rfl
  known _ hc := absurd hc (List.not_mem_nil)
  apart _ hc := absurd hc (List.not_mem_nil)

/-- Calls of the smaller scene are for the key. -/
theorem key_eq (h : Shows k f s t) {c : Call} (hc : c ∈ t.calls) : c.key = k := by
  have shown : c.renumber f ∈ s.calls.filter (·.key = k) := by
    rw [h.calls]
    exact List.mem_map_of_mem hc
  exact of_decide_eq_true (List.mem_filter.1 shown).2

/-- A call for the key has its place in the smaller scene. -/
theorem call (h : Shows k f s t) (at_i : s.calls[i]? = some ⟨k, p⟩) :
    ∃ q, t.calls[s.indexFor k i]? = some ⟨k, q⟩ ∧ p = q.renumber f := by
  have shown := getElem?_filter_countP (P := fun c : Call => c.key = k) at_i (by simp)
  rw [h.calls, List.getElem?_map] at shown
  obtain ⟨c, at_c, same⟩ := Option.map_eq_some_iff.1 shown
  obtain ⟨key, q⟩ := c
  cases same
  exact ⟨q, at_c, rfl⟩

/-- What is done to the stores, they show. -/
theorem stores (h : Shows k f s t) {u v : Store} (entry : v.entry k = u.entry k)
    (kind : v.kind = u.kind) :
    Shows k f { s with shared := { s.shared with store := u } }
      { t with shared := { t.shared with store := v } } :=
  ⟨h.clock, h.alike.stores entry kind, h.calls, h.known, h.apart⟩

/-- A call of the key begins in both scenes. -/
theorem begins (h : Shows k f s t) :
    Shows k f { s with calls := s.calls ++ [⟨k, e.start k⟩] }
      { t with calls := t.calls ++ [⟨k, e.start k⟩] } where
  clock := h.clock
  alike := h.alike
  calls := by
    rw [List.filter_append, h.calls, List.map_append]
    simp [Call.renumber, start_renumber]
  known c hc := by
    rcases List.mem_append.1 hc with hc | hc
    · exact h.known c hc
    · rw [List.mem_singleton] at hc
      intro a ha
      rw [hc, attempt?_start] at ha
      cases ha
  apart c hc hk := by
    rcases List.mem_append.1 hc with hc | hc
    · exact h.apart c hc hk
    · rw [List.mem_singleton] at hc
      exact absurd (by rw [hc]) hk

/-- A call of another key begins in one scene only. -/
theorem foreign_begins (h : Shows k f s t) (hl : l ≠ k) :
    Shows k f { s with calls := s.calls ++ [⟨l, e.start l⟩] } t where
  clock := h.clock
  alike := h.alike
  calls := by
    rw [List.filter_append, h.calls]
    simp [hl]
  known := h.known
  apart c hc hk a ha := by
    rcases List.mem_append.1 hc with hc | hc
    · exact h.apart c hc hk a ha
    · rw [List.mem_singleton] at hc
      rw [hc, ← holds?_standing]
      rcases standing_start e l with hs | ⟨o, hs⟩ <;> rw [hs] <;> exact nofun

/-- A step of a call of another key leaves the projection as it is. -/
theorem foreign_moves (h : Shows k f s t) (at_i : s.calls[i]? = some ⟨l, p⟩) (hl : l ≠ k)
    (own : p.BelongsTo e l) (move : Move e l env s.shared p v q) :
    Shows k f { s with shared := v, calls := s.calls.set i ⟨l, q⟩ } t where
  clock := h.clock
  alike := h.alike.foreign move own (Ne.symm hl) fun a ha =>
    h.apart _ (List.mem_of_getElem? at_i) hl a ha
  calls := by
    rw [← h.calls]
    exact filter_set_of_not at_i (by simp [hl]) (by simp [hl])
  known := h.known
  apart c hc hk a ha leads := by
    rcases List.mem_or_eq_of_mem_set hc with hc | rfl
    · exact h.apart c hc hk a ha leads
    · rcases move.leads_from leads with before | new
      · exact h.apart _ (List.mem_of_getElem? at_i) hl a ha before
      · exact Nat.ne_of_lt (h.alike.lt_length ha) new

/-- A step that both take. -/
theorem moves (h : Shows k f s t) (hc : Coordinated s) (at_i : s.calls[i]? = some ⟨k, p.renumber f⟩)
    {x y : Step} (same : SameStep k (extend f s.shared t.shared) x y)
    (move : Move e k env t.shared p y.shared y.phase) :
    Shows k (extend f s.shared t.shared)
      { s with shared := x.shared, calls := s.calls.set i ⟨k, x.phase⟩ }
      { t with shared := y.shared, calls := t.calls.set (s.indexFor k i) ⟨k, y.phase⟩ } where
  clock := h.clock
  alike := same.alike
  calls := by
    -- a new attempt gets numbers of its own, which no other call knows yet
    have others : t.calls.map (Call.renumber f) =
        t.calls.map (Call.renumber (extend f s.shared t.shared)) := by
      refine List.map_congr_left fun c hc => ?_
      unfold Call.renumber
      rw [Phase.renumber_congr fun a ha => (extend_of_lt (h.known c hc a ha)).symm]
    show (s.calls.set i ⟨k, x.phase⟩).filter (·.key = k) = _
    rw [filter_set_countP at_i (by simp) (by simp), h.calls, others, List.map_set, same.phase]
    rfl
  known c hc := by
    rcases List.mem_or_eq_of_mem_set hc with hc | rfl
    · exact fun a ha => Nat.lt_of_lt_of_le (h.known c hc a ha) move.attempts_kept
    · exact same.knows
  apart c hmem hk a ha leads := by
    rcases List.mem_or_eq_of_mem_set hmem with hmem | rfl
    · by_cases new : a = t.shared.outcomes.length
      · -- the call for the other key leads an attempt that has been made before
        obtain ⟨j, hj⟩ := List.mem_iff_getElem?.1 hmem
        have led : s.Leads j c.key (extend f s.shared t.shared a) := ⟨c.phase, hj, leads⟩
        have old := hc.attempt_lt led
        rw [new, extend_self] at old
        exact Nat.lt_irrefl _ old
      · have before : a < t.shared.outcomes.length := by
          have := Nat.lt_of_lt_of_le ha move.attempts_le
          omega
        rw [extend_of_lt before] at leads
        exact h.apart c hmem hk a before leads
    · exact absurd rfl hk

/-- An entry that is removed is removed in both scenes if it is that of the key; else it goes
unnoticed. -/
theorem evicts (h : Shows k f s t) (l : Key) :
    Shows k f (s.after e (.evict l)) (t.after e ((Event.evict l).restrict k s)) := by
  by_cases hl : l = k
  · subst hl
    simp only [Event.restrict, if_true]
    refine h.stores ?_ ?_
    · rw [Store.entry_remove_self, Store.entry_remove_self]
    · rw [Store.kind_remove, Store.kind_remove, h.alike.kind]
  · simp only [Event.restrict, if_neg hl]
    refine h.stores ?_ ?_
    · rw [Store.entry_remove_of_ne (Ne.symm hl), h.alike.entry]
    · rw [Store.kind_remove, h.alike.kind]

/-- A client that is saved is saved in both scenes if it is for the key; else it goes unnoticed. -/
theorem saves (h : Shows k f s t) (c : AuthorizedClient) :
    Shows k f (s.after e (.save c)) (t.after e ((Event.save c).restrict k s)) := by
  by_cases hl : c.key = k
  · subst hl
    simp only [Event.restrict, if_true]
    refine h.stores ?_ ?_
    · rw [Store.entry_save_self, Store.entry_save_self, h.alike.kind]
    · rw [Store.kind_save, Store.kind_save, h.alike.kind]
  · simp only [Event.restrict, if_neg hl]
    refine h.stores ?_ ?_
    · rw [Store.entry_save_of_ne (Ne.symm hl), h.alike.entry]
    · rw [Store.kind_save, h.alike.kind]

/-- A step of a call for the key is taken in both scenes; one of another call goes unnoticed. -/
theorem steps (h : Shows k f s t) (hc : Coordinated s)
    (own : ∀ {i : Nat} {l : Key} {p : Phase}, s.calls[i]? = some ⟨l, p⟩ → p.BelongsTo e l)
    (i : Nat) (env : Surroundings) :
    ∃ g, Shows k g (s.after e (.step i env)) (t.after e ((Event.step i env).restrict k s)) := by
  cases at_i : s.calls[i]? with
  | none =>
    refine ⟨f, ?_⟩
    simp only [Event.restrict, Scene.after, at_i]
    exact h
  | some c =>
    obtain ⟨l, p⟩ := c
    by_cases hl : l = k
    · subst hl
      obtain ⟨q, at_t, rfl⟩ := h.call at_i
      have known : q.Knows t.shared := h.known _ (List.mem_of_getElem? at_t)
      have both := step_alike_cases e { env with now := s.clock } h.alike known
      obtain ⟨clock, shared, calls⟩ := t
      obtain rfl : clock = s.clock := h.clock
      simp only at at_t known both
      simp only [Event.restrict, Scene.after, at_i, Option.map_some, if_true, at_t]
      rcases both with ⟨hs, ht⟩ | ⟨x, y, hs, ht, same⟩
      · rw [hs, ht]
        exact ⟨f, h⟩
      · rw [hs, ht]
        exact ⟨_, h.moves hc at_i same (move_of_step ht)⟩
    · refine ⟨f, ?_⟩
      simp only [Event.restrict, Scene.after, at_i, Option.map_some, Option.some.injEq, if_neg hl]
      cases hs : e.step l { env with now := s.clock } s.shared p with
      | none => exact h
      | some x => exact h.foreign_moves at_i hl (own at_i) (move_of_step hs)

/-- One event: what is for another key goes unnoticed, and everything else is shown. -/
theorem after (h : Shows k f s t) (hc : Coordinated s)
    (own : ∀ {i : Nat} {l : Key} {p : Phase}, s.calls[i]? = some ⟨l, p⟩ → p.BelongsTo e l)
    (ev : Event) :
    ∃ g, Shows k g (s.after e ev) (t.after e (ev.restrict k s)) := by
  cases ev with
  | pause => exact ⟨f, h⟩
  | tick now => exact ⟨f, rfl, h.alike, h.calls, h.known, h.apart⟩
  | begin l =>
    by_cases hl : l = k
    · subst hl
      simp only [Event.restrict, if_true]
      exact ⟨f, h.begins⟩
    · simp only [Event.restrict, if_neg hl]
      exact ⟨f, h.foreign_begins hl⟩
  | evict l => exact ⟨f, h.evicts l⟩
  | save c => exact ⟨f, h.saves c⟩
  | step i env => exact h.steps hc own i env

end Shows

/-- What is for one key is the same at every moment, whether the calls for other keys are made or
not. -/
theorem Interleaving.shows_only (r : Interleaving) (k : Key) (n : Nat) :
    ∃ f, Shows k f (r.scene n) ((r.only k).scene n) := by
  induction n with
  | zero => exact ⟨id, .initial k r.clock r.store⟩
  | succ n ih =>
    obtain ⟨f, h⟩ := ih
    exact h.after (r.coordinated n) r.belongsTo (r.event n)

end Engine

end TokenBroker
