import TokenBroker.Proofs.Engine.Standing

/-!
# Calls side by side

Any number of calls of `resolve` on one engine, in any order of their steps. A `Scene` is what there
is at one moment: the reading of the clock, what the calls share, and every call so far. An `Event`
is what happens next: a call begins, a call takes one step, somebody removes or saves a client
behind the calls' backs, or the clock moves. What a step finds in its surroundings (faults of the
store, replies, responses) is part of the event and may be anything; only the time that it reads is
the scene's.

An `Interleaving` fixes the start and all events, and `Interleaving.scene` gives the scene after the
first `n` of them: what holds of it for every interleaving and every `n` holds in every reachable
state. `Turn` lists what one event can do to a scene (`turn_after`).
-/

namespace TokenBroker

namespace Engine

/-- A call of `resolve`: the key that it is for, and where it stands. -/
structure Call where
  key : Key
  phase : Phase

/-- What there is at one moment: the clock, what the calls share, and the calls in the order in
which they began. -/
structure Scene where
  clock : DateTime
  shared : Shared
  calls : List Call := []

/-- What happens next. -/
inductive Event
  /-- A call begins. -/
  | begin (key : Key)
  /-- A call takes its next step, if it has one. -/
  | step (call : Nat) (env : Surroundings)
  /-- Somebody removes the client of a key. -/
  | evict (key : Key)
  /-- Somebody else saves a client. -/
  | save (c : AuthorizedClient)
  /-- The clock moves. -/
  | tick (now : DateTime)
  | pause

namespace Scene

/-- The scene of an engine that has not been called yet. -/
def initial (clock : DateTime) (store : Store) : Scene := { clock, shared := { store } }

/-- The scene after an event. -/
def after (e : Engine) (s : Scene) : Event → Scene
  | .begin key => { s with calls := s.calls ++ [⟨key, e.start key⟩] }
  | .step i env =>
    match s.calls[i]? with
    | none => s
    | some c =>
      match e.step c.key { env with now := s.clock } s.shared c.phase with
      | none => s
      | some next =>
        { s with shared := next.shared, calls := s.calls.set i ⟨c.key, next.phase⟩ }
  | .evict key => { s with shared := { s.shared with store := s.shared.store.remove key } }
  | .save c => { s with shared := { s.shared with store := s.shared.store.save c } }
  | .tick now => { s with clock := now }
  | .pause => s

/-- The number of keys in flight. -/
def inFlight (s : Scene) : Nat := s.shared.inFlight.length

/-- What the store holds under a key. -/
def entry (s : Scene) (k : Key) : Option AuthorizedClient := s.shared.store.entry k

/-- A call leads an attempt for its key: it has taken the key and not yet given it back. -/
def Leads (s : Scene) (i : Nat) (k : Key) (a : Nat) : Prop :=
  ∃ p, s.calls[i]? = some ⟨k, p⟩ ∧ p.leads? = some a

/-- A call stands towards attempts in a certain way. -/
def Stands (s : Scene) (i : Nat) (k : Key) (x : Standing) : Prop :=
  ∃ p, s.calls[i]? = some ⟨k, p⟩ ∧ p.standing = x

end Scene

/-- An engine, the clock and the store that it starts with, and all that happens, in order. -/
structure Interleaving where
  engine : Engine
  clock : DateTime
  store : Store
  event : Nat → Event

/-- The scene after the first `n` events. -/
def Interleaving.scene (r : Interleaving) : Nat → Scene
  | 0 => .initial r.clock r.store
  | n + 1 => (r.scene n).after r.engine (r.event n)

variable {e : Engine} {s : Scene}

/-! ## What one event can do -/

/-- The ways in which an event changes a scene. -/
inductive Turn (e : Engine) (s : Scene) : Event → Scene → Prop
  | begins (key : Key) :
      Turn e s (.begin key) { s with calls := s.calls ++ [⟨key, e.start key⟩] }
  | moves {i env key p t q} (at_i : s.calls[i]? = some ⟨key, p⟩)
      (move : Move e key { env with now := s.clock } s.shared p t q) :
      Turn e s (.step i env) { s with shared := t, calls := s.calls.set i ⟨key, q⟩ }
  | evicts (key : Key) :
      Turn e s (.evict key)
        { s with shared := { s.shared with store := s.shared.store.remove key } }
  | saves (c : AuthorizedClient) :
      Turn e s (.save c) { s with shared := { s.shared with store := s.shared.store.save c } }
  | ticks (now : DateTime) : Turn e s (.tick now) { s with clock := now }
  /-- The call has ended, has to wait or has never begun. -/
  | waits (i : Nat) (env : Surroundings) : Turn e s (.step i env) s
  | pauses : Turn e s .pause s

/-- Whatever an event does is one of the turns a scene can take. -/
theorem turn_after (e : Engine) (s : Scene) (ev : Event) : Turn e s ev (s.after e ev) := by
  cases ev with
  | begin key => exact .begins key
  | evict key => exact .evicts key
  | save c => exact .saves c
  | tick now => exact .ticks now
  | pause => exact .pauses
  | step i env =>
    unfold Scene.after
    cases hc : s.calls[i]? with
    | none => simp only [hc]; exact .waits i env
    | some c =>
      cases hs : e.step c.key { env with now := s.clock } s.shared c.phase with
      | none => simp only [hc, hs]; exact .waits i env
      | some next => simp only [hc, hs]; exact .moves hc (move_of_step hs)

/-- An interleaving goes on by turns. -/
theorem Interleaving.turn (r : Interleaving) (n : Nat) :
    Turn r.engine (r.scene n) (r.event n) (r.scene (n + 1)) :=
  turn_after r.engine (r.scene n) (r.event n)

/-! ## The calls after an event -/

theorem getElem?_set_call {i : Nat} {c c' : Call} (at_i : s.calls[i]? = some c) (j : Nat) :
    (s.calls.set i c')[j]? = if j = i then some c' else s.calls[j]? := by
  have hi : i < s.calls.length := (List.getElem?_eq_some_iff.1 at_i).1
  rw [List.getElem?_set]
  by_cases hj : i = j
  · subst hj; simp [hi]
  · rw [if_neg hj, if_neg (Ne.symm hj)]

/-- A call that has begun keeps its index. -/
theorem getElem?_append_call {j : Nat} {c c' : Call} (h : s.calls[j]? = some c) :
    (s.calls ++ [c'])[j]? = some c := by
  rw [List.getElem?_append_left (List.getElem?_eq_some_iff.1 h).1]
  exact h

/-- The call that begins is the last one. -/
theorem getElem?_append_call_cases {j : Nat} {c c' : Call}
    (h : (s.calls ++ [c'])[j]? = some c) :
    s.calls[j]? = some c ∨ j = s.calls.length ∧ c = c' := by
  rcases Nat.lt_or_ge j s.calls.length with hj | hj
  · rw [List.getElem?_append_left hj] at h
    exact .inl h
  · rw [List.getElem?_append_right hj] at h
    obtain ⟨h0, hc⟩ := List.getElem?_eq_some_iff.1 h
    simp only [List.length_singleton, Nat.lt_one_iff] at h0
    exact .inr ⟨by omega, by simpa [h0] using hc.symm⟩

/-! ## One call through an event -/

/-- A call stays where it is unless it is the one that moves. -/
theorem Turn.call_cases {ev : Event} {s' : Scene} (turn : Turn e s ev s') {i : Nat} {k : Key}
    {p : Phase} (h : s.calls[i]? = some ⟨k, p⟩) :
    s'.calls[i]? = some ⟨k, p⟩ ∨
      ∃ env q, ev = .step i env ∧ Move e k { env with now := s.clock } s.shared p s'.shared q ∧
        s'.calls[i]? = some ⟨k, q⟩ := by
  cases turn with
  | begins => exact .inl (getElem?_append_call h)
  | evicts | saves | ticks | waits | pauses => exact .inl h
  | @moves i' env key p' t q at_i move =>
    by_cases hi : i = i'
    · subst hi
      rw [at_i] at h
      cases h
      refine .inr ⟨env, q, rfl, move, ?_⟩
      rw [getElem?_set_call at_i, if_pos rfl]
    · left
      rw [getElem?_set_call at_i, if_neg hi]
      exact h

/-- Where a call comes from: it was there before, it has just begun, or it has moved. -/
theorem Turn.call_from {ev : Event} {s' : Scene} (turn : Turn e s ev s') {i : Nat} {k : Key}
    {q : Phase} (h : s'.calls[i]? = some ⟨k, q⟩) :
    s.calls[i]? = some ⟨k, q⟩ ∨ ev = .begin k ∧ i = s.calls.length ∧ q = e.start k ∨
      ∃ env p, ev = .step i env ∧ s.calls[i]? = some ⟨k, p⟩ ∧
        Move e k { env with now := s.clock } s.shared p s'.shared q := by
  cases turn with
  | begins key =>
    rcases getElem?_append_call_cases h with h | ⟨hi, hc⟩
    · exact .inl h
    · cases hc
      exact .inr (.inl ⟨rfl, hi, rfl⟩)
  | evicts | saves | ticks | waits | pauses => exact .inl h
  | @moves i' env key p t q' at_i move =>
    rw [getElem?_set_call at_i] at h
    split at h
    · next hi =>
      cases h
      subst hi
      exact .inr (.inr ⟨env, p, rfl, at_i, move⟩)
    · exact .inl h

/-- A call that has begun does not vanish. -/
theorem Turn.begun_kept {ev : Event} {s' : Scene} (turn : Turn e s ev s') :
    s.calls.length ≤ s'.calls.length := by
  cases turn with
  | begins => simp
  | moves => simp
  | evicts | saves | ticks | waits | pauses => exact Nat.le_refl _

/-- Steps of calls take no time. -/
theorem Turn.clock_kept {ev : Event} {s' : Scene} (turn : Turn e s ev s')
    (h : ∀ now, ev ≠ .tick now) : s'.clock = s.clock := by
  cases turn with
  | ticks now => exact absurd rfl (h now)
  | begins | moves | evicts | saves | waits | pauses => rfl

/-- Where no event moves the clock, it stands still. -/
theorem Interleaving.clock_eq {r : Interleaving} (still : ∀ n now, r.event n ≠ .tick now)
    (n : Nat) :
    (r.scene n).clock = r.clock := by
  induction n with
  | zero => rfl
  | succ n ih => rw [(r.turn n).clock_kept (still n), ih]

/-- The key and the client of a call that has ended with one. -/
def Call.ends? (call : Call) : Option (Key × AuthorizedClient) :=
  (call.phase.outcome?.bind Except.toOption).map (call.key, ·)

/-- A call that ends with a client has finished with it. -/
theorem Call.eq_of_ends? {call : Call} {k : Key} {c : AuthorizedClient}
    (h : call.ends? = some (k, c)) : call = ⟨k, .finished (.ok c)⟩ := by
  obtain ⟨key, phase⟩ := call
  cases phase with
  | finished o =>
    cases o with
    | ok c' =>
      cases h
      rfl
    | error fault => cases h
  | _ => cases h

/-- An event of a run that follows a script and then stands still. -/
theorem Event.getElem?_of_getD {script : List Event} {n : Nat} {ev : Event}
    (h : script.getD n .pause = ev) (acts : ev ≠ .pause) : script[n]? = some ev := by
  rw [List.getD_eq_getElem?_getD] at h
  cases listed : script[n]? with
  | none =>
    rw [listed] at h
    exact absurd h.symm acts
  | some ev' =>
    rw [listed] at h
    exact congrArg some h

/-- After its script a run pauses. -/
theorem Event.getD_pause_cases (script : List Event) (n : Nat) :
    script.getD n .pause ∈ script ∨ script.getD n .pause = .pause :=
  Classical.or_iff_not_imp_right.2 fun acts => List.mem_of_getElem? (getElem?_of_getD rfl acts)

end Engine

end TokenBroker
