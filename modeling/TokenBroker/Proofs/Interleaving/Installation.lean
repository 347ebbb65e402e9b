import TokenBroker.Principal
import TokenBroker.Proofs.Interleaving.Basic
import TokenBroker.Proofs.Store.Ownership

/-!
# Engines on one store

Any number of engines on one store and one clock, each with its own registrations, its own keys in
flight and its own calls. Whoever changes the registrations builds a new engine; the calls of an old
one may still be under way. An `Installation` is what there is at one moment, and a `History` is all
that happens from an empty store on: engines are built, calls begin and take their steps in any
order, and clients are saved and evicted.

Whatever happens, one operation on the store is all that an event does to it (`changes_after`), so
at every moment each entry is a client of its key (`History.orderly`). And what the others do to the
store is for each engine what any writer might do: its calls go through an interleaving of its own
(`History.exists_view`).
-/

namespace TokenBroker

namespace Engine

/-- An engine that has been built, with what belongs to it alone. -/
structure Running where
  engine : Engine
  inFlight : Table Key Nat := []
  outcomes : List (Option Outcome) := []
  calls : List Call := []

/-- What a running engine has before it, given the clock and the store. -/
def Running.scene (x : Running) (clock : DateTime) (store : Store) : Scene :=
  { clock, shared := { store, inFlight := x.inFlight, outcomes := x.outcomes }, calls := x.calls }

/-- An engine running with what belongs to it in a scene. -/
def Running.ofScene (e : Engine) (s : Scene) : Running :=
  ⟨e, s.shared.inFlight, s.shared.outcomes, s.calls⟩

end Engine

/-- The clock, the store, and the engines in the order in which they were built. -/
structure Installation where
  clock : DateTime
  store : Store
  engines : List Engine.Running := []

namespace Installation

/-- What happens next. -/
inductive Event
  | build (e : Engine)
  /-- A client is asked of an engine. -/
  | resolve (engine : Nat) (id : String) (requester : Requester)
  /-- A call of an engine takes its next step, if it has one. -/
  | step (engine call : Nat) (env : Engine.Surroundings)
  | evict (id : String) (requester : Requester)
  /-- A client that was authorized elsewhere is saved. -/
  | save (c : AuthorizedClient)
  | tick (now : DateTime)

/-- The installation after something has happened to one of its engines. -/
def act (s : Installation) (i : Nat) (ev : Engine.Event) : Installation :=
  match s.engines[i]? with
  | none => s
  | some x =>
    let scene := (x.scene s.clock s.store).after x.engine ev
    { clock := scene.clock
      store := scene.shared.store
      engines := s.engines.set i (.ofScene x.engine scene) }

/-- The installation after an event. -/
def after (s : Installation) : Event → Installation
  | .build e => { s with engines := s.engines ++ [{ engine := e }] }
  | .resolve i id requester => s.act i (.begin ⟨id, requester.principalName⟩)
  | .step i j env => s.act i (.step j env)
  | .evict id requester => { s with store := s.store.remove ⟨id, requester.principalName⟩ }
  | .save c => { s with store := s.store.save c }
  | .tick now => { s with clock := now }

/-- Where a call of an engine stands. -/
def call? (s : Installation) (i j : Nat) : Option Engine.Call :=
  s.engines[i]?.bind (·.calls[j]?)

/-- How a call of an engine has ended. -/
def outcome? (s : Installation) (i j : Nat) : Option Outcome :=
  (s.call? i j).bind (·.phase.outcome?)

/-- The kind of the store, the clock at the start, and all that happens, in order. -/
structure History where
  kind : StoreKind
  clock : DateTime
  event : Nat → Event

/-- The installation after the first `n` events. It starts with nothing stored. -/
def History.state (h : History) : Nat → Installation
  | 0 => { clock := h.clock, store := .empty h.kind }
  | n + 1 => (h.state n).after (h.event n)

end Installation

namespace Engine

variable {e : Engine} {key : Key} {env : Surroundings} {s t : Shared} {p : Phase}

/-! ## What an event does to the store -/

/-- Loading a client changes the store in one of the ways a store changes. -/
theorem changes_of_load {c : Option AuthorizedClient} {log : List LogEntry}
    (h : load env s key = .ok (c, t, log)) : s.store.Changes t.store := by
  unfold load at h
  split at h
  · cases h
  · split at h
    · cases h
      exact .kept
    · cases h
      exact s.store.changes_load key

/-- A step loads, removes or saves at most once. -/
theorem changes_of_step {next : Step} (h : e.step key env s p = some next) :
    s.store.Changes next.shared.store := by
  cases p with
  | loading | reloading =>
    simp only [step] at h
    split at h
    · cases h; exact .kept
    · next hl => cases h; exact changes_of_load hl
    · next hl => cases h; exact changes_of_load hl
  | dropping =>
    simp only [step] at h
    split at h
    · cases h; exact .kept
    · cases h; exact .removed key
  | saving a g c =>
    simp only [step] at h
    split at h
    · cases h; exact .kept
    · cases h; exact .saved c
  | judging | claiming | rejudging | sending | waiting =>
    simp only [step] at h
    split at h <;> cases h <;> exact .kept
  | stamping | receiving | publishing | releasing => cases h; exact .kept
  | finished => cases h

/-- An event changes the store in one of the ways a store changes. -/
theorem Scene.changes_after (e : Engine) (s : Scene) (ev : Event) :
    s.shared.store.Changes (s.after e ev).shared.store := by
  cases ev with
  | begin | tick | pause => exact .kept
  | evict key => exact .removed key
  | save c => exact .saved c
  | step i env =>
    unfold after
    cases hc : s.calls[i]? with
    | none => simp only [hc]; exact .kept
    | some c =>
      cases hs : e.step c.key { env with now := s.clock } s.shared c.phase with
      | none => simp only [hc, hs]; exact .kept
      | some next => simp only [hc, hs]; exact changes_of_step hs

/-- Any change of the store can be that of some other writer. -/
theorem Scene.exists_event_of_changes (e : Engine) (s : Scene) {t : Store}
    (changes : s.shared.store.Changes t) :
    ∃ ev, s.after e ev = { s with shared := { s.shared with store := t } } := by
  cases changes with
  | kept => exact ⟨.pause, rfl⟩
  | removed k => exact ⟨.evict k, rfl⟩
  | saved c => exact ⟨.save c, rfl⟩

end Engine

namespace Installation

variable {s : Installation} {i j : Nat} {x y : Engine.Running}

theorem act_of_none (at_i : s.engines[i]? = none) (ev : Engine.Event) : s.act i ev = s := by
  unfold act
  rw [at_i]

theorem act_of_some (at_i : s.engines[i]? = some x) (ev : Engine.Event) :
    s.act i ev =
      { clock := ((x.scene s.clock s.store).after x.engine ev).clock
        store := ((x.scene s.clock s.store).after x.engine ev).shared.store
        engines := s.engines.set i (.ofScene x.engine ((x.scene s.clock s.store).after x.engine ev))
          } := by
  unfold act
  rw [at_i]

/-- An event at one engine changes the shared store in one of those ways. -/
theorem changes_act (s : Installation) (i : Nat) (ev : Engine.Event) :
    s.store.Changes (s.act i ev).store := by
  cases at_i : s.engines[i]? with
  | none =>
    rw [act_of_none at_i]
    exact .kept
  | some x =>
    rw [act_of_some at_i]
    exact Engine.Scene.changes_after x.engine (x.scene s.clock s.store) ev

/-- An event of an installation changes the shared store in one of those ways. -/
theorem changes_after (s : Installation) (ev : Event) : s.store.Changes (s.after ev).store := by
  cases ev with
  | build | tick => exact .kept
  | resolve i id requester => exact s.changes_act i _
  | step i j env => exact s.changes_act i _
  | evict id requester => exact .removed _
  | save c => exact .saved c

/-- At every moment each entry is a client of its key, and no key has two. -/
theorem History.orderly (h : History) (n : Nat) : (h.state n).store.Orderly := by
  induction n with
  | zero => exact .empty h.kind
  | succ n ih => exact ih.changes ((h.state n).changes_after (h.event n))

/-! ## What an event does to an engine -/

/-- An engine sees an event of its own as it is. -/
theorem scene_act (at_i : s.engines[i]? = some x) (ev : Engine.Event) :
    ∃ y, (s.act i ev).engines[i]? = some y ∧ y.engine = x.engine ∧
      y.scene (s.act i ev).clock (s.act i ev).store = (x.scene s.clock s.store).after x.engine
        ev := by
  rw [act_of_some at_i]
  exact ⟨_, List.getElem?_set_self (List.getElem?_eq_some_iff.1 at_i).1, rfl, rfl⟩

/-- The events of an engine do not move the clock, unless they say so. -/
theorem clock_act (s : Installation) (i : Nat) {ev : Engine.Event} (still : ∀ now, ev ≠ .tick now) :
    (s.act i ev).clock = s.clock := by
  cases at_i : s.engines[i]? with
  | none => rw [act_of_none at_i]
  | some x =>
    rw [act_of_some at_i]
    exact (Engine.turn_after x.engine (x.scene s.clock s.store) ev).clock_kept still

/-- An event at one engine leaves the other engines alone. -/
theorem engines_act_of_ne {j : Nat} (h : j ≠ i) (ev : Engine.Event) :
    (s.act j ev).engines[i]? = s.engines[i]? := by
  cases at_j : s.engines[j]? with
  | none => rw [act_of_none at_j]
  | some x =>
    rw [act_of_some at_j]
    exact List.getElem?_set_ne h

/-- An engine sees the events of another one as changes of the store. -/
theorem scene_act_of_ne (at_i : s.engines[i]? = some x) (h : j ≠ i) {ev : Engine.Event}
    (still : ∀ now, ev ≠ .tick now) :
    ∃ y, (s.act j ev).engines[i]? = some y ∧ y.engine = x.engine ∧
      ∃ ev', y.scene (s.act j ev).clock (s.act j ev).store =
        (x.scene s.clock s.store).after x.engine ev' := by
  obtain ⟨ev', same⟩ :=
    (x.scene s.clock s.store).exists_event_of_changes x.engine (s.changes_act j ev)
  refine ⟨x, by rw [engines_act_of_ne h, at_i], rfl, ev', ?_⟩
  rw [same, clock_act s j still]
  rfl

/-- Whatever happens, to each engine it is one event. -/
theorem scene_after (at_i : s.engines[i]? = some x) (ev : Event) :
    ∃ y, (s.after ev).engines[i]? = some y ∧ y.engine = x.engine ∧
      ∃ ev', y.scene (s.after ev).clock (s.after ev).store =
        (x.scene s.clock s.store).after x.engine ev' := by
  have acts (j : Nat) {ev : Engine.Event} (still : ∀ now, ev ≠ .tick now) :
      ∃ y, (s.act j ev).engines[i]? = some y ∧ y.engine = x.engine ∧
        ∃ ev', y.scene (s.act j ev).clock (s.act j ev).store =
          (x.scene s.clock s.store).after x.engine ev' := by
    by_cases own : j = i
    · subst own
      obtain ⟨y, at_j, same, scene⟩ := scene_act at_i ev
      exact ⟨y, at_j, same, ev, scene⟩
    · exact scene_act_of_ne at_i own still
  cases ev with
  | build e =>
    refine ⟨x, ?_, rfl, .pause, rfl⟩
    exact (List.getElem?_append_left (List.getElem?_eq_some_iff.1 at_i).1).trans at_i
  | resolve j id requester => exact acts j fun _ => nofun
  | step j call env => exact acts j fun _ => nofun
  | evict id requester => exact ⟨x, at_i, rfl, .evict _, rfl⟩
  | save c => exact ⟨x, at_i, rfl, .save c, rfl⟩
  | tick now => exact ⟨x, at_i, rfl, .tick now, rfl⟩

/-- An engine that was not there before begins with nothing of its own. -/
theorem eq_of_new {ev : Event} (before : s.engines[i]? = none)
    (at_i : (s.after ev).engines[i]? = some x) : x = { engine := x.engine } := by
  have acts (j : Nat) (ev : Engine.Event) : (s.act j ev).engines[i]? = none := by
    by_cases own : j = i
    · rw [own, act_of_none before, before]
    · rw [engines_act_of_ne own, before]
  cases ev with
  | build e =>
    change (s.engines ++ [{ engine := e }])[i]? = some x at at_i
    rw [List.getElem?_append_right (List.getElem?_eq_none_iff.1 before),
      List.getElem?_singleton] at at_i
    split at at_i
    · cases at_i
      rfl
    · cases at_i
  | resolve j id requester => cases (acts j _).symm.trans at_i
  | step j call env => cases (acts j _).symm.trans at_i
  | evict | save | tick => cases before.symm.trans at_i

namespace History

variable {h : History} {m n : Nat} {e : Engine}

/-- An engine that has been built is there from then on. -/
theorem engine_later (hmn : m ≤ n) (at_i : (h.state m).engines[i]? = some x) :
    ∃ y, (h.state n).engines[i]? = some y ∧ y.engine = x.engine := by
  induction hmn with
  | refl => exact ⟨x, at_i, rfl⟩
  | @step n _ ih =>
    obtain ⟨y, at_n, same⟩ := ih
    obtain ⟨z, at_succ, same', -⟩ := scene_after at_n (h.event n)
    exact ⟨z, at_succ, same'.trans same⟩

/-- An engine that is there was built before. -/
theorem built (at_i : (h.state n).engines[i]? = some x) :
    ∃ m < n, (h.state (m + 1)).engines[i]? = some { engine := x.engine } := by
  induction n generalizing x with
  | zero => simp [state] at at_i
  | succ n ih =>
    cases before : (h.state n).engines[i]? with
    | none => exact ⟨n, Nat.lt_succ_self n, by rw [at_i, ← eq_of_new before at_i]⟩
    | some y =>
      obtain ⟨m, hm, begun⟩ := ih before
      obtain ⟨z, at_succ, same, -⟩ := scene_after before (h.event n)
      rw [show (h.state (n + 1)).engines[i]? = some z from at_succ] at at_i
      cases at_i
      exact ⟨m, Nat.lt_succ_of_lt hm, by rw [same]; exact begun⟩

/-- The calls of an engine go through an interleaving of its own, whatever else happens. -/
theorem exists_view (begun : (h.state m).engines[i]? = some { engine := e }) :
    ∃ r : Engine.Interleaving, r.engine = e ∧ ∀ n, ∃ y, (h.state (m + n)).engines[i]? = some y ∧
      y.engine = e ∧ r.scene n = y.scene (h.state (m + n)).clock (h.state (m + n)).store := by
  -- the scenes of the engine from its first moment on, and the events between them
  have there (n : Nat) := engine_later (Nat.le_add_right m n) begun
  choose y at_i same using there
  let scene (n : Nat) := (y n).scene (h.state (m + n)).clock (h.state (m + n)).store
  have turns (n : Nat) : ∃ ev, scene (n + 1) = (scene n).after e ev := by
    obtain ⟨z, at_succ, -, ev, turned⟩ := scene_after (at_i n) (h.event (m + n))
    obtain rfl : y (n + 1) = z := Option.some.inj ((at_i (n + 1)).symm.trans at_succ)
    rw [show (y n).engine = e from same n] at turned
    exact ⟨ev, turned⟩
  choose ev turned using turns
  refine ⟨⟨e, (h.state m).clock, (h.state m).store, ev⟩, rfl, fun n => ⟨y n, at_i n, same n, ?_⟩⟩
  induction n with
  | zero =>
    have first : y 0 = { engine := e } := Option.some.inj ((at_i 0).symm.trans begun)
    rw [first]
    rfl
  | succ n ih => exact (congrArg (·.after e (ev n)) ih).trans (turned n).symm

end History

end Installation

end TokenBroker
