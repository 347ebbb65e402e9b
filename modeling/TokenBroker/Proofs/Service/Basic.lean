import TokenBroker.Engine.World
import TokenBroker.Principal
import TokenBroker.Proofs.Engine.Move

/-!
# Operations one after another

A `Service` is an engine in its world. Its operations are done one at a time: a client is resolved,
a stored one is removed or saved, time passes, another engine takes over, or the store is opened
anew. `Service.performAll` does a list of them. Any clock, transport, plug-ins and store can
surround the engine.

A call that runs alone takes its steps until it ends. `World.runOut_induction` carries what its
steps preserve to its end: as long as it never has to wait, it ends.
-/

namespace TokenBroker

/-- An engine in its world. -/
structure Service where
  engine : Engine
  world : World

/-- What is done with a service. -/
inductive Operation
  | resolve (id : String) (requester : Requester)
  | evict (id : String) (requester : Requester)
  /-- A client that was authorized elsewhere is saved. -/
  | save (c : AuthorizedClient)
  /-- The clock moves on by a number of microseconds. -/
  | advance (micros : Int)
  /-- Another engine takes over the store. -/
  | rebuild (e : Engine)
  /-- The store is closed and opened again. -/
  | reopen

/-- What an operation gives. -/
inductive Answer
  | outcome (o : Option Outcome)
  | written (result : Except Fault Unit)
  | done

/-- A store opened again: its values are still there. -/
def Store.reopen : Store → Store
  | .memory t => .memory t
  | .disk values => .disk values

namespace World

/-- The world of a new engine, of which nothing is in flight and whose plug-ins have not been
called. -/
def afresh (w : World) : World :=
  { w with shared := { store := w.shared.store }, asked := [] }

/-- The world with its store opened again. -/
def reopen (w : World) : World :=
  { w with shared := { w.shared with store := w.shared.store.reopen } }

/-- A store that is opened again holds what it held. -/
theorem reopen_eq (w : World) : w.reopen = w := by
  have same : w.shared.store.reopen = w.shared.store := by cases w.shared.store <;> rfl
  unfold reopen
  rw [same]

/-- What the store gives for a key. -/
def entry (w : World) (k : Key) : Option AuthorizedClient := w.shared.store.entry k

end World

namespace Service

/-- Does an operation. -/
def perform (s : Service) : Operation → Service × Answer
  | .resolve id requester =>
    let (w, o) := s.world.resolve s.engine ⟨id, requester.principalName⟩
    ({ s with world := w }, .outcome o)
  | .evict id requester =>
    let (w, result) := s.world.evict ⟨id, requester.principalName⟩
    ({ s with world := w }, .written result)
  | .save c =>
    let (w, result) := s.world.save c
    ({ s with world := w }, .written result)
  | .advance micros => ({ s with world := s.world.advance micros }, .done)
  | .rebuild e => (⟨e, s.world.afresh⟩, .done)
  | .reopen => ({ s with world := s.world.reopen }, .done)

/-- Does operations, one after another. -/
def performAll (s : Service) : List Operation → Service × List Answer
  | [] => (s, [])
  | op :: ops =>
    let (s, answer) := s.perform op
    let (s, answers) := s.performAll ops
    (s, answer :: answers)

end Service

namespace World

variable {w w' : World} {e : Engine} {key : Key} {p q : Engine.Phase}

/-! ## Steps of a call that runs alone -/

/-- The world after a step that has been supplied for, and the phase that the step leads to. -/
def absorb (w : World) (next : Engine.Step) : World × Engine.Phase :=
  ({ w with shared := next.shared, log := w.log ++ next.log }.note next.phase, next.phase)

/-- A step in a world is a step of the engine, with what the world contributes. -/
theorem step_eq (w : World) (e : Engine) (key : Key) (p : Engine.Phase) :
    w.step e key p =
      (e.step key (w.supply (needOf p)).1 (w.supply (needOf p)).2.shared p).map
        (w.supply (needOf p)).2.absorb := by
  unfold step
  obtain ⟨env, w⟩ := w.supply (needOf p)
  simp only []
  cases e.step key env w.shared p <;> rfl

@[simp] theorem shared_supply (w : World) (n : Need) : (w.supply n).2.shared = w.shared := by
  unfold supply
  cases n with
  | load =>
    simp only []
    split
    · rfl
    · split <;> rfl
  | _ => rfl

@[simp] theorem shared_note (w : World) (p : Engine.Phase) : (w.note p).shared = w.shared := by
  unfold note
  split <;> rfl

@[simp] theorem clock_note (w : World) (p : Engine.Phase) : (w.note p).clock = w.clock := by
  unfold note
  split <;> rfl

/-- What a step does to what calls share. -/
theorem move_of_step (h : w.step e key p = some (w', q)) :
    Engine.Move e key (w.supply (needOf p)).1 w.shared p w'.shared q := by
  rw [step_eq, shared_supply] at h
  obtain ⟨next, taken, absorbed⟩ := Option.map_eq_some_iff.1 h
  cases absorbed
  rw [shared_note]
  exact Engine.move_of_step taken

/-- A step leads nearer to the end. -/
theorem rank_lt_of_step (h : w.step e key p = some (w', q)) : q.rank < p.rank :=
  (move_of_step h).rank_lt

/-- Only a call that has ended or has to wait has no next step. -/
theorem exists_step (running : p.outcome? = none) (free : ∀ a, p ≠ .waiting a) (w : World)
    (e : Engine) (key : Key) : ∃ w' q, w.step e key p = some (w', q) := by
  rw [step_eq]
  obtain ⟨next, taken⟩ := Option.isSome_iff_exists.1
    (Engine.step_isSome e key (w.supply (needOf p)).1 (w.supply (needOf p)).2.shared running free)
  rw [taken]
  exact ⟨_, _, rfl⟩

/-- A call that never has to wait runs to its end, and what its steps keep holds there. -/
theorem runOut_induction {Inv : World → Engine.Phase → Prop}
    (free : ∀ {w p}, Inv w p → ∀ a, p ≠ .waiting a)
    (kept : ∀ {w p w' q}, Inv w p → w.step e key p = some (w', q) → Inv w' q) (h : Inv w p) :
    ∃ w' o, w.runOut e key p = (w', .finished o) ∧ Inv w' (.finished o) := by
  have run_fuel : ∀ fuel w p, p.rank ≤ fuel → Inv w p →
      ∃ w' o, w.run e key (fun _ => false) fuel p = (w', .finished o) ∧ Inv w' (.finished o) := by
    intro fuel
    induction fuel with
    | zero =>
      intro w p small h
      cases p with
      | finished o => exact ⟨w, o, rfl, h⟩
      | _ => simp [Engine.Phase.rank] at small
    | succ fuel ih =>
      intro w p small h
      cases running : p.outcome? with
      | some o =>
        cases p with
        | finished o' => exact ⟨w, o', rfl, h⟩
        | _ => cases running
      | none =>
        obtain ⟨w', q, taken⟩ := exists_step running (free h) w e key
        have nearer := rank_lt_of_step taken
        obtain ⟨w'', o, ran, inv⟩ := ih w' q (by omega) (kept h taken)
        refine ⟨w'', o, ?_, inv⟩
        rw [run, if_neg Bool.false_ne_true, taken]
        exact ran
  exact run_fuel p.rank w p (Nat.le_refl _) h

/-- A call for an unknown registration changes nothing. -/
theorem resolve_unknown (w : World) (h : e.source.find? key.registrationId = none) :
    w.resolve e key = (w, some (.error (.failure (.unknownRegistration key.registrationId)))) := by
  have ended : e.start key = .finished
      (.error (.failure (.unknownRegistration key.registrationId))) := by
    unfold Engine.start
    rw [h]
  unfold resolve
  rw [ended]
  rfl

end World

end TokenBroker
