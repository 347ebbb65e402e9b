import TokenBroker.Proofs.Engine.OnDisk
import TokenBroker.Proofs.Service.Basic

/-!
# Services on either kind of store

The same operations on a store in memory and on one on disk that holds the same clients. Whatever
the clock, the transport and the plug-ins, each operation turns a service in memory into one whose
copy on disk the operation makes of the copy, with the same answer (`Service.perform_onDisk`): the
steps of a call differ in the secrets of stored clients only, and those are never looked at.

`stores_interchangeable` says what that means for a caller after any operations.
-/

namespace TokenBroker

variable {w : World} {e : Engine} {key : Key} {p : Engine.Phase}

namespace World

/-- The world whose store is on disk and holds the same clients. -/
def onDisk (w : World) : World := { w with shared := w.shared.onDisk }

/-- A store in memory. -/
def InMemory (w : World) : Prop := w.shared.store.kind = .memory

theorem InMemory.step {w' : World} {q : Engine.Phase} (h : w.InMemory)
    (taken : w.step e key p = some (w', q)) : w'.InMemory := by
  unfold InMemory
  rw [(move_of_step taken).kind]
  exact h

/-- A call leaves a store in memory there. -/
theorem InMemory.run (h : w.InMemory) (hold : Engine.Phase → Bool) (fuel : Nat) (p : Engine.Phase) :
    (w.run e key hold fuel p).1.InMemory := by
  induction fuel generalizing w p with
  | zero => exact h
  | succ fuel ih =>
    unfold World.run
    split
    · exact h
    · split
      · exact h
      · next w' q taken => exact ih (h.step taken) q

/-! ## Calls -/

theorem needOf_onDisk (p : Engine.Phase) : needOf p.onDisk = needOf p := by
  cases p with
  | receiving a p issuedAt sent ticket => cases sent <;> rfl
  | _ => rfl

/-- A world on disk supplies a call with what the world in memory does. -/
theorem supply_onDisk (w : World) (n : Need) :
    w.onDisk.supply n = ((w.supply n).1, (w.supply n).2.onDisk) := by
  cases n with
  | load =>
    unfold supply onDisk
    cases w.trouble.load with
    | some fault => rfl
    | none =>
      simp only []
      split <;> rfl
  | _ => rfl

theorem note_onDisk (w : World) (p : Engine.Phase) :
    w.onDisk.note p.onDisk = (w.note p).onDisk := by
  cases p with
  | receiving a p issuedAt sent ticket => cases sent <;> rfl
  | _ => rfl

/-- A world on disk takes up a step as the world in memory does. -/
theorem absorb_onDisk (w : World) (next : Engine.Step) :
    w.onDisk.absorb next.onDisk = ((w.absorb next).1.onDisk, (w.absorb next).2.onDisk) := by
  unfold absorb
  rw [← note_onDisk]
  rfl

/-- A call takes the same step in the world on disk. -/
theorem step_onDisk (h : w.InMemory) (p : Engine.Phase) :
    w.onDisk.step e key p.onDisk =
      (w.step e key p).map fun next => (next.1.onDisk, next.2.onDisk) := by
  have same : (w.supply (needOf p)).2.shared.store.kind = .memory := by
    rw [shared_supply]
    exact h
  rw [step_eq, step_eq, needOf_onDisk, supply_onDisk]
  show (e.step key _ (w.supply (needOf p)).2.shared.onDisk p.onDisk).map _ = _
  rw [Engine.step_onDisk same, Option.map_map, Option.map_map]
  congr 1
  funext next
  exact absorb_onDisk _ next

/-- A call runs through the same steps in the world on disk. -/
theorem run_onDisk (h : w.InMemory) (hold : Engine.Phase → Bool)
    (same : ∀ p, hold p.onDisk = hold p) (fuel : Nat) (p : Engine.Phase) :
    w.onDisk.run e key hold fuel p.onDisk =
      ((w.run e key hold fuel p).1.onDisk, (w.run e key hold fuel p).2.onDisk) := by
  induction fuel generalizing w p with
  | zero => rfl
  | succ fuel ih =>
    simp only [run, same, step_onDisk h]
    split
    · rfl
    · cases taken : w.step e key p with
      | none => rfl
      | some next => exact ih (h.step taken) next.2

/-- A call has the same outcome in the world on disk. -/
theorem resolve_onDisk (h : w.InMemory) (e : Engine) (key : Key) :
    w.onDisk.resolve e key = ((w.resolve e key).1.onDisk, (w.resolve e key).2) := by
  have ran : w.onDisk.runOut e key (e.start key) =
      ((w.runOut e key (e.start key)).1.onDisk, (w.runOut e key (e.start key)).2.onDisk) := by
    have copied : w.onDisk.run e key (fun _ => false) (e.start key).rank (e.start key).onDisk = _ :=
      run_onDisk h _ (fun _ => rfl) _ _
    rw [Engine.start_onDisk] at copied
    exact copied
  unfold resolve
  rw [ran]
  simp only [Engine.outcome?_onDisk]

/-! ## Other operations -/

/-- An eviction has the same result on disk. -/
theorem evict_onDisk (h : w.InMemory) (k : Key) :
    w.onDisk.evict k = ((w.evict k).1.onDisk, (w.evict k).2) := by
  have same : w.onDisk.trouble = w.trouble := rfl
  simp only [evict, same]
  cases w.trouble.remove with
  | some fault => rfl
  | none => simp [onDisk, Engine.Shared.onDisk, Store.remove_onDisk h]

/-- A save has the same result on disk. -/
theorem save_onDisk (h : w.InMemory) (c : AuthorizedClient) :
    w.onDisk.save c = ((w.save c).1.onDisk, (w.save c).2) := by
  have same : w.onDisk.trouble = w.trouble := rfl
  simp only [save, same]
  cases w.trouble.save with
  | some fault => rfl
  | none => simp [onDisk, Engine.Shared.onDisk, Store.save_onDisk h]

end World

namespace Service

variable {s : Service}

/-- The service whose store is on disk and holds the same clients. -/
def onDisk (s : Service) : Service := { s with world := s.world.onDisk }

/-- An operation leaves a store in memory there. -/
theorem perform_inMemory (h : s.world.InMemory) (op : Operation) :
    (s.perform op).1.world.InMemory := by
  cases op with
  | resolve id requester => exact World.InMemory.run h _ _ _
  | evict id requester =>
    show (s.world.evict _).1.InMemory
    unfold World.evict
    split
    · exact h
    · exact (s.world.shared.store.kind_remove _).trans h
  | save c =>
    show (s.world.save c).1.InMemory
    unfold World.save
    split
    · exact h
    · exact (s.world.shared.store.kind_save c).trans h
  | advance | rebuild => exact h
  | reopen =>
    show s.world.reopen.InMemory
    rw [World.reopen_eq]
    exact h

/-- An operation is answered alike by the service on disk. -/
theorem perform_onDisk (h : s.world.InMemory) (op : Operation) :
    s.onDisk.perform op = ((s.perform op).1.onDisk, (s.perform op).2) := by
  cases op with
  | resolve id requester =>
    simp only [perform, onDisk, World.resolve_onDisk h]
  | evict id requester =>
    simp only [perform, onDisk, World.evict_onDisk h]
  | save c =>
    simp only [perform, onDisk, World.save_onDisk h]
  | advance | rebuild => rfl
  | reopen =>
    simp only [perform, onDisk, World.reopen_eq]

/-- A list of operations is answered alike by the service on disk. -/
theorem performAll_onDisk (h : s.world.InMemory) (ops : List Operation) :
    s.onDisk.performAll ops = ((s.performAll ops).1.onDisk, (s.performAll ops).2) ∧
      (s.performAll ops).1.world.InMemory := by
  induction ops generalizing s with
  | nil => exact ⟨rfl, h⟩
  | cons op ops ih =>
    obtain ⟨rest, inMemory⟩ := ih (perform_inMemory h op)
    simp only [performAll, perform_onDisk h, rest]
    exact ⟨trivial, inMemory⟩

end Service

/-! ## The result -/

/-- **Stores are interchangeable.** Whatever the engine, the clock, the transport, the plug-ins and
the troubles of the store, two services that start with the same clients, one in memory and one on
disk, are told apart by no operations: each gives the same answers, sends the same requests to the
token endpoints and the same calls to plug-ins, in the same order, and logs the same. Afterwards the
stores hold the same keys, and the one on disk gives for each key what the one in memory gives,
without the secret of the registration. -/
theorem stores_interchangeable (e : Engine) (w : World) (clients : Table Key AuthorizedClient)
    (ops : List Operation) :
    let start (store : Store) : Service := ⟨e, { w with shared := { w.shared with store } }⟩
    let inMemory := (start (.memory clients)).performAll ops
    let onDisk := (start (.disk (clients.mapValues Store.written))).performAll ops
    onDisk.2 = inMemory.2 ∧
      onDisk.1.world.sent = inMemory.1.world.sent ∧
      onDisk.1.world.asked = inMemory.1.world.asked ∧
      onDisk.1.world.log = inMemory.1.world.log ∧
      onDisk.1.world.shared.store.keys = inMemory.1.world.shared.store.keys ∧
      ∀ k, onDisk.1.world.entry k = (inMemory.1.world.entry k).map
        AuthorizedClient.withoutSecret := by
  intro start inMemory onDisk
  obtain ⟨copied, kind⟩ := Service.performAll_onDisk (s := start (.memory clients)) rfl ops
  have same : onDisk = (inMemory.1.onDisk, inMemory.2) := copied
  rw [same]
  exact ⟨rfl, rfl, rfl, rfl, Store.keys_onDisk _, Store.entry_onDisk kind⟩

end TokenBroker
