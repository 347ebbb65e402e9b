import Mathlib.Data.List.Forall2
import TokenBroker.Proofs.Interleaving.Renaming
import TokenBroker.Proofs.Service.Basic

/-!
# Services for principals of other names

The same operations for principals whose names are changed throughout: in the calls, in the clients
that are saved, and in the store to begin with. If no two names become one, each operation does the
same, up to the names (`Service.perform_rename`). So an authorization server, a plug-in and the
clock cannot tell on whose behalf a client is resolved (`principals_unseen_outside`).

Of the clock the times count at which a service reads it, in their order (`Service.readings`): a
call reads it whenever it judges a stored client or stamps a new one.
-/

namespace TokenBroker

/-! ## Readings of the clock -/

section

variable {w : World} {e : Engine} {key : Key} {p : Engine.Phase}

namespace World

/-- The reading of the clock that a step takes. -/
def readingOf (w : World) : Need → List DateTime
  | .clock => [w.clock]
  | _ => []

/-- The readings of the clock that a call takes in at most `fuel` steps. -/
def readingsFrom (w : World) (e : Engine) (key : Key) : Nat → Engine.Phase → List DateTime
  | 0, _ => []
  | fuel + 1, p =>
    match w.step e key p with
    | none => []
    | some (w', q) => w.readingOf (needOf p) ++ w'.readingsFrom e key fuel q

end World

namespace Service

/-- The readings of the clock that an operation takes: a resolution alone takes any. -/
def readingsOf (s : Service) : Operation → List DateTime
  | .resolve id requester =>
    let start := s.engine.start ⟨id, requester.principalName⟩
    s.world.readingsFrom s.engine ⟨id, requester.principalName⟩ start.rank start
  | _ => []

/-- The readings of the clock that operations take. -/
def readings (s : Service) : List Operation → List DateTime
  | [] => []
  | op :: ops => s.readingsOf op ++ (s.perform op).1.readings ops

end Service

end

/-! ## Other names -/

variable (f : String → String)

/-- The troubles of a store whose faults name the principals by their other names. -/
def StoreTrouble.rename (t : StoreTrouble) : StoreTrouble where
  load := t.load.map (Fault.rename f)
  save := t.save.map (Fault.rename f)
  remove := t.remove.map (Fault.rename f)
  hidden := t.hidden

namespace World

/-- A world with the principals renamed: in the store, in the log, and in the faults that the store
and the plug-ins raise. -/
def rename (w : World) : World :=
  { w with
    trouble := w.trouble.rename f
    plugin := fun number call => (w.plugin number call).mapError (Fault.rename f)
    shared := w.shared.rename f
    log := w.log.map (LogEntry.rename f) }

theorem needOf_rename (p : Engine.Phase) : needOf (p.rename f) = needOf p := by
  cases p with
  | receiving a p issuedAt sent ticket => cases sent <;> rfl
  | _ => rfl

/-- The renamed world supplies a renamed call with the renamed surroundings. -/
theorem supply_rename (w : World) (n : Need) :
    (w.rename f).supply n = ((w.supply n).1.rename f, (w.supply n).2.rename f) := by
  cases n with
  | load =>
    obtain ⟨clock, tick, readings, transport, plugin, ⟨load, save, remove, hidden⟩, shared, sent,
      asked, log⟩ := w
    cases load with
    | some fault => rfl
    | none => cases hidden <;> rfl
  | _ => rfl

theorem note_rename (w : World) (p : Engine.Phase) :
    (w.rename f).note (p.rename f) = (w.note p).rename f := by
  cases p with
  | receiving a p issuedAt sent ticket => cases sent <;> rfl
  | _ => rfl

/-- The renamed world takes up a renamed step. -/
theorem absorb_rename (w : World) (next : Engine.Step) :
    (w.rename f).absorb (next.rename f) =
      ((w.absorb next).1.rename f, (w.absorb next).2.rename f) := by
  simp only [absorb, ← note_rename]
  simp [rename, Engine.Step.rename]

variable {f} (distinct : Function.Injective f)
include distinct

/-- A renamed call takes the renamed step in the renamed world. -/
theorem step_rename (w : World) (e : Engine) (key : Key) (p : Engine.Phase) :
    (w.rename f).step e (key.rename f) (p.rename f) =
      (w.step e key p).map fun next => (next.1.rename f, next.2.rename f) := by
  rw [step_eq, step_eq, needOf_rename, supply_rename]
  show (e.step _ _ ((w.supply (needOf p)).2.shared.rename f) _).map _ = _
  rw [Engine.step_rename distinct, Option.map_map, Option.map_map]
  congr 1
  funext next
  exact absorb_rename f _ next

/-- A renamed call runs through the renamed steps. -/
theorem run_rename (hold : Engine.Phase → Bool) (same : ∀ p, hold (p.rename f) = hold p) (w : World)
    (e : Engine) (key : Key) (fuel : Nat) (p : Engine.Phase) :
    (w.rename f).run e (key.rename f) hold fuel (p.rename f) =
      ((w.run e key hold fuel p).1.rename f, (w.run e key hold fuel p).2.rename f) := by
  induction fuel generalizing w p with
  | zero => rfl
  | succ fuel ih =>
    simp only [run, same, step_rename distinct]
    split
    · rfl
    · cases w.step e key p with
      | none => rfl
      | some next => exact ih next.1 next.2

/-- A renamed call reads the clock as often and sees the same times. -/
theorem readingsFrom_rename (w : World) (e : Engine) (key : Key) (fuel : Nat) (p : Engine.Phase) :
    (w.rename f).readingsFrom e (key.rename f) fuel (p.rename f) = w.readingsFrom e key fuel p := by
  induction fuel generalizing w p with
  | zero => rfl
  | succ fuel ih =>
    have same (n : Need) : (w.rename f).readingOf n = w.readingOf n := by cases n <;> rfl
    simp only [readingsFrom, step_rename distinct, needOf_rename, same]
    cases w.step e key p with
    | none => rfl
    | some next => exact congrArg _ (ih next.1 next.2)

/-- A renamed call has the renamed outcome. -/
theorem resolve_rename (w : World) (e : Engine) (key : Key) :
    (w.rename f).resolve e (key.rename f) =
      ((w.resolve e key).1.rename f, (w.resolve e key).2.map (Outcome.rename f)) := by
  have ran := run_rename distinct (fun _ => false)
    (fun _ => rfl) w e key (e.start key).rank (e.start key)
  simp only [resolve, runOut, Engine.start_rename, Engine.rank_rename, ran, Engine.outcome?_rename]

/-! ## Other operations -/

/-- A renamed eviction removes the renamed entry. -/
theorem evict_rename (w : World) (k : Key) :
    (w.rename f).evict (k.rename f) =
      ((w.evict k).1.rename f, (w.evict k).2.mapError (Fault.rename f)) := by
  have trouble : (w.rename f).trouble.remove = w.trouble.remove.map (Fault.rename f) := rfl
  unfold evict
  rw [trouble]
  cases w.trouble.remove with
  | some fault => rfl
  | none => simp [rename, Engine.Shared.rename, Store.remove_rename distinct, Except.mapError]

/-- A renamed client is saved in the renamed world. -/
theorem save_rename (w : World) (c : AuthorizedClient) :
    (w.rename f).save (c.rename f) =
      ((w.save c).1.rename f, (w.save c).2.mapError (Fault.rename f)) := by
  have trouble : (w.rename f).trouble.save = w.trouble.save.map (Fault.rename f) := rfl
  unfold save
  rw [trouble]
  cases w.trouble.save with
  | some fault => rfl
  | none => simp [rename, Engine.Shared.rename, Store.save_rename distinct, Except.mapError]

end World

/-- Two operations do the same for principals of other names. Whoever asks is known by name alone,
so a principal may have any attributes on either side. -/
inductive Operation.Renamed : Operation → Operation → Prop
  | resolve {a b : Requester} (id : String) (named : b.principalName = f a.principalName) :
      Renamed (.resolve id a) (.resolve id b)
  | evict {a b : Requester} (id : String) (named : b.principalName = f a.principalName) :
      Renamed (.evict id a) (.evict id b)
  | save (c : AuthorizedClient) : Renamed (.save c) (.save (c.rename f))
  | advance (micros : Int) : Renamed (.advance micros) (.advance micros)
  | rebuild (e : Engine) : Renamed (.rebuild e) (.rebuild e)
  | reopen : Renamed .reopen .reopen

/-- What an operation gives, with the principals renamed. -/
def Answer.rename : Answer → Answer
  | .outcome o => .outcome (o.map (Outcome.rename f))
  | .written result => .written (result.mapError (Fault.rename f))
  | .done => .done

namespace Service

/-- A service with the principals renamed. -/
def rename (s : Service) : Service := { s with world := s.world.rename f }

variable {f} (distinct : Function.Injective f)
include distinct

/-- A renamed operation has the renamed answer and reads the same times. -/
theorem perform_rename (s : Service) {op op' : Operation} (same : op.Renamed f op') :
    (s.rename f).perform op' = ((s.perform op).1.rename f, (s.perform op).2.rename f) ∧
      (s.rename f).readingsOf op' = s.readingsOf op := by
  have world : (s.rename f).world = s.world.rename f := rfl
  have engine : (s.rename f).engine = s.engine := rfl
  cases same with
  | @resolve a b id named =>
    have key : (⟨id, b.principalName⟩ : Key) = Key.rename f ⟨id, a.principalName⟩ := by
      rw [named]
      rfl
    constructor
    · simp only [perform, key, world, engine, World.resolve_rename distinct]
      rfl
    · simp only [readingsOf, key, world, engine, Engine.start_rename, Engine.rank_rename,
        World.readingsFrom_rename distinct]
  | @evict a b id named =>
    have key : (⟨id, b.principalName⟩ : Key) = Key.rename f ⟨id, a.principalName⟩ := by
      rw [named]
      rfl
    refine ⟨?_, rfl⟩
    simp only [perform, key, world, World.evict_rename distinct]
    rfl
  | save c =>
    refine ⟨?_, rfl⟩
    simp only [perform, world, World.save_rename distinct]
    rfl
  | advance | rebuild => exact ⟨rfl, rfl⟩
  | reopen =>
    refine ⟨?_, rfl⟩
    simp only [perform, World.reopen_eq]
    rfl

/-- Renamed operations have the renamed answers. -/
theorem performAll_rename (s : Service) {ops ops' : List Operation}
    (same : List.Forall₂ (Operation.Renamed f) ops ops') :
    (s.rename f).performAll ops' =
        ((s.performAll ops).1.rename f, (s.performAll ops).2.map (Answer.rename f)) ∧
      (s.rename f).readings ops' = s.readings ops := by
  induction same generalizing s with
  | nil => exact ⟨rfl, rfl⟩
  | @cons op op' ops ops' first rest ih =>
    obtain ⟨performed, read⟩ := perform_rename distinct s first
    obtain ⟨performedAll, readAll⟩ := ih (s.perform op).1
    simp only [performAll, readings, performed, performedAll, read, readAll, List.map_cons,
      and_self]

end Service

/-! ## The result -/

/-- **Principals are not seen from outside.** Let a renaming make no two principals one. Whatever
the engine, the store of either kind, the clock, the transport and the plug-ins, and whatever
operations are done: if every principal is called by its other name, in the operations, in the
clients that are saved and in the store to begin with, then the same requests are sent in the same
order, the same plug-ins are asked and the clock is read at the same times; the answers, the store
and the log are the same but for the names. The same holds of calls side by side at every moment of
every interleaving. -/
theorem principals_unseen_outside {f : String → String} (distinct : Function.Injective f) :
    (∀ (s : Service) (ops ops' : List Operation), List.Forall₂ (Operation.Renamed f) ops ops' →
      let original := s.performAll ops
      let renamed := (s.rename f).performAll ops'
      renamed.1.world.sent = original.1.world.sent ∧
        renamed.1.world.asked = original.1.world.asked ∧
        (s.rename f).readings ops' = s.readings ops ∧
        renamed.1.world.clock = original.1.world.clock ∧
        renamed.2 = original.2.map (Answer.rename f) ∧
        renamed.1.world.shared.store = original.1.world.shared.store.rename f ∧
        renamed.1.world.log = original.1.world.log.map (LogEntry.rename f)) ∧
      ∀ (r : Engine.Interleaving) (n : Nat),
        ((r.rename f).observed n).sent = (r.observed n).sent ∧
          ((r.rename f).observed n).asked = (r.observed n).asked ∧
          ((r.rename f).observed n).readings = (r.observed n).readings ∧
          ((r.rename f).observed n).log = (r.observed n).log.map (LogEntry.rename f) ∧
          (r.rename f).scene n = (r.scene n).rename f := by
  constructor
  · intro s ops ops' same original renamed
    obtain ⟨performed, read⟩ := Service.performAll_rename distinct s same
    have copied : renamed = (original.1.rename f, original.2.map (Answer.rename f)) := performed
    rw [copied]
    exact ⟨rfl, rfl, read, rfl, rfl, rfl, rfl⟩
  · intro r n
    rw [Engine.observed_rename distinct, Engine.scene_rename distinct]
    exact ⟨rfl, rfl, rfl, rfl, rfl⟩

namespace Tenants

def registration : ClientRegistration :=
  { registrationId := "svc", clientId := "app", grantType := .clientCredentials,
    tokenUri := "/token" }

def answer : HttpAnswer where
  status := 200
  headers := []
  body := Utf8.encode "\x7b\"access_token\": \"tok-123456\"\x7d"

/-- A client of a principal, without an end. -/
def client (name : String) : AuthorizedClient where
  registration
  principalName := name
  accessToken := { value := "tok-0" }

/-- The authorization server gives a token. One principal has a client to begin with. -/
def service : Service where
  engine := ⟨.unlisted [registration], .builtIn {}, {}⟩
  world :=
    { clock := default
      tick := .steady 1000000
      transport _ := { reply := .answer answer }
      shared := { store := .memory [(⟨"svc", "carol"⟩, client "carol")] } }

def rename (name : String) : String := "tenant/" ++ name

theorem rename_injective : Function.Injective rename := by
  intro a b same
  have chars : "tenant/".toList ++ a.toList = "tenant/".toList ++ b.toList := by
    rw [← String.toList_append, ← String.toList_append]
    exact congrArg String.toList same
  exact String.toList_injective (List.append_cancel_left chars)

/-- A client is saved and given out, another one removed, and one is acquired. -/
def operations : List Operation :=
  [.save (client "bob"), .resolve "svc" (.named "bob"), .evict "svc" (.named "carol"),
    .resolve "svc" (.named "alice")]

/-- The same operations for principals of other names, one with attributes of its own. -/
def renamed : List Operation :=
  [.save ((client "bob").rename rename), .resolve "svc" (.named "tenant/bob"),
    .evict "svc" (.named "tenant/carol"),
    .resolve "svc" (.principal { name := "tenant/alice", attributes := [("admin", .bool true)] })]

theorem operations_renamed : List.Forall₂ (Operation.Renamed rename) operations renamed :=
  .cons (.save _) (.cons (.resolve "svc" (by decide)) (.cons (.evict "svc" (by decide))
    (.cons (.resolve "svc" (by decide)) .nil)))

end Tenants

open Tenants in
/-- Of three principals one has a client saved, one has one removed and one acquires one. With their
names changed the server sees the one request that it saw, and the store holds the same clients
under the other names. -/
theorem tenant_unseen_by_server :
    Function.Injective rename ∧
      (service.performAll operations).1.world.sent.length = 1 ∧
      ["alice", "bob", "carol"].map
          (fun name =>
            ((service.performAll operations).1.world.shared.store.entry ⟨"svc", name⟩).isSome) =
        [true, true, false] ∧
      ((service.rename rename).performAll renamed).1.world.sent =
        (service.performAll operations).1.world.sent ∧
      ((service.rename rename).performAll renamed).2 =
        (service.performAll operations).2.map (Answer.rename rename) ∧
      ((service.rename rename).performAll renamed).1.world.shared.store =
        (service.performAll operations).1.world.shared.store.rename rename := by
  obtain ⟨sent, -, -, -, answers, store, -⟩ :=
    (principals_unseen_outside rename_injective).1 service operations renamed operations_renamed
  exact ⟨rename_injective, by decide +kernel, by decide +kernel, sent, answers, store⟩

end TokenBroker
