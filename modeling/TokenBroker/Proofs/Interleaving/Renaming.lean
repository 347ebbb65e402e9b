import TokenBroker.Proofs.Engine.Renaming
import TokenBroker.Proofs.Interleaving.Observed

/-!
# Calls side by side for principals of other names

An interleaving in which every principal has another name goes through the renamed scenes
(`Interleaving.scene_rename`), and the same is seen of it but for the names in the log
(`Interleaving.observed_rename`).
-/

namespace TokenBroker

namespace Engine

variable (f : String → String)

/-- A call for a principal of another name. -/
def Call.rename (c : Call) : Call := ⟨c.key.rename f, c.phase.rename f⟩

/-- A scene with the principals renamed. -/
def Scene.rename (s : Scene) : Scene := ⟨s.clock, s.shared.rename f, s.calls.map (Call.rename f)⟩

/-- An event with the principals renamed. -/
def Event.rename : Event → Event
  | .begin key => .begin (key.rename f)
  | .step i env => .step i (env.rename f)
  | .evict key => .evict (key.rename f)
  | .save c => .save (c.rename f)
  | .tick now => .tick now
  | .pause => .pause

/-- An interleaving with the principals renamed, in the store as in all that happens. -/
def Interleaving.rename (r : Interleaving) : Interleaving where
  engine := r.engine
  clock := r.clock
  store := r.store.rename f
  event n := (r.event n).rename f

/-- What has been seen, with the principals renamed. -/
def Observed.rename (o : Observed) : Observed := { o with log := o.log.map (LogEntry.rename f) }

theorem posts_rename (p : Phase) : (p.rename f).posts = p.posts := by
  cases p with
  | receiving a p issuedAt sent ticket => cases sent <;> rfl
  | _ => rfl

theorem asks_rename (p : Phase) : (p.rename f).asks = p.asks := by
  cases p with
  | receiving a p issuedAt sent ticket => cases sent <;> rfl
  | _ => rfl

theorem readsClock_rename (p : Phase) : (p.rename f).readsClock = p.readsClock := by
  cases p <;> rfl

/-- A step of a renamed call shows the renamed observations. -/
theorem observed_after_rename (o : Observed) (now : DateTime) (p : Phase) (next : Step) :
    (o.rename f).after now (p.rename f) (next.rename f) = (o.after now p next).rename f := by
  simp only [Observed.after, Observed.rename, Step.rename, posts_rename, asks_rename,
    readsClock_rename, List.map_append]

variable {f} (distinct : Function.Injective f)
include distinct

/-- A renamed event takes the renamed step. -/
theorem taken_rename (e : Engine) (s : Scene) (ev : Event) :
    (s.rename f).taken e (ev.rename f) =
      (s.taken e ev).map fun x => (x.1.rename f, x.2.rename f) := by
  cases ev with
  | step i env =>
    have now : { env.rename f with now := s.clock } =
      Surroundings.rename f { env with now := s.clock } := rfl
    simp only [Scene.taken, Event.rename, Scene.rename, List.getElem?_map]
    cases s.calls[i]? with
    | none => rfl
    | some c =>
      simp only [Option.map_some, Option.bind_some, Call.rename, now, step_rename distinct]
      cases e.step c.key { env with now := s.clock } s.shared c.phase <;> rfl
  | _ => rfl

/-- A renamed event leads to the renamed scene. -/
theorem after_rename (e : Engine) (s : Scene) (ev : Event) :
    (s.rename f).after e (ev.rename f) = (s.after e ev).rename f := by
  cases ev with
  | begin key =>
    simp [Scene.after, Event.rename, Scene.rename, Call.rename, start_rename]
  | step i env =>
    have now : { env.rename f with now := s.clock } =
      Surroundings.rename f { env with now := s.clock } := rfl
    simp only [Scene.after, Event.rename, Scene.rename, List.getElem?_map]
    cases s.calls[i]? with
    | none => simp
    | some c =>
      simp only [Option.map_some, Call.rename, now, step_rename distinct]
      cases e.step c.key { env with now := s.clock } s.shared c.phase with
      | none => rfl
      | some next => simp [Step.rename, Call.rename, List.map_set]
  | evict key =>
    simp only [Scene.after, Event.rename, Scene.rename, Shared.rename, Store.remove_rename distinct]
  | save c =>
    simp only [Scene.after, Event.rename, Scene.rename, Shared.rename, Store.save_rename distinct]
  | tick | pause => rfl

/-- A renamed interleaving goes through the renamed scenes. -/
theorem scene_rename (r : Interleaving) (n : Nat) :
    (r.rename f).scene n = (r.scene n).rename f := by
  induction n with
  | zero => rfl
  | succ n ih =>
    show ((r.rename f).scene n).after r.engine ((r.event n).rename f) = _
    rw [ih, after_rename distinct]
    rfl

/-- Of a renamed interleaving the renamed observations are made. -/
theorem observed_rename (r : Interleaving) (n : Nat) :
    (r.rename f).observed n = (r.observed n).rename f := by
  induction n with
  | zero => rfl
  | succ n ih =>
    have clock : ((r.rename f).scene n).clock = (r.scene n).clock := by
      rw [scene_rename distinct]
      rfl
    have taken : ((r.rename f).scene n).taken (r.rename f).engine ((r.rename f).event n) =
        ((r.scene n).taken r.engine (r.event n)).map fun x => (x.1.rename f, x.2.rename f) := by
      rw [scene_rename distinct]
      exact taken_rename distinct r.engine (r.scene n) (r.event n)
    simp only [Interleaving.observed, clock, taken, ih]
    cases (r.scene n).taken r.engine (r.event n) with
    | none => rfl
    | some x => exact observed_after_rename f _ _ _ _

end Engine

end TokenBroker
