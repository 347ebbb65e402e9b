import TokenBroker.Proofs.Engine.Secrets
import TokenBroker.Proofs.Interleaving.Observed

/-!
# Calls of twin engines side by side

Two engines that differ in secrets at most, on stores on disk with the same entries, while the same
things happen to both: they go through twin scenes (`Interleaving.scene_twins`), and what is seen of
one is seen of the other, but for the credentials in its requests (`Interleaving.observed_twins`).
-/

namespace TokenBroker

namespace Engine

/-- Two calls for one key at twin phases. -/
structure Call.Twins (e e' : Engine) (c c' : Call) : Prop where
  key : c'.key = c.key
  phase : Phase.Twins e e' c.phase c'.phase

/-- Two scenes that differ in secrets at most. -/
structure Scene.Twins (e e' : Engine) (s s' : Scene) : Prop where
  clock : s'.clock = s.clock
  shared : Shared.Twins e e' s.shared s'.shared
  calls : List.Forall₂ (Call.Twins e e') s.calls s'.calls

/-- What has been seen of two engines, the same but for credentials. -/
structure Observed.Twins (e e' : Engine) (o o' : Observed) : Prop where
  sent : List.Forall₂ (HttpRequest.SameButCredential e e') o.sent o'.sent
  asked : o'.asked = o.asked
  readings : o'.readings = o.readings
  log : o'.log = o.log

variable {e e' : Engine} {s s' : Scene} {o o' : Observed} {p p' : Phase} {x x' : Step}

/-- Twin calls send requests that differ in the credential only. -/
theorem posts_twins (h : Phase.Twins e e' p p') :
    List.Forall₂ (HttpRequest.SameButCredential e e') p.posts p'.posts := by
  cases h with
  | receiving a h issuedAt same ticket =>
    cases same with
    | post same => exact .cons same .nil
    | ask => exact .nil
  | _ => exact .nil

theorem asks_twins (h : Phase.Twins e e' p p') : p'.asks = p.asks := by
  cases h with
  | receiving a h issuedAt same ticket => cases same <;> rfl
  | _ => rfl

theorem readsClock_twins (h : Phase.Twins e e' p p') : p'.readsClock = p.readsClock := by
  cases h <;> rfl

/-- A step of twin calls shows observations that differ in the credential only. -/
theorem observed_after_twins (h : Observed.Twins e e' o o') (now : DateTime)
    (phases : Phase.Twins e e' p p') (steps : Step.Twins e e' x x') :
    Observed.Twins e e' (o.after now p x) (o'.after now p' x') where
  sent := List.rel_append h.sent (posts_twins steps.phase)
  asked := by simp only [Observed.after, h.asked, asks_twins steps.phase]
  readings := by simp only [Observed.after, h.readings, readsClock_twins phases]
  log := by
    have logged : x.log = x'.log := steps.log
    simp only [Observed.after, h.log, logged]

/-- Both engines take a step with an event, or neither does. -/
theorem taken_twins (engines : e.Twins e') (h : Scene.Twins e e' s s') (ev : Event) :
    Option.Rel (fun x x' => Phase.Twins e e' x.1 x'.1 ∧ Step.Twins e e' x.2 x'.2)
      (s.taken e ev) (s'.taken e' ev) := by
  cases ev with
  | step i env =>
    have calls := h.calls.getElem? i
    simp only [Scene.taken]
    revert calls
    generalize s.calls[i]? = c, s'.calls[i]? = c'
    rintro (⟨calls⟩ | _)
    · rename_i c c'
      have steps := step_twins engines h.shared calls.phase c.key { env with now := s.clock }
      simp only [Option.bind_some, calls.key, h.clock]
      revert steps
      generalize e.step c.key { env with now := s.clock } s.shared c.phase = x,
        e'.step c.key { env with now := s.clock } s'.shared c'.phase = x'
      rintro (⟨steps⟩ | _)
      · exact .some ⟨calls.phase, steps⟩
      · exact .none
    · exact .none
  | _ => exact .none

/-- Twin scenes stay twins along an event. -/
theorem after_twins (engines : e.Twins e') (h : Scene.Twins e e' s s') (ev : Event) :
    Scene.Twins e e' (s.after e ev) (s'.after e' ev) := by
  cases ev with
  | begin key =>
    exact ⟨h.clock, h.shared, List.rel_append h.calls (.cons ⟨rfl, start_twins engines key⟩ .nil)⟩
  | step i env =>
    have calls := h.calls.getElem? i
    simp only [Scene.after]
    revert calls
    generalize s.calls[i]? = c, s'.calls[i]? = c'
    rintro (⟨calls⟩ | _)
    · rename_i c c'
      have steps := step_twins engines h.shared calls.phase c.key { env with now := s.clock }
      simp only [calls.key, h.clock]
      revert steps
      generalize e.step c.key { env with now := s.clock } s.shared c.phase = x,
        e'.step c.key { env with now := s.clock } s'.shared c'.phase = x'
      rintro (⟨steps⟩ | _)
      · exact ⟨rfl, steps.shared, h.calls.set i ⟨rfl, steps.phase⟩⟩
      · exact h
    · exact h
  | evict key => exact ⟨h.clock, h.shared.remove key, h.calls⟩
  | save c => exact ⟨h.clock, h.shared.save rfl rfl, h.calls⟩
  | tick now => exact ⟨rfl, h.shared, h.calls⟩
  | pause => exact h

variable (engines : e.Twins e') (clock : DateTime) (values : Table Key Json) (event : Nat → Event)
include engines

/-- Twin interleavings go through twin scenes. -/
theorem scene_twins (n : Nat) :
    Scene.Twins e e' ((Interleaving.mk e clock (.disk values) event).scene n)
      ((Interleaving.mk e' clock (.disk values) event).scene n) := by
  induction n with
  | zero => exact ⟨rfl, ⟨rfl, rfl, rfl, .nil⟩, .nil⟩
  | succ n ih => exact after_twins engines ih (event n)

/-- Of twin interleavings the observations differ in the credential only. -/
theorem observed_twins (n : Nat) :
    Observed.Twins e e' ((Interleaving.mk e clock (.disk values) event).observed n)
      ((Interleaving.mk e' clock (.disk values) event).observed n) := by
  induction n with
  | zero => exact ⟨.nil, rfl, rfl, rfl⟩
  | succ n ih =>
    have scenes := scene_twins engines clock values event n
    have steps := taken_twins engines scenes (event n)
    simp only [Interleaving.observed, scenes.clock]
    revert steps
    generalize Scene.taken e _ (event n) = x, Scene.taken e' _ (event n) = x'
    rintro (⟨phases, steps⟩ | _)
    · exact observed_after_twins ih _ phases steps
    · exact ih

end Engine

end TokenBroker
