import Mathlib.Data.Option.Basic
import TokenBroker.Proofs.Engine.Likeness
import TokenBroker.Proofs.Store.Entries

/-!
# Steps on stores with the same entries

A call has no view of the store but the entries that it loads. On two stores with the same entries
it takes the same step, to the same phase, and leaves stores with the same entries
(`Engine.step_sameEntries`). What it logs may differ: a value that cannot be read is mentioned when
it is dropped.
-/

namespace TokenBroker

namespace Engine

variable {key : Key} {env : Surroundings} {s t : Shared}

/-- Two shared states that differ in their stores only, which hold the same entries. -/
structure Shared.SameEntries (s t : Shared) : Prop where
  store : s.store.Same t.store
  inFlight : s.inFlight = t.inFlight
  outcomes : s.outcomes = t.outcomes

/-- Two steps to one phase, which leave stores with the same entries. -/
structure Step.SameEntries (x y : Step) : Prop where
  shared : x.shared.SameEntries y.shared
  phase : x.phase = y.phase

namespace Shared.SameEntries

variable (h : s.SameEntries t)
include h

theorem withStore {u v : Store} (same : u.Same v) :
    SameEntries { s with store := u } { t with store := v } :=
  ⟨same, h.inFlight, h.outcomes⟩

/-- Both loads raise alike, or give the same client. -/
theorem load (env : Surroundings) (key : Key) :
    Except.Like Eq (fun x x' => Option.Rel Eq x.1 x'.1 ∧ x.2.1.SameEntries x'.2.1 ∧ True)
      (Engine.load env s key) (Engine.load env t key) := by
  unfold Engine.load
  cases env.storeFault with
  | some fault => exact .error rfl
  | none =>
    cases env.hidden with
    | true => exact .ok ⟨.none, h, trivial⟩
    | false =>
      have client : (s.store.load key).client = (t.store.load key).client := h.store.entry key
      refine .ok ⟨?_, h.withStore (h.store.load key), trivial⟩
      show Option.Rel Eq (s.store.load key).client (t.store.load key).client
      rw [client]
      exact .refl (fun _ => rfl) _

/-- Shared states with the same entries serve the steps of a call in the same way. -/
theorem shares (env : Surroundings) (key : Key) :
    Likeness.unlogged.Shares key key env env Eq SameEntries (fun _ _ => Eq) s t where
  kept := h
  grown _ number := number
  load := h.load env key
  taken := by
    rw [h.inFlight]
    exact .refl (fun _ => rfl) _
  take := by
    rw [h.inFlight, h.outcomes]
    exact ⟨⟨h.store, rfl, rfl⟩, rfl⟩
  outcome := by
    rintro a - rfl
    rw [h.outcomes]
    exact .refl (.refl fun _ => rfl) _
  remove := h.withStore (h.store.remove key)
  save := by
    rintro c - rfl
    exact h.withStore (h.store.save c)
  publish := by
    rintro a - o - rfl rfl
    exact ⟨h.store, h.inFlight, congrArg (List.set · a (some o)) h.outcomes⟩
  giveBack := ⟨h.store, congrArg (Table.erase · key) h.inFlight, h.outcomes⟩

end Shared.SameEntries

/-- A step of a call depends on the entries of the store only. -/
theorem step_sameEntries (e : Engine) (key : Key) (env : Surroundings) (h : s.SameEntries t)
    (p : Phase) :
    Option.Rel Step.SameEntries (e.step key env s p) (e.step key env t p) := by
  have steps := Likeness.Lasts.step
    ⟨.unlogged e key, .unlogged key, .unlogged key, .unlogged env, h.shares env key⟩ (.refl p)
  revert steps
  generalize e.step key env s p = x, e.step key env t p = y
  rintro (⟨stores, phases, -⟩ | _)
  · exact .some ⟨stores, phases.eq⟩
  · exact .none

end Engine

end TokenBroker
