import TokenBroker.Proofs.Engine.Dispatch
import TokenBroker.Proofs.Engine.Raising
import TokenBroker.Proofs.Interleaving.Origins

/-!
# Where faults come from

A call that ends with a fault was for a registration that is not known, or the fault was raised for
it: by a step of the call itself, or by one of the leader of an attempt that it waits for
(`Interleaving.raised_of_failed`). No exchange fails because its request is one for another client
(`Interleaving.dispatched`).
-/

namespace TokenBroker

namespace Engine

namespace Interleaving

variable {r : Interleaving} {k : Key} {i j a m n : Nat} {p : Phase} {fault : Fault}

/-- From planning to the reply every call holds a plan for the right client. -/
theorem dispatched (h : (r.scene n).calls[i]? = some ⟨k, p⟩) : p.Dispatched r.engine :=
  each_phase (dispatched_start r.engine k) (fun move => move.dispatched) h

/-- With event `m` a fault is raised for call `i` of a key: by a step of the call itself, or by one
of the leader of an attempt that the call waits for. -/
def RaisesFor (r : Interleaving) (m i : Nat) (k : Key) (fault : Fault) : Prop :=
  ∃ j env p, r.event m = .step j env ∧ (r.scene m).calls[j]? = some ⟨k, p⟩ ∧ r.ActsFor j p i k ∧
    Raises r.engine k { env with now := (r.scene m).clock } (r.scene m).shared p fault

/-- A fault that a leader publishes was raised by the leader. -/
theorem raised_of_publishing (h : (r.scene m).calls[j]? = some ⟨k, .publishing a (.error fault)⟩)
    (acts : r.ActsFor j (.publishing a (.error fault)) i k) :
    ∃ m' < m, r.RaisesFor m' i k fault := by
  obtain ⟨m₁, h₁, env, p, hev, at_p, -, move⟩ :=
    stepped_to h (start_ne (fun _ => nofun) fun _ => nofun)
  have acts := acts.of_leads move.leads_of_publishing
  rcases move.to_publishing_error with raises | ⟨f, rfl, rfl⟩
  · exact ⟨m₁, h₁, j, env, p, hev, at_p, acts, raises⟩
  · -- one step further back, where the refusal came in
    obtain ⟨m₀, h₀, env₀, p₀, hev₀, at_p₀, -, move₀⟩ :=
      stepped_to at_p (start_ne (fun _ => nofun) fun _ => nofun)
    have acts := acts.of_leads move₀.leads_of_dropping
    exact ⟨m₀, Nat.lt_trans h₀ h₁, j, env₀, p₀, hev₀, at_p₀, acts, move₀.to_dropping⟩

/-- Every fault that a call ends with was raised for it, unless the registration is not known. -/
theorem raised_of_failed (failed : (r.scene n).calls[i]? = some ⟨k, .finished (.error fault)⟩) :
    (r.engine.source.find? k.registrationId = none ∧
        fault = .failure (.unknownRegistration k.registrationId)) ∨
      ∃ m < n, r.RaisesFor m i k fault := by
  by_cases start : r.engine.start k = .finished (.error fault)
  · left
    unfold Engine.start at start
    cases known : r.engine.source.find? k.registrationId with
    | none =>
      rw [known] at start
      cases start
      exact ⟨rfl, rfl⟩
    | some reg =>
      rw [known] at start
      cases start
  · right
    obtain ⟨m, hm, env, p, hev, at_p, -, move⟩ := stepped_to failed start
    rcases move.to_failed with raises | ⟨a, rfl, heard⟩ | ⟨a, rfl⟩
    · exact ⟨m, hm, i, env, p, hev, at_p, .inl rfl, raises⟩
    · obtain ⟨m', hm', j, l, published⟩ := published_from heard
      -- the attempt is one for the key of the call that waits
      obtain ⟨q, -, j', led⟩ := waits_leader (Scene.stands_waits_iff.2 at_p)
      obtain ⟨-, rfl⟩ := leader_of_attempt ⟨_, published, rfl⟩ led
      obtain ⟨m₀, h₀, raised⟩ := raised_of_publishing published (.inr ⟨a, m, rfl, at_p⟩)
      exact ⟨m₀, by omega, raised⟩
    · obtain ⟨m', hm', _, _, -, at_p', -, move'⟩ :=
        stepped_to at_p (start_ne (fun _ => nofun) fun _ => nofun)
      obtain rfl := move'.to_releasing
      obtain ⟨m₀, h₀, raised⟩ := raised_of_publishing at_p' (.inl rfl)
      exact ⟨m₀, by omega, raised⟩

end Interleaving

end Engine

end TokenBroker
