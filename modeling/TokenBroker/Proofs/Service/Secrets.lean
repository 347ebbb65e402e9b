import TokenBroker.Proofs.Engine.Secrets
import TokenBroker.Proofs.Service.Basic

/-!
# Services of twin engines

The same operations with two engines that differ in secrets at most, on stores on disk with the same
entries. Each operation leaves twin worlds (`Service.perform_twins`): the same entries, the same
log, the same clock and the same calls to plug-ins, and requests that differ in credentials at most.
The answers are the same faults, or clients that differ in a secret at most.
-/

namespace TokenBroker

variable (e e' : Engine)

/-- Two worlds with stores on disk that differ in secrets at most. -/
def World.Twins (w w' : World) : Prop :=
  ∃ shared sent, Engine.Shared.Twins e e' w.shared shared ∧
    List.Forall₂ (HttpRequest.SameButCredential e e') w.sent sent ∧ w' = { w with shared, sent }

/-- Two services of twin engines whose worlds differ in secrets at most. -/
structure Service.Twins (s s' : Service) : Prop where
  engine : s.engine = e
  engine' : s'.engine = e'
  world : World.Twins e e' s.world s'.world

/-- Two answers: the same fault or the same success, or clients that differ in a secret at most. -/
inductive Answer.Twins : Answer → Answer → Prop
  | outcome {o o' : Option Outcome} (same : Option.Rel (Outcome.Twins e e') o o') :
      Twins (.outcome o) (.outcome o')
  | written (result : Except Fault Unit) : Twins (.written result) (.written result)
  | done : Twins .done .done

/-- An operation by which another engine takes over. -/
def Operation.isRebuild : Operation → Bool
  | .rebuild _ => true
  | _ => false

variable {e e' : Engine} {w w' : World} {p p' : Engine.Phase} {key : Key}

namespace World

theorem needOf_twins (h : Engine.Phase.Twins e e' p p') : needOf p' = needOf p := by
  cases h with
  | receiving a h issuedAt same ticket => cases same <;> rfl
  | _ => rfl

theorem Twins.shared (h : World.Twins e e' w w') : Engine.Shared.Twins e e' w.shared w'.shared := by
  obtain ⟨shared, sent, shares, sends, rfl⟩ := h
  exact shares

/-- Twin worlds supply their calls alike. -/
theorem supply_twins (h : World.Twins e e' w w') (n : Need) :
    (w'.supply n).1 = (w.supply n).1 ∧ World.Twins e e' (w.supply n).2 (w'.supply n).2 := by
  obtain ⟨shared, sent, shares, sends, rfl⟩ := h
  cases n with
  | load =>
    simp only [supply]
    split
    · exact ⟨rfl, _, _, shares, sends, rfl⟩
    · split
      · exact ⟨rfl, _, _, shares, sends, rfl⟩
      · exact ⟨rfl, _, _, shares, sends, rfl⟩
  | ticket =>
    simp only [supply, sends.length_eq]
    exact ⟨rfl, _, _, shares, sends, rfl⟩
  | nothing | save | remove | clock | reply | response => exact ⟨rfl, _, _, shares, sends, rfl⟩

/-- Twin worlds stay twins when they take up twin steps. -/
theorem absorb_twins (h : World.Twins e e' w w') {x x' : Engine.Step}
    (steps : Engine.Step.Twins e e' x x') :
    World.Twins e e' (w.absorb x).1 (w'.absorb x').1 ∧
      Engine.Phase.Twins e e' (w.absorb x).2 (w'.absorb x').2 := by
  obtain ⟨shared, sent, -, sends, rfl⟩ := h
  have phases := steps.phase
  have logged : x.log = x'.log := steps.log
  refine ⟨?_, phases⟩
  simp only [absorb, logged]
  revert phases
  generalize x.phase = p, x'.phase = p'
  intro phases
  cases phases with
  | receiving a h issuedAt same ticket =>
    cases same with
    | post same scopes => exact ⟨_, _, steps.shared, List.rel_append sends (.cons same .nil), rfl⟩
    | ask number => exact ⟨_, _, steps.shared, sends, rfl⟩
  | _ => exact ⟨_, _, steps.shared, sends, rfl⟩

/-- Twin calls take twin steps in twin worlds. -/
theorem step_twins (engines : e.Twins e') (h : World.Twins e e' w w')
    (phases : Engine.Phase.Twins e e' p p') (key : Key) :
    Option.Rel (fun x x' => World.Twins e e' x.1 x'.1 ∧ Engine.Phase.Twins e e' x.2 x'.2)
      (w.step e key p) (w'.step e' key p') := by
  obtain ⟨supplied, worlds⟩ := supply_twins h (needOf p)
  rw [step_eq, step_eq, needOf_twins phases, supplied]
  have steps := Engine.step_twins engines worlds.shared phases key (w.supply (needOf p)).1
  revert steps
  generalize e.step key _ _ p = x, e'.step key _ _ p' = x'
  rintro (⟨steps⟩ | _)
  · exact .some (absorb_twins worlds steps)
  · exact .none

/-- Twin calls run through twin steps. -/
theorem run_twins (engines : e.Twins e') (h : World.Twins e e' w w')
    (phases : Engine.Phase.Twins e e' p p') (key : Key) (fuel : Nat) :
    World.Twins e e' (w.run e key (fun _ => false) fuel p).1
      (w'.run e' key (fun _ => false) fuel p').1 ∧
      Engine.Phase.Twins e e' (w.run e key (fun _ => false) fuel p).2
        (w'.run e' key (fun _ => false) fuel p').2 := by
  induction fuel generalizing w w' p p' with
  | zero => exact ⟨h, phases⟩
  | succ fuel ih =>
    have steps := step_twins engines h phases key
    simp only [run, Bool.false_eq_true, if_false]
    revert steps
    generalize w.step e key p = x, w'.step e' key p' = x'
    rintro (⟨worlds, phases⟩ | _)
    · exact ih worlds phases
    · exact ⟨h, phases⟩

/-- Twin calls have twin outcomes. -/
theorem resolve_twins (engines : e.Twins e') (h : World.Twins e e' w w') (key : Key) :
    World.Twins e e' (w.resolve e key).1 (w'.resolve e' key).1 ∧
      Option.Rel (Outcome.Twins e e') (w.resolve e key).2 (w'.resolve e' key).2 := by
  have starts := Engine.start_twins engines key
  obtain ⟨worlds, phases⟩ := run_twins engines h starts key (e.start key).rank
  simp only [resolve, runOut, starts.rank]
  refine ⟨worlds, ?_⟩
  revert phases
  generalize (w.run e key (fun _ => false) (e.start key).rank (e.start key)).2 = p,
    (w'.run e' key (fun _ => false) (e.start key).rank (e'.start key)).2 = p'
  intro phases
  cases phases with
  | finished outcomes => exact .some outcomes
  | _ => exact .none

/-- Evictions leave twin worlds twins. -/
theorem evict_twins (h : World.Twins e e' w w') (key : Key) :
    World.Twins e e' (w.evict key).1 (w'.evict key).1 ∧ (w'.evict key).2 = (w.evict key).2 := by
  obtain ⟨shared, sent, shares, sends, rfl⟩ := h
  simp only [evict]
  cases w.trouble.remove with
  | some fault => exact ⟨⟨_, _, shares, sends, rfl⟩, rfl⟩
  | none => exact ⟨⟨_, _, shares.remove key, sends, rfl⟩, rfl⟩

/-- Saves leave twin worlds twins. -/
theorem save_twins (h : World.Twins e e' w w') (c : AuthorizedClient) :
    World.Twins e e' (w.save c).1 (w'.save c).1 ∧ (w'.save c).2 = (w.save c).2 := by
  obtain ⟨shared, sent, shares, sends, rfl⟩ := h
  simp only [save]
  cases w.trouble.save with
  | some fault => exact ⟨⟨_, _, shares, sends, rfl⟩, rfl⟩
  | none => exact ⟨⟨_, _, shares.save rfl rfl, sends, rfl⟩, rfl⟩

end World

namespace Service

variable {s s' : Service}

/-- An operation is answered by twin services with twin answers. -/
theorem perform_twins (engines : e.Twins e') (h : Service.Twins e e' s s') {op : Operation}
    (keeps : op.isRebuild = false) :
    Service.Twins e e' (s.perform op).1 (s'.perform op).1 ∧
      Answer.Twins e e' (s.perform op).2 (s'.perform op).2 := by
  obtain ⟨rfl, rfl, worlds⟩ := h
  cases op with
  | resolve id requester =>
    obtain ⟨worlds, outcomes⟩ := World.resolve_twins engines worlds ⟨id, requester.principalName⟩
    exact ⟨⟨rfl, rfl, worlds⟩, .outcome outcomes⟩
  | evict id requester =>
    obtain ⟨worlds, results⟩ := World.evict_twins worlds ⟨id, requester.principalName⟩
    refine ⟨⟨rfl, rfl, worlds⟩, ?_⟩
    simp only [perform, results]
    exact .written _
  | save c =>
    obtain ⟨worlds, results⟩ := World.save_twins worlds c
    refine ⟨⟨rfl, rfl, worlds⟩, ?_⟩
    simp only [perform, results]
    exact .written _
  | advance micros =>
    obtain ⟨shared, sent, shares, sends, same⟩ := worlds
    refine ⟨⟨rfl, rfl, shared, sent, shares, sends, ?_⟩, .done⟩
    simp only [perform, same]
    rfl
  | reopen =>
    refine ⟨⟨rfl, rfl, ?_⟩, .done⟩
    simp only [perform, World.reopen_eq]
    exact worlds
  | rebuild e => cases keeps

/-- A list of operations is answered by twin services with twin answers. -/
theorem performAll_twins (engines : e.Twins e') (h : Service.Twins e e' s s') {ops : List Operation}
    (keep : ∀ op ∈ ops, op.isRebuild = false) :
    Service.Twins e e' (s.performAll ops).1 (s'.performAll ops).1 ∧
      List.Forall₂ (Answer.Twins e e') (s.performAll ops).2 (s'.performAll ops).2 := by
  induction ops generalizing s s' with
  | nil => exact ⟨h, .nil⟩
  | cons op ops ih =>
    obtain ⟨services, answers⟩ := perform_twins engines h (keep op List.mem_cons_self)
    obtain ⟨services', rest⟩ :=
      ih services fun op' member => keep op' (List.mem_cons_of_mem op member)
    exact ⟨services', .cons answers rest⟩

end Service

end TokenBroker
