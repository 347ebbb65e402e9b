import TokenBroker.Proofs.Engine.Tokens
import TokenBroker.Proofs.Service.Basic

/-!
# Worlds with other tokens

Two worlds differ in tokens at most if their stores do, and their transports give answers that do,
as late as each other. A call of one engine leaves worlds of the kind, with the same log, and
outcomes that differ in tokens at most (`World.resolve_tokens`).
-/

namespace TokenBroker

/-- Two deliveries, as late as each other, whose replies differ in tokens at most. -/
structure Delivery.SameButTokens (d d' : Delivery) : Prop where
  reply : d.reply.SameButTokens d'.reply
  elapsed : d'.elapsed = d.elapsed

/-- Two worlds that differ in tokens at most. They have sent as many requests, which need not be the
same. -/
def World.SameButTokens (w w' : World) : Prop :=
  ∃ transport shared sent, (∀ n, (w.transport n).SameButTokens (transport n)) ∧
  w.shared.SameButTokens shared ∧
    sent.length = w.sent.length ∧ w' = { w with transport, shared, sent }

namespace World

variable {w w' : World} {p p' : Engine.Phase}

theorem SameButTokens.shared (h : w.SameButTokens w') : w.shared.SameButTokens w'.shared := by
  obtain ⟨transport, shared, sent, -, shares, -, rfl⟩ := h
  exact shares

theorem SameButTokens.log (h : w.SameButTokens w') : w'.log = w.log := by
  obtain ⟨transport, shared, sent, -, -, -, rfl⟩ := h
  rfl

theorem SameButTokens.clock (h : w.SameButTokens w') : w'.clock = w.clock := by
  obtain ⟨transport, shared, sent, -, -, -, rfl⟩ := h
  rfl

theorem SameButTokens.withShared (h : w.SameButTokens w') {s s' : Engine.Shared}
    (shares : s.SameButTokens s') :
    SameButTokens { w with shared := s } { w' with shared := s' } := by
  obtain ⟨transport, shared, sent, delivers, -, sends, rfl⟩ := h
  exact ⟨transport, s', sent, delivers, shares, sends, rfl⟩

theorem SameButTokens.note (h : w.SameButTokens w') (entries : List LogEntry) :
    SameButTokens { w with log := w.log ++ entries } { w' with log := w'.log ++ entries } := by
  obtain ⟨transport, shared, sent, delivers, shares, sends, rfl⟩ := h
  exact ⟨transport, shared, sent, delivers, shares, sends, rfl⟩

/-- What a call needs does not depend on its tokens. -/
theorem needOf_tokens (h : p.SameButTokens p') : needOf p' = needOf p := by
  cases h with
  | receiving a h issuedAt same ticket => cases same <;> rfl
  | _ => rfl

/-- Worlds that differ in tokens only supply their calls with what differs in tokens only. -/
theorem supply_tokens (h : w.SameButTokens w') (n : Need) :
    (w.supply n).1.SameButTokens (w'.supply n).1 ∧
    (w.supply n).2.SameButTokens (w'.supply n).2 := by
  obtain ⟨transport, shared, sent, delivers, shares, sends, rfl⟩ := h
  have kept : w.SameButTokens { w with transport, shared, sent } :=
    ⟨transport, shared, sent, delivers, shares, sends, rfl⟩
  cases n with
  | load =>
    simp only [supply]
    split
    · exact ⟨⟨_, .same _, rfl⟩, kept⟩
    · split
      · exact ⟨⟨_, .same _, rfl⟩, kept⟩
      · exact ⟨⟨_, .same _, rfl⟩, transport, shared, sent, delivers, shares, sends, rfl⟩
  | ticket =>
    simp only [supply, sends]
    exact ⟨⟨_, .same _, rfl⟩, kept⟩
  | reply ticket =>
    simp only [supply, (delivers ticket).elapsed]
    exact ⟨⟨_, (delivers ticket).reply, rfl⟩, transport, shared, sent, delivers, shares, sends, rfl⟩
  | clock => exact ⟨⟨_, .same _, rfl⟩, transport, shared, sent, delivers, shares, sends, rfl⟩
  | nothing | save | remove | response => exact ⟨⟨_, .same _, rfl⟩, kept⟩

/-- Worlds that differ in tokens only do so after they have taken up a step. -/
theorem absorb_tokens (h : w.SameButTokens w') {x x' : Engine.Step} (steps : x.SameButTokens x') :
    (w.absorb x).1.SameButTokens (w'.absorb x').1 ∧
    (w.absorb x).2.SameButTokens (w'.absorb x').2 := by
  obtain ⟨transport, shared, sent, delivers, -, sends, rfl⟩ := h
  have phases := steps.phase
  have logged : x.log = x'.log := steps.log
  refine ⟨?_, phases⟩
  simp only [absorb, logged]
  revert phases
  generalize x.phase = p, x'.phase = p'
  intro phases
  cases phases with
  | receiving a h issuedAt same ticket =>
    cases same with
    | @post http http' url scopes =>
      exact ⟨transport, _, sent ++ [http'], delivers, steps.shared,
        by simp only [note, List.length_append, sends]; rfl, rfl⟩
    | ask number => exact ⟨transport, _, sent, delivers, steps.shared, sends, rfl⟩
  | _ => exact ⟨transport, _, sent, delivers, steps.shared, sends, rfl⟩

/-- A call in worlds that differ in tokens only takes steps that differ in tokens only. -/
theorem step_tokens (e : Engine) (h : w.SameButTokens w') (phases : p.SameButTokens p')
    (key : Key) :
    Option.Rel (fun x x' => x.1.SameButTokens x'.1 ∧ x.2.SameButTokens x'.2) (w.step e key p)
      (w'.step e key p') := by
  obtain ⟨envs, worlds⟩ := supply_tokens h (needOf p)
  rw [step_eq, step_eq, needOf_tokens phases]
  have steps := Engine.step_tokens e worlds.shared phases key envs
  revert steps
  generalize e.step key _ _ p = x, e.step key _ _ p' = x'
  rintro (⟨steps⟩ | _)
  · exact .some (absorb_tokens worlds steps)
  · exact .none

/-- A call in worlds that differ in tokens only runs through steps that differ in tokens only. -/
theorem run_tokens (e : Engine) (h : w.SameButTokens w') (phases : p.SameButTokens p') (key : Key)
    (fuel : Nat) :
    (w.run e key (fun _ => false) fuel p).1.SameButTokens
      (w'.run e key (fun _ => false) fuel p').1 ∧
      (w.run e key (fun _ => false) fuel p).2.SameButTokens
        (w'.run e key (fun _ => false) fuel p').2 := by
  induction fuel generalizing w w' p p' with
  | zero => exact ⟨h, phases⟩
  | succ fuel ih =>
    have steps := step_tokens e h phases key
    simp only [run, Bool.false_eq_true, if_false]
    revert steps
    generalize w.step e key p = x, w'.step e key p' = x'
    rintro (⟨worlds, phases⟩ | _)
    · exact ih worlds phases
    · exact ⟨h, phases⟩

/-- A call in worlds that differ in tokens only has outcomes that differ in tokens only. -/
theorem resolve_tokens (e : Engine) (h : w.SameButTokens w') (key : Key) :
    (w.resolve e key).1.SameButTokens (w'.resolve e key).1 ∧
      Option.Rel Outcome.SameButTokens (w.resolve e key).2 (w'.resolve e key).2 := by
  obtain ⟨worlds, phases⟩ := run_tokens e h (Engine.start_tokens e key) key (e.start key).rank
  simp only [resolve, runOut]
  refine ⟨worlds, ?_⟩
  revert phases
  generalize (w.run e key (fun _ => false) (e.start key).rank (e.start key)).2 = p,
    (w'.run e key (fun _ => false) (e.start key).rank (e.start key)).2 = p'
  intro phases
  cases phases with
  | finished outcomes => exact .some outcomes
  | _ => exact .none

end World

end TokenBroker
