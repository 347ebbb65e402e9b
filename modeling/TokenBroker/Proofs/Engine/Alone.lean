import TokenBroker.Proofs.Engine.Alike

/-!
# One call alone

A call that takes its steps while nothing else happens, in whatever surroundings (`alone`). It
changes no entry but that of its own key (`alone_entry_of_ne`), what it ends with stays
(`alone_of_finished`), and from states that are alike for its key it runs alike (`alone_alike`).
-/

namespace TokenBroker

namespace Engine

/-- What is shared and where a call stands after its first `n` steps, of which the `i`-th has the
surroundings `env i`. A call without a next step stays where it is. -/
def alone (e : Engine) (key : Key) (env : Nat → Surroundings) (s : Shared) : Nat → Shared × Phase
  | 0 => (s, e.start key)
  | n + 1 =>
    let (t, p) := e.alone key env s n
    match e.step key (env n) t p with
    | none => (t, p)
    | some next => (next.shared, next.phase)

variable {e : Engine} {key : Key} {env : Nat → Surroundings} {s t : Shared} {p : Phase}
  {f : Nat → Nat} {n m : Nat}

/-- A call that runs alone goes on by its next step. -/
theorem alone_succ_of_step {next : Step} (at_n : e.alone key env s n = (t, p))
    (step : e.step key (env n) t p = some next) :
    e.alone key env s (n + 1) = (next.shared, next.phase) := by
  simp only [alone, at_n, step]

/-- A call that runs alone and can take no step stays where it is. -/
theorem alone_succ_of_none (at_n : e.alone key env s n = (t, p))
    (step : e.step key (env n) t p = none) : e.alone key env s (n + 1) = (t, p) := by
  simp only [alone, at_n, step]

/-- The call has moved, or nothing has changed. -/
theorem alone_cases (e : Engine) (key : Key) (env : Nat → Surroundings) (s : Shared) (n : Nat) :
    e.alone key env s (n + 1) = e.alone key env s n ∨
      Move e key (env n) (e.alone key env s n).1 (e.alone key env s n).2
        (e.alone key env s (n + 1)).1 (e.alone key env s (n + 1)).2 := by
  cases step : e.step key (env n) (e.alone key env s n).1 (e.alone key env s n).2 with
  | none => exact .inl (alone_succ_of_none rfl step)
  | some next =>
    right
    rw [alone_succ_of_step rfl step]
    exact move_of_step step

/-- What holds at the start and is kept by every move holds all along. -/
theorem alone_induction {P : Shared → Phase → Prop} (start : P s (e.start key))
    (keeps : ∀ {env t p t' p'}, Move e key env t p t' p' → P t p → P t' p') (n : Nat) :
    P (e.alone key env s n).1 (e.alone key env s n).2 := by
  induction n with
  | zero => exact start
  | succ n ih =>
    rcases alone_cases e key env s n with same | move
    · rw [same]
      exact ih
    · exact keeps move ih

/-- A call that runs alone leaves the entries of the other keys as they are. -/
theorem alone_entry_of_ne {l : Key} (hl : l ≠ key) (n : Nat) :
    (e.alone key env s n).1.store.entry l = s.store.entry l := by
  have both : (e.alone key env s n).2.BelongsTo e key ∧
      (e.alone key env s n).1.store.entry l = s.store.entry l := by
    refine alone_induction (P := fun t p => p.BelongsTo e key ∧ t.store.entry l = s.store.entry l)
      ⟨belongsTo_start e key, rfl⟩ ?_ n
    rintro env t p t' p' move ⟨own, same⟩
    exact ⟨move.belongsTo own, (move.entry_of_ne own hl).trans same⟩
  exact both.2

/-- A call that runs alone and has ended stays as it is. -/
theorem alone_of_finished {o : Outcome} (ended : e.alone key env s m = (t, .finished o))
    (hmn : m ≤ n) :
    e.alone key env s n = (t, .finished o) := by
  induction hmn with
  | refl => exact ended
  | step _ ih => exact alone_succ_of_none ih rfl

/-- A call that publishes gives its key back next, and ends with what it has published. -/
theorem alone_of_publishing {a : Nat} {o : Outcome}
    (publishing : e.alone key env s n = (t, .publishing a o)) :
    e.alone key env s (n + 2) =
      ({ t with outcomes := t.outcomes.set a (some o), inFlight := t.inFlight.erase key },
        .finished o) := by
  have published := alone_succ_of_step publishing rfl
  exact alone_succ_of_step published rfl

/-- From states that are alike a call runs alike. -/
theorem alone_alike (e : Engine) (env : Nat → Surroundings) (h : Alike key f s t) (n : Nat) :
    ∃ g, Alike key g (e.alone key env s n).1 (e.alone key env t n).1 ∧
      (e.alone key env s n).2 = (e.alone key env t n).2.renumber g ∧
      (e.alone key env t n).2.Knows (e.alone key env t n).1 := by
  induction n with
  | zero =>
    refine ⟨f, h, (start_renumber f e key).symm, ?_⟩
    intro a ha
    have := attempt?_start e key
    rw [show (e.start key).attempt? = some a from ha] at this
    cases this
  | succ n ih =>
    obtain ⟨g, alike, phase, known⟩ := ih
    have both := step_alike_cases e (env n) alike known
    rw [← phase] at both
    rcases both with ⟨hs, ht⟩ | ⟨x, y, hs, ht, next⟩
    · rw [alone_succ_of_none rfl hs, alone_succ_of_none rfl ht]
      exact ⟨g, alike, phase, known⟩
    · rw [alone_succ_of_step rfl hs, alone_succ_of_step rfl ht]
      exact ⟨_, next.alike, next.phase, next.knows⟩

end Engine

end TokenBroker
