import TokenBroker.Proofs.Endpoint.Tokens
import TokenBroker.Proofs.Host

/-!
# Computations in lockstep

Two computations are in lockstep under a relation of states if from related states they end with the
same error, or with related results, and leave related states. Where the results are the same, what
goes on with them may be one computation. So a relation that every step of a program keeps is kept
by the program.
-/

namespace TokenBroker

variable {ε σ α β γ δ : Type} {Φ : σ → σ → Prop} {R : α → β → Prop} {S : γ → δ → Prop}

/-- Two ends of computations: the same error or related results, and related states. -/
structure Agree (Φ : σ → σ → Prop) (R : α → β → Prop) (x : Except ε α × σ) (x' : Except ε β × σ) :
    Prop where
  result : Except.Rel R x.1 x'.1
  state : Φ x.2 x'.2

/-- From related states, two computations come to ends that agree. -/
def Lockstep (Φ : σ → σ → Prop) (R : α → β → Prop) (a : ExceptT ε (StateM σ) α)
    (a' : ExceptT ε (StateM σ) β) : Prop :=
  ∀ ⦃s s'⦄, Φ s s' → Agree Φ R (a s) (a' s')

namespace Agree

variable {a : ExceptT ε (StateM σ) α} {a' : ExceptT ε (StateM σ) β} {f : α → ExceptT ε (StateM σ) γ}
  {f' : β → ExceptT ε (StateM σ) δ} {s s' : σ}

/-- Two actions in lockstep fail with the same error or both end well. -/
theorem cases {x : Except ε α × σ} {x' : Except ε β × σ} (h : Agree Φ R x x') :
    (∃ e t t', x = (.error e, t) ∧ x' = (.error e, t') ∧ Φ t t') ∨
      ∃ r r' t t', x = (.ok r, t) ∧ x' = (.ok r', t') ∧ R r r' ∧ Φ t t' := by
  obtain ⟨r, t⟩ := x
  obtain ⟨r', t'⟩ := x'
  obtain ⟨results, states⟩ := h
  cases results with
  | error e => exact .inl ⟨e, t, t', rfl, rfl, states⟩
  | ok related => exact .inr ⟨_, _, t, t', rfl, rfl, related, states⟩

/-- What follows two computations is run where they agree. -/
theorem bind (first : Agree Φ R (a s) (a' s'))
    (rest : ∀ x x', R x x' → Lockstep Φ S (f x) (f' x')) :
    Agree Φ S ((a >>= f) s) ((a' >>= f') s') := by
  rw [bind_run, bind_run]
  rcases first.cases with ⟨e, t, t', ended, ended', states⟩ | ⟨r, r', t, t', ended, ended', related,
    states⟩ <;> rw [ended, ended']
  · exact ⟨.error e, states⟩
  · exact rest r r' related states

end Agree

namespace Lockstep

variable {a : ExceptT ε (StateM σ) α} {a' : ExceptT ε (StateM σ) β} {f : α → ExceptT ε (StateM σ) γ}
  {f' : β → ExceptT ε (StateM σ) δ}

theorem pure {x : α} {x' : β} (related : R x x') :
    Lockstep Φ R (Pure.pure x : ExceptT ε (StateM σ) α) (Pure.pure x') :=
  fun _ _ states => ⟨.ok related, states⟩

theorem throw (e : ε) :
    Lockstep Φ R (MonadExcept.throw e : ExceptT ε (StateM σ) α)
      (MonadExcept.throw e : ExceptT ε (StateM σ) β) :=
  fun _ _ states => ⟨.error e, states⟩

/-- Sequences are in lockstep if their parts are. -/
theorem bind (first : Lockstep Φ R a a') (rest : ∀ x x', R x x' → Lockstep Φ S (f x) (f' x')) :
    Lockstep Φ S (a >>= f) (a' >>= f') :=
  fun _ _ states => (first states).bind rest

/-- Computations that give the same are followed by what is in lockstep for each result. -/
theorem bind_eq {a a' : ExceptT ε (StateM σ) α} {f : α → ExceptT ε (StateM σ) γ}
    {f' : α → ExceptT ε (StateM σ) δ} (first : Lockstep Φ Eq a a')
    (rest : ∀ x, Lockstep Φ S (f x) (f' x)) :
    Lockstep Φ S (a >>= f) (a' >>= f') :=
  first.bind fun x _ same => same ▸ rest x

/-- What is done with the state may depend on it, as long as the ends agree. -/
theorem get_bind {f : σ → ExceptT ε (StateM σ) γ} {f' : σ → ExceptT ε (StateM σ) δ}
    (rest : ∀ s s', Φ s s' → Agree Φ S (f s s) (f' s' s')) :
    Lockstep Φ S (get >>= f) (get >>= f') :=
  rest

theorem setState {s s' : σ} (states : Φ s s') :
    Lockstep Φ Eq (set s : ExceptT ε (StateM σ) Unit) (set s') :=
  fun _ _ _ => ⟨.ok rfl, states⟩

theorem modifyState {g g' : σ → σ} (states : ∀ s s', Φ s s' → Φ (g s) (g' s')) :
    Lockstep Φ Eq (modify g : ExceptT ε (StateM σ) Unit) (modify g') :=
  fun s s' related => ⟨.ok rfl, states s s' related⟩

theorem map {a a' : ExceptT ε (StateM σ) α} (f : α → γ) (h : Lockstep Φ Eq a a') :
    Lockstep Φ Eq (f <$> a) (f <$> a') := by
  rw [map_eq_pure_bind, map_eq_pure_bind]
  exact h.bind_eq fun _ => .pure rfl

/-- Errors translated alike leave actions in lockstep. -/
theorem adapt {ε' : Type} (f : ε → ε') (h : Lockstep Φ R a a') :
    Lockstep Φ R (ExceptT.adapt f a : ExceptT ε' (StateM σ) α) (ExceptT.adapt f a') := by
  intro s s' states
  rw [adapt_run, adapt_run]
  exact ⟨(h states).result.mapError f, (h states).state⟩

theorem ite {c : Prop} [Decidable c] {b : ExceptT ε (StateM σ) α} {b' : ExceptT ε (StateM σ) β}
    (ha : Lockstep Φ R a a') (hb : Lockstep Φ R b b') :
    Lockstep Φ R (if c then a else b) (if c then a' else b') := by
  split
  · exact ha
  · exact hb

/-- An action in lockstep with itself is so along a list. -/
theorem mapM {g : γ → ExceptT ε (StateM σ) α} (each : ∀ x, Lockstep Φ Eq (g x) (g x))
    (xs : List γ) :
    Lockstep Φ Eq (xs.mapM g) (xs.mapM g) := by
  induction xs with
  | nil => exact .pure rfl
  | cons x xs ih =>
    rw [List.mapM_cons]
    exact (each x).bind_eq fun _ => ih.bind_eq fun _ => .pure rfl

end Lockstep

end TokenBroker
