import TokenBroker.Host

/-!
# Running actions

A composed computation goes on with a result and ends with an error (`bind_run`). `Action.FailsOnly`
says which failures of the broker's own an action can end with on a host, and that the store gets
into no other trouble by it; what is composed of such actions is such an action. Of other faults,
such as a refused file, it says nothing.

A computation passes a function on its states through (`Passes`) if it makes no difference whether
the function is applied before or after it: it gives the same result, and the states it leaves
correspond. What is composed of such computations passes the function through as well. So a change
of a host or a session that a program does not look at has no influence on it.
-/

namespace TokenBroker

section

variable {ε σ α β : Type}

theorem bind_run (a : ExceptT ε (StateM σ) α) (f : α → ExceptT ε (StateM σ) β) (s : σ) :
    (a >>= f) s = match a s with
      | (.ok x, between) => f x between
      | (.error e, between) => (.error e, between) := by
  simp only [bind, ExceptT.bind, ExceptT.mk, ExceptT.bindCont, StateT.bind]
  rcases a s with ⟨_ | _, between⟩ <;> rfl

theorem get_bind_run (f : σ → ExceptT ε (StateM σ) β) (s : σ) : (get >>= f) s = f s s := rfl

theorem adapt_run {ε' : Type} (f : ε → ε') (a : ExceptT ε (StateM σ) α) (s : σ) :
    (ExceptT.adapt f a : ExceptT ε' (StateM σ) α) s = ((a s).1.mapError f, (a s).2) := rfl

end

/-! ## Computations that pass a change through -/

section

variable {ε σ α β : Type} {φ : σ → σ}

/-- A computation gives the same before and after a function on its states. -/
def Passes (φ : σ → σ) (a : ExceptT ε (StateM σ) α) : Prop := ∀ s, a (φ s) = ((a s).1, φ (a s).2)

namespace Passes

/-- The parts need to pass the function through only where they are run. -/
theorem bind_at {a : ExceptT ε (StateM σ) α} {f : α → ExceptT ε (StateM σ) β} {s : σ}
    (first : a (φ s) = ((a s).1, φ (a s).2))
    (rest : ∀ x t, a s = (.ok x, t) → f x (φ t) = ((f x t).1, φ (f x t).2)) :
    (a >>= f) (φ s) = (((a >>= f) s).1, φ ((a >>= f) s).2) := by
  rw [bind_run, bind_run, first]
  rcases ended : a s with ⟨_ | x, t⟩
  · rfl
  · exact rest x t ended

theorem bind {a : ExceptT ε (StateM σ) α} {f : α → ExceptT ε (StateM σ) β} (first : Passes φ a)
    (rest : ∀ x, Passes φ (f x)) : Passes φ (a >>= f) :=
  fun s => bind_at (first s) fun x t _ => rest x t

theorem pure (x : α) : Passes φ (Pure.pure x : ExceptT ε (StateM σ) α) := fun _ => rfl

theorem throw (e : ε) : Passes φ (MonadExcept.throw e : ExceptT ε (StateM σ) α) := fun _ => rfl

theorem map (f : α → β) {a : ExceptT ε (StateM σ) α} (h : Passes φ a) : Passes φ (f <$> a) := by
  rw [map_eq_pure_bind]
  exact h.bind fun _ => pure _

theorem adapt_at {ε' : Type} (f : ε → ε') {a : ExceptT ε (StateM σ) α} {s : σ}
    (h : a (φ s) = ((a s).1, φ (a s).2)) :
    (ExceptT.adapt f a : ExceptT ε' (StateM σ) α) (φ s) =
      (((ExceptT.adapt f a : ExceptT ε' (StateM σ) α) s).1,
        φ ((ExceptT.adapt f a : ExceptT ε' (StateM σ) α) s).2) := by
  show ((a (φ s)).1.mapError f, (a (φ s)).2) = _
  rw [h]
  rfl

theorem ite {c : Prop} [Decidable c] {a b : ExceptT ε (StateM σ) α} (ha : Passes φ a)
    (hb : Passes φ b) :
    Passes φ (if c then a else b) := by
  split
  · exact ha
  · exact hb

end Passes

end

/-! ## Other files -/

namespace Host

/-- The host with other files. -/
def withTree (h : Host) (t : FileTree) : Host := { h with tree := t }

variable (h : Host) (t t' : FileTree)

@[simp] theorem withTree_tree : (h.withTree t).tree = t := rfl

@[simp] theorem withTree_here : (h.withTree t).here = h.here := rfl

@[simp] theorem withTree_saveTrouble : (h.withTree t).saveTrouble = h.saveTrouble := rfl

@[simp] theorem withTree_closeTrouble : (h.withTree t).closeTrouble = h.closeTrouble := rfl

@[simp] theorem withTree_withTree : (h.withTree t).withTree t' = h.withTree t' := rfl

end Host

namespace Action

variable {α β : Type} {host host' : Host} {a : Action α} {f : α → Action β}

/-- A sequence goes on from where its first part ends well. -/
theorem bind_of_ok {x : α} (ended : a host = (.ok x, host')) : (a >>= f) host = f x host' := by
  rw [bind_run, ended]

/-- A sequence ends where its first part fails. -/
theorem bind_of_error {fault : Fault} (ended : a host = (.error fault, host')) :
    (a >>= f) host = (.error fault, host') := by
  rw [bind_run, ended]

theorem ofExcept_run (r : Except Fault α) (h : Host) : ofExcept r h = (r, h) := rfl

theorem ofFile_run (r : Except FileError α) (h : Host) : ofFile r h = (r.mapError .file, h) := rfl

theorem expand_run (s : String) (h : Host) : expand s h = ((Path.ofText s).expandHome h.homes, h) :=
  rfl

theorem isFile_run (p : Path) (h : Host) : isFile p h = ((h.isFile p).mapError .file, h) := rfl

/-- Computations that leave the host as it is come to their results on it. -/
theorem mapM_run {g : α → Except Fault β} (each : ∀ x, f x host = (g x, host)) (xs : List α) :
    xs.mapM f host = (xs.mapM g, host) := by
  induction xs with
  | nil => rfl
  | cons x xs ih =>
    rw [List.mapM_cons, List.mapM_cons, bind_run, each]
    cases g x with
    | error fault => rfl
    | ok y =>
      simp only
      rw [bind_run, ih]
      cases xs.mapM g <;> rfl

/-- A sequence that ends well ends well in both its parts. -/
theorem exists_of_bind {y : β} (ran : (a >>= f) host = (.ok y, host')) :
    ∃ x between, a host = (.ok x, between) ∧ f x between = (.ok y, host') := by
  rw [bind_run] at ran
  split at ran
  · exact ⟨_, _, ‹_›, ran⟩
  · cases ran

/-- A composed action ends with a fault of its first part, or of the second one. -/
theorem cases_of_bind_error {fault : Fault} (ran : (a >>= f) host = (.error fault, host')) :
    a host = (.error fault, host') ∨
      ∃ x between, a host = (.ok x, between) ∧ f x between = (.error fault, host') := by
  rw [bind_run] at ran
  split at ran
  · exact .inr ⟨_, _, ‹_›, ran⟩
  · next failed =>
    cases ran
    exact .inl failed

theorem eq_ok_of_adapt {g : Fault → Fault} {y : α}
    (ran : (ExceptT.adapt g a : Action α) host = (.ok y, host')) : a host = (.ok y, host') := by
  rw [adapt_run] at ran
  rcases ended : a host with ⟨r, between⟩
  rw [ended] at ran
  cases r <;> cases ran
  rfl

/-- Whatever failure of the broker's own an action ends with on a host has a property, and the
troubles of the store stay what they are. -/
structure FailsOnly (P : Failure → Prop) (h : Host) (a : Action α) : Prop where
  failure : ∀ f h', a h = (.error (.failure f), h') → P f
  trouble : (a h).2.world.trouble = h.world.trouble

namespace FailsOnly

variable {P : Failure → Prop} {h : Host}

theorem pure (x : α) : FailsOnly P h (Pure.pure x) := by
  refine ⟨fun f h' failed => ?_, rfl⟩
  cases failed

theorem fail {f : Failure} (holds : P f) : FailsOnly P h (Action.fail f : Action α) := by
  refine ⟨fun f' h' failed => ?_, rfl⟩
  cases failed
  exact holds

theorem throw {fault : Fault} (other : ∀ f, fault ≠ .failure f) :
    FailsOnly P h (MonadExcept.throw fault : Action α) := by
  refine ⟨fun f h' failed => ?_, rfl⟩
  cases failed
  exact absurd rfl (other f)

theorem ofExcept {r : Except Fault α} (holds : ∀ f, r = .error (.failure f) → P f) :
    FailsOnly P h (Action.ofExcept r) := by
  refine ⟨fun f h' failed => ?_, rfl⟩
  cases failed
  exact holds f rfl

theorem ofExcept_mapError {r : Except Failure α} (holds : ∀ f, r = .error f → P f) :
    FailsOnly P h (Action.ofExcept (r.mapError .failure)) := by
  apply ofExcept
  intro f failed
  cases r with
  | ok x => cases failed
  | error =>
    cases failed
    exact holds f rfl

theorem ofFile (r : Except FileError α) : FailsOnly P h (Action.ofFile r) := by
  apply ofExcept
  intro f failed
  cases r <;> cases failed

theorem bind (first : FailsOnly P h a) (rest : ∀ x h', a h = (.ok x, h') → FailsOnly P h' (f x)) :
    FailsOnly P h (a >>= f) := by
  constructor
  · intro failure h' failed
    rcases cases_of_bind_error failed with failed | ⟨x, between, ended, failed⟩
    · exact first.failure failure h' failed
    · exact (rest x between ended).failure failure h' failed
  · have kept := first.trouble
    rw [bind_run]
    rcases ended : a h with ⟨_ | x, between⟩
    · rwa [ended] at kept
    · rw [ended] at kept
      exact (rest x between ended).trouble.trans kept

theorem get_bind {g : Host → Action β} (rest : FailsOnly P h (g h)) : FailsOnly P h (get >>= g) :=
  ⟨rest.failure, rest.trouble⟩

/-- Setting the host ends in no failure, if the trouble of its world stays. -/
theorem setHost {h' : Host} (kept : h'.world.trouble = h.world.trouble) :
    FailsOnly P h (set h' : Action Unit) := by
  refine ⟨fun f h' failed => ?_, kept⟩
  cases failed

theorem modifyHost {g : Host → Host} (kept : (g h).world.trouble = h.world.trouble) :
    FailsOnly P h (modify g : Action Unit) := by
  refine ⟨fun f h' failed => ?_, kept⟩
  cases failed

theorem map (g : α → β) (ends : FailsOnly P h a) : FailsOnly P h (g <$> a) := by
  rw [map_eq_pure_bind]
  exact ends.bind fun _ _ _ => pure _

theorem ite {c : Prop} [Decidable c] {b : Action α} (ha : FailsOnly P h a) (hb : FailsOnly P h b) :
    FailsOnly P h (if c then a else b) := by
  split
  · exact ha
  · exact hb

/-- A failure that is passed on is one of the action itself. -/
theorem adapt {g : Fault → Fault} (ends : FailsOnly P h a)
    (holds : ∀ fault f, g fault = .failure f → fault = .failure f ∨ P f) :
    FailsOnly P h (ExceptT.adapt g a : Action α) := by
  refine ⟨fun f h' failed => ?_, ends.trouble⟩
  rw [adapt_run] at failed
  rcases ended : a h with ⟨r, between⟩
  rw [ended] at failed
  cases r with
  | ok x => cases failed
  | error fault =>
    obtain ⟨same, rfl⟩ := Prod.mk.inj failed
    rcases holds fault f (Except.error.inj same) with rfl | holds
    · exact ends.failure f between ended
    · exact holds

/-- An action that fails in some ways only does so along a list. -/
theorem mapM {g : α → Action β} (each : ∀ x h, FailsOnly P h (g x)) (xs : List α) :
    FailsOnly P h (xs.mapM g) := by
  induction xs generalizing h with
  | nil =>
    rw [List.mapM_nil]
    exact pure []
  | cons x xs ih =>
    rw [List.mapM_cons]
    exact (each x h).bind fun _ _ _ => ih.bind fun _ _ _ => pure _

end FailsOnly

end Action

end TokenBroker
