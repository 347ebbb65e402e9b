import TokenBroker.Validation

/-!
# What passes a check

A check that gives a value has had no issue on the way. So each lemma goes from the value of a
combined check to the values of its parts, and from the value of a bounded number to its bounds. Of
a member that may be absent it follows that what holds of its default and of all that its check
gives holds of its value (`Validate.holds_of_defaulted`).
-/

namespace TokenBroker

namespace Checked

variable {α β : Type} {a : Checked α} {b : β} {x : α}

@[simp] theorem map_ok (f : α → β) (a : α) : f <$> (.ok a : Checked α) = .ok (f a) := rfl

@[simp] theorem seq_ok (f : α → β) (a : α) :
    (.ok f : Checked (α → β)) <*> (.ok a : Checked α) = .ok (f a) := rfl

@[simp] theorem within_ok (segment : Segment) (a : α) :
    (.ok a : Checked α).within segment = .ok a := rfl

theorem exists_of_map {f : α → β} (h : f <$> a = .ok b) : ∃ x, a = .ok x ∧ f x = b := by
  cases a with
  | ok x =>
    cases h
    exact ⟨x, rfl, rfl⟩
  | bad => cases h

theorem exists_of_seq {f : Checked (α → β)} (h : f <*> a = .ok b) :
    ∃ g x, f = .ok g ∧ a = .ok x ∧ g x = b := by
  cases f with
  | ok g =>
    obtain ⟨x, rfl, rfl⟩ := exists_of_map (f := g) h
    exact ⟨g, x, rfl, rfl, rfl⟩
  | bad =>
    cases a with
    | ok => cases h
    | bad => cases h

theorem exists_of_andThen {check : α → Checked β} (h : a.andThen check = .ok b) :
    ∃ x, a = .ok x ∧ check x = .ok b := by
  cases a with
  | ok x => exact ⟨x, rfl, h⟩
  | bad => cases h

theorem eq_ok_of_within {segment : Segment} (h : a.within segment = .ok x) : a = .ok x := by
  cases a with
  | ok y => exact h
  | bad => cases h

theorem eq_ok_of_named {model : String} (h : a.named model = .ok x) : a = .ok x := by
  cases a with
  | ok y =>
    cases h
    rfl
  | bad => cases h

theorem exists_of_all {rest : List (Checked α)} {xs : List α} (h : all (a :: rest) = .ok xs) :
    ∃ x ys, a = .ok x ∧ all rest = .ok ys ∧ xs = x :: ys := by
  obtain ⟨_, ys, first, later, rfl⟩ := exists_of_seq (f := a.map List.cons) (a := all rest) h
  obtain ⟨x, given, rfl⟩ := exists_of_map (a := a) first
  exact ⟨x, ys, given, later, rfl⟩

end Checked

namespace Validate

variable {α : Type} {ms : List (String × Json)} {x : α} {j : Json} {bound m n : Int}

/-! ## Members -/

theorem eq_obj_of_model {check : List (String × Json) → Checked α} (h : model check j = .ok x) :
    ∃ ms, j = .obj ms ∧ check ms = .ok x := by
  cases j with
  | obj ms => exact ⟨ms, rfl, h⟩
  | _ => cases h

/-- A member that may be absent has its default if it is, and else the value that its check
gives. -/
theorem cases_of_defaulted {name : String} {check : Json → Checked α} {default : α}
    (h : defaulted name check default ms = .ok x) :
    Json.lookup? name ms = none ∧ x = default ∨ ∃ j, Json.lookup? name ms = some j ∧
    check j = .ok x := by
  unfold defaulted at h
  split at h
  · next absent =>
    cases h
    exact .inl ⟨absent, rfl⟩
  · next j present => exact .inr ⟨j, present, Checked.eq_ok_of_within h⟩

theorem holds_of_defaulted {P : α → Prop} {name : String} {check : Json → Checked α} {default : α}
    (absent : P default) (present : ∀ {j x}, check j = .ok x → P x)
    (h : defaulted name check default ms = .ok x) : P x := by
  rcases cases_of_defaulted h with ⟨-, rfl⟩ | ⟨j, -, checked⟩
  · exact absent
  · exact present checked

theorem nullable_cases {check : Json → Checked α} {x : Option α} (h : nullable check j = .ok x) :
    x = none ∨ ∃ y, x = some y ∧ check j = .ok y := by
  unfold nullable at h
  split at h
  · cases h
    exact .inl rfl
  · obtain ⟨y, checked, rfl⟩ := Checked.exists_of_map (f := some) h
    exact .inr ⟨y, rfl, checked⟩

/-- The entries of an object have the names of its members. -/
theorem names_of_objectOf {check : Json → Checked α} {entries : List (String × α)}
    (h : objectOf check j = .ok entries) :
    ∃ ms, j = .obj ms ∧ entries.map (·.1) = ms.map (·.1) := by
  cases j with
  | obj ms =>
    refine ⟨ms, rfl, ?_⟩
    simp only [objectOf] at h
    induction ms generalizing entries with
    | nil =>
      cases h
      rfl
    | cons m ms ih =>
      obtain ⟨e, rest, made, later, rfl⟩ := Checked.exists_of_all h
      obtain ⟨value, -, rfl⟩ := Checked.exists_of_map made
      rw [List.map_cons, List.map_cons, ih later]
  | _ => cases h

/-! ## Bounds -/

theorem positive_eq_ok {x y : Binary64} (h : positive x = .ok y) : x = y ∧ y.isPositive = true := by
  unfold positive at h
  split at h
  · next given =>
    cases h
    exact ⟨rfl, given⟩
  · cases h

theorem above_eq_ok (h : above bound n = .ok m) : n = m ∧ bound < m := by
  unfold above at h
  split at h
  · next within =>
    cases h
    exact ⟨rfl, within⟩
  · cases h

theorem atLeast_eq_ok (h : atLeast bound n = .ok m) : n = m ∧ bound ≤ m := by
  unfold atLeast at h
  split at h
  · next within =>
    cases h
    exact ⟨rfl, within⟩
  · cases h

theorem atMost_eq_ok (h : atMost bound n = .ok m) : n = m ∧ m ≤ bound := by
  unfold atMost at h
  split at h
  · next within =>
    cases h
    exact ⟨rfl, within⟩
  · cases h

end Validate

end TokenBroker
