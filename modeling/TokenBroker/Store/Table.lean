/-!
# Tables

Values by key, at most one for each, in the order in which the keys were first put. `get?` reads,
`put` replaces or adds, `erase` takes out.
-/

namespace TokenBroker

/-- Pairs of a key and its value. -/
abbrev Table (κ α : Type) := List (κ × α)

namespace Table

variable {κ α : Type} [DecidableEq κ]

/-- The value of a key. -/
def get? (t : Table κ α) (k : κ) : Option α :=
  (t.find? (·.1 = k)).map (·.2)

/-- The table with the value of a key set. -/
def put (t : Table κ α) (k : κ) (a : α) : Table κ α :=
  match t with
  | [] => [(k, a)]
  | (k', a') :: rest => if k' = k then (k, a) :: rest else (k', a') :: put rest k a

/-- The table without a key. -/
def erase (t : Table κ α) (k : κ) : Table κ α :=
  t.filter (·.1 ≠ k)

@[simp] theorem get?_nil (k : κ) : get? ([] : Table κ α) k = none := rfl

theorem get?_cons (k' : κ) (a : α) (t : Table κ α) (k : κ) :
    get? ((k', a) :: t) k = if k' = k then some a else get? t k := by
  by_cases h : k' = k <;> simp [get?, h]

@[simp] theorem get?_put_self (t : Table κ α) (k : κ) (a : α) : get? (put t k a) k = some a := by
  induction t with
  | nil => simp [put, get?]
  | cons e rest ih =>
    obtain ⟨k', a'⟩ := e
    by_cases h : k' = k
    · simp [put, h, get?_cons]
    · simp [put, h, get?_cons, ih]

theorem get?_put_of_ne {k k' : κ} (h : k' ≠ k) (t : Table κ α) (a : α) :
    get? (put t k a) k' = get? t k' := by
  induction t with
  | nil => simp [put, get?_cons, Ne.symm h]
  | cons e rest ih =>
    obtain ⟨k₀, a₀⟩ := e
    by_cases h₀ : k₀ = k
    · subst h₀; simp [put, get?_cons, Ne.symm h]
    · by_cases h₁ : k₀ = k'
      · subst h₁; simp [put, h₀, get?_cons]
      · simp [put, h₀, get?_cons, h₁, ih]

@[simp] theorem get?_erase_self (t : Table κ α) (k : κ) : get? (erase t k) k = none := by
  simp only [get?, erase, Option.map_eq_none_iff, List.find?_eq_none]
  intro e he
  simpa using (List.mem_filter.1 he).2

theorem get?_erase_of_ne {k k' : κ} (h : k' ≠ k) (t : Table κ α) :
    get? (erase t k) k' = get? t k' := by
  induction t with
  | nil => rfl
  | cons e rest ih =>
    obtain ⟨k₀, a₀⟩ := e
    by_cases h₀ : k₀ = k
    · have hne : k₀ ≠ k' := by rw [h₀]; exact Ne.symm h
      have e₁ : erase ((k₀, a₀) :: rest) k = erase rest k := by simp [erase, h₀]
      rw [e₁, ih, get?_cons, if_neg hne]
    · have e₁ : erase ((k₀, a₀) :: rest) k = (k₀, a₀) :: erase rest k := by simp [erase, h₀]
      rw [e₁, get?_cons, get?_cons, ih]

/-! ## Keys -/

theorem mem_keys_iff {t : Table κ α} {k : κ} : k ∈ t.map (·.1) ↔ ∃ a, get? t k = some a := by
  induction t with
  | nil => simp
  | cons e rest ih =>
    obtain ⟨k', a'⟩ := e
    by_cases h : k' = k
    · simp [get?_cons, h]
    · rw [get?_cons, if_neg h, ← ih, List.map_cons, List.mem_cons]
      exact ⟨fun hk => hk.resolve_left fun e => h e.symm, .inr⟩

theorem keys_put_of_get? {t : Table κ α} {k : κ} (h : get? t k = none) (a : α) :
    (put t k a).map (·.1) = t.map (·.1) ++ [k] := by
  induction t with
  | nil => rfl
  | cons e rest ih =>
    obtain ⟨k', a'⟩ := e
    by_cases hk : k' = k
    · simp [get?_cons, hk] at h
    · rw [get?_cons, if_neg hk] at h
      simp [put, hk, ih h]

theorem keys_erase (t : Table κ α) (k : κ) :
    (erase t k).map (·.1) = (t.map (·.1)).filter (· ≠ k) := by
  rw [erase, List.filter_map]
  rfl

theorem erase_put_of_get? {t : Table κ α} {k : κ} (h : get? t k = none) (a : α) :
    erase (put t k a) k = t := by
  induction t with
  | nil => simp [put, erase]
  | cons e rest ih =>
    obtain ⟨k', a'⟩ := e
    by_cases hk : k' = k
    · simp [get?_cons, hk] at h
    · rw [get?_cons, if_neg hk] at h
      rw [put, if_neg hk]
      simpa [erase, hk] using ih h

end Table

end TokenBroker
