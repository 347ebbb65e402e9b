import TokenBroker.Store.Basic

/-!
# What a store holds under each key

`Store.entry` is the one view of a store that the engine has: the client that loading a key gives.
Each operation has one equation for the key it is about and one for all others (`entry_remove_self`,
`entry_remove_of_ne`, `entry_save_self`, `entry_save_of_ne`), and a load changes no entry
(`entry_load`), although a store on disk drops what it cannot read.

What is loaded of a saved client depends on the kind of store alone (`Store.retrieve`).
`Store.Recalls` says of a kind that this is the saved client, once it is bound to its registration
again. A store in memory keeps the very client (`recalls_memory`).
-/

namespace TokenBroker

namespace Store

/-- The client that loading a key gives. -/
def entry (s : Store) (k : Key) : Option AuthorizedClient := (s.load k).client

theorem entry_memory (t : Table Key AuthorizedClient) (k : Key) :
    (Store.memory t).entry k = t.get? k := rfl

theorem entry_disk (t : Table Key Json) (k : Key) :
    (Store.disk t).entry k =
      (t.get? k).bind fun j => if isNothing j then none else (readBack j).toOption := by
  unfold entry load
  cases hk : t.get? k with
  | none => simp only [hk, Option.bind_none]
  | some j =>
    by_cases hj : isNothing j = true
    · simp only [hk, Option.bind_some, if_pos hj]
    · simp only [hk, Option.bind_some, if_neg hj]
      cases readBack j <;> rfl

/-! ## Removing -/

/-- What was removed is gone. -/
@[simp] theorem entry_remove_self (s : Store) (k : Key) : (s.remove k).entry k = none := by
  cases s with
  | memory t => simp [remove, entry_memory]
  | disk t => simp [remove, entry_disk]

/-- Removing an entry leaves the others. -/
theorem entry_remove_of_ne {k k' : Key} (h : k' ≠ k) (s : Store) :
    (s.remove k).entry k' = s.entry k' := by
  cases s with
  | memory t => simp [remove, entry_memory, Table.get?_erase_of_ne h]
  | disk t => simp [remove, entry_disk, Table.get?_erase_of_ne h]

@[simp] theorem kind_remove (s : Store) (k : Key) : (s.remove k).kind = s.kind := by
  cases s <;> rfl

/-! ## Loading -/

/-- A load drops at most a value that gives no client. -/
theorem load_store (s : Store) (k : Key) :
    (s.load k).store = s ∨ s.entry k = none ∧ (s.load k).store = s.remove k := by
  unfold entry load
  split
  · exact .inl rfl
  · split
    · exact .inl rfl
    · split
      · exact .inl rfl
      · split
        · exact .inl rfl
        · exact .inr ⟨rfl, rfl⟩

@[simp] theorem kind_load (s : Store) (k : Key) : (s.load k).store.kind = s.kind := by
  rcases s.load_store k with h | ⟨-, h⟩
  · rw [h]
  · rw [h, kind_remove]

@[simp] theorem entry_load (s : Store) (k k' : Key) : (s.load k).store.entry k' = s.entry k' := by
  rcases s.load_store k with h | ⟨hk, h⟩
  · rw [h]
  · rw [h]
    by_cases hkk : k' = k
    · subst hkk
      rw [entry_remove_self, hk]
    · exact entry_remove_of_ne hkk s

/-! ## Saving -/

/-- What a store of a kind gives back of a client that it has saved. -/
def retrieve : StoreKind → AuthorizedClient → Option AuthorizedClient
  | .memory, c => some c
  | .disk, c => (readBack (written c)).toOption

/-- What was saved is there. -/
theorem entry_save_self (s : Store) (c : AuthorizedClient) :
    (s.save c).entry c.key = retrieve s.kind c := by
  cases s with
  | memory t => simp [save, entry_memory, retrieve, kind]
  | disk t => simp [save, entry_disk, retrieve, kind, written, AuthorizedClient.toJson, isNothing]

/-- Saving a client leaves the other entries. -/
theorem entry_save_of_ne {k : Key} {c : AuthorizedClient} (h : k ≠ c.key) (s : Store) :
    (s.save c).entry k = s.entry k := by
  cases s with
  | memory t => simp [save, entry_memory, Table.get?_put_of_ne h]
  | disk t => simp [save, entry_disk, Table.get?_put_of_ne h]

@[simp] theorem kind_save (s : Store) (c : AuthorizedClient) : (s.save c).kind = s.kind := by
  cases s <;> rfl

/-! ## Equal entries -/

/-- A store that holds the entries of another. -/
structure Same (u v : Store) : Prop where
  entry : ∀ k, u.entry k = v.entry k
  kind : u.kind = v.kind

theorem Same.remove {u v : Store} (h : u.Same v) (k : Key) : (u.remove k).Same (v.remove k) where
  entry l := by
    by_cases hl : l = k
    · rw [hl, entry_remove_self, entry_remove_self]
    · rw [entry_remove_of_ne hl, entry_remove_of_ne hl, h.entry]
  kind := by rw [kind_remove, kind_remove, h.kind]

theorem Same.save {u v : Store} (h : u.Same v) (c : AuthorizedClient) :
    (u.save c).Same (v.save c) where
  entry l := by
    by_cases hl : l = c.key
    · rw [hl, entry_save_self, entry_save_self, h.kind]
    · rw [entry_save_of_ne hl, entry_save_of_ne hl, h.entry]
  kind := by rw [kind_save, kind_save, h.kind]

theorem Same.load {u v : Store} (h : u.Same v) (k : Key) :
    (u.load k).store.Same (v.load k).store where
  entry l := by rw [entry_load, entry_load, h.entry]
  kind := by rw [kind_load, kind_load, h.kind]

/-! ## Stores that remember -/

/-- A kind of store gives back what was last saved, up to the registration that it is bound to. -/
def Recalls (kind : StoreKind) : Prop :=
  ∀ c, ∃ c', retrieve kind c = some c' ∧ c'.bind c.registration = c

theorem recalls_memory : Recalls .memory :=
  fun c => ⟨c, rfl, rfl⟩

end Store

end TokenBroker
