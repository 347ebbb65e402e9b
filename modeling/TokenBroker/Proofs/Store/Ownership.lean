import TokenBroker.Proofs.Store.OnDisk

/-!
# Entries under their own keys

A store that has only ever been written by saving clients is `Orderly`: no key stands in it twice,
and under every key there is a client of that key, which can be read. The store that holds nothing
is orderly (`Orderly.empty`), and so is what an operation makes of an orderly store
(`Orderly.changes`). `Store.Changes` lists what an operation can make of a store.
-/

namespace TokenBroker

namespace Table

variable {κ α : Type} [DecidableEq κ]

/-- Putting a value replaces that of its key or adds the key at the end. -/
theorem keys_put (t : Table κ α) (k : κ) (a : α) :
    (put t k a).map (·.1) = if k ∈ t.map (·.1) then t.map (·.1) else t.map (·.1) ++ [k] := by
  induction t with
  | nil => rfl
  | cons e rest ih =>
    obtain ⟨k', a'⟩ := e
    by_cases h : k' = k
    · simp [put, h]
    · rw [put, if_neg h, List.map_cons, ih, List.map_cons]
      simp only [List.mem_cons, Ne.symm h, false_or]
      split <;> rfl

end Table

namespace Store

variable {s : Store} {k k' : Key} {c : AuthorizedClient}

theorem mem_keys_of_entry (h : s.entry k = some c) : k ∈ s.keys := by
  cases s with
  | memory t => exact Table.mem_keys_iff.2 ⟨c, h⟩
  | disk t =>
    rw [entry_disk, Option.bind_eq_some_iff] at h
    obtain ⟨j, stored, -⟩ := h
    exact Table.mem_keys_iff.2 ⟨j, stored⟩

theorem keys_save (s : Store) (c : AuthorizedClient) :
    (s.save c).keys = if c.key ∈ s.keys then s.keys else s.keys ++ [c.key] := by
  cases s with
  | memory t => exact Table.keys_put t c.key c
  | disk t => exact Table.keys_put t c.key (written c)

theorem keys_remove (s : Store) (k : Key) : (s.remove k).keys = s.keys.filter (· ≠ k) := by
  cases s with
  | memory t => exact Table.keys_erase t k
  | disk t => exact Table.keys_erase t k

@[simp] theorem key_kept (kind : StoreKind) (c : AuthorizedClient) : (kept kind c).key = c.key := by
  cases kind <;> rfl

/-- Every key stands once, over a client of its own. -/
structure Orderly (s : Store) : Prop where
  keys_nodup : s.keys.Nodup
  own : ∀ k ∈ s.keys, ∃ c, s.entry k = some c ∧ c.key = k

namespace Orderly

theorem empty (kind : StoreKind) : (Store.empty kind).Orderly := by
  cases kind <;> exact ⟨List.nodup_nil, fun k hk => nomatch hk⟩

/-- Whatever is given for a key is a client of the key. -/
theorem key_eq (h : s.Orderly) (stored : s.entry k = some c) : c.key = k := by
  obtain ⟨c', stored', own⟩ := h.own k (mem_keys_of_entry stored)
  rw [stored] at stored'
  cases stored'
  exact own

theorem remove (h : s.Orderly) (k : Key) : (s.remove k).Orderly where
  keys_nodup := by
    rw [keys_remove]
    exact h.keys_nodup.filter _
  own := by
    intro l hl
    rw [keys_remove, List.mem_filter] at hl
    rw [entry_remove_of_ne (by simpa using hl.2)]
    exact h.own l hl.1

theorem save (h : s.Orderly) (c : AuthorizedClient) : (s.save c).Orderly where
  keys_nodup := by
    rw [keys_save]
    split
    · exact h.keys_nodup
    · next new =>
      rw [List.nodup_append]
      refine ⟨h.keys_nodup, List.pairwise_singleton _ c.key, ?_⟩
      rintro k hk l hl rfl
      exact new (List.mem_singleton.1 hl ▸ hk)
  own := by
    intro k hk
    by_cases own : k = c.key
    · subst own
      exact ⟨kept s.kind c, by rw [entry_save_self, retrieve_eq], key_kept s.kind c⟩
    · rw [entry_save_of_ne own]
      refine h.own k ?_
      rw [keys_save] at hk
      split at hk
      · exact hk
      · simpa [own] using hk

end Orderly

/-! ## One operation -/

/-- What one operation can make of a store. -/
inductive Changes (s : Store) : Store → Prop
  | kept : Changes s s
  | removed (k : Key) : Changes s (s.remove k)
  | saved (c : AuthorizedClient) : Changes s (s.save c)

theorem changes_load (s : Store) (k : Key) : s.Changes (s.load k).store := by
  rcases s.load_store k with same | ⟨-, dropped⟩
  · rw [same]
    exact .kept
  · rw [dropped]
    exact .removed k

theorem Orderly.changes {t : Store} (h : s.Orderly) (changes : s.Changes t) : t.Orderly := by
  cases changes with
  | kept => exact h
  | removed k => exact h.remove k
  | saved c => exact h.save c

end Store

end TokenBroker
