import TokenBroker.Proofs.Store.Renaming
import TokenBroker.Proofs.Store.Written

/-!
# The same clients in memory and on disk

`Store.onDisk` is the store on disk to which the clients of a store in memory have been saved.
Saving and removing keep the two alike (`Store.save_onDisk`, `Store.remove_onDisk`): they hold the
same keys, and the store on disk gives the client that the one in memory gives, without the secret
(`Store.entry_onDisk`).
-/

namespace TokenBroker

namespace Table

variable {κ α β : Type}

/-- A table with a function applied to its values. -/
def mapValues (f : α → β) (t : Table κ α) : Table κ β := t.map fun e => (e.1, f e.2)

theorem keys_mapValues (f : α → β) (t : Table κ α) : (t.mapValues f).map (·.1) = t.map (·.1) := by
  simp [mapValues]

variable [DecidableEq κ]

theorem get?_mapValues (f : α → β) (t : Table κ α) (k : κ) :
    (t.mapValues f).get? k = (t.get? k).map f :=
  get?_relabel Function.injective_id f t k

theorem put_mapValues (f : α → β) (t : Table κ α) (k : κ) (a : α) :
    (t.mapValues f).put k (f a) = (t.put k a).mapValues f :=
  put_relabel Function.injective_id f t k a

theorem erase_mapValues (f : α → β) (t : Table κ α) (k : κ) :
    (t.mapValues f).erase k = (t.erase k).mapValues f :=
  erase_relabel Function.injective_id f t k

end Table

namespace Store

variable {s : Store} {k : Key}

/-- The keys of a store, in the order in which they were first put. -/
def keys : Store → List Key
  | .memory t => t.map (·.1)
  | .disk t => t.map (·.1)

/-- The store on disk with the clients of a store in memory. -/
def onDisk : Store → Store
  | .memory t => .disk (t.mapValues written)
  | .disk t => .disk t

theorem load_of_memory (h : s.kind = .memory) (k : Key) : s.load k = ⟨s.entry k, s, []⟩ := by
  cases s with
  | memory t => rfl
  | disk t => cases h

/-- Nothing that was saved is dropped when it is loaded. -/
theorem load_onDisk (h : s.kind = .memory) (k : Key) :
    s.onDisk.load k = ⟨(s.entry k).map AuthorizedClient.withoutSecret, s.onDisk, []⟩ := by
  cases s with
  | disk t => cases h
  | memory t =>
    rw [entry_memory]
    unfold onDisk load
    cases found : t.get? k with
    | none => simp only [Table.get?_mapValues, found, Option.map_none]
    | some c =>
      simp only [Table.get?_mapValues, found, Option.map_some, isNothing_written, readBack_written]
      rfl

theorem entry_onDisk (h : s.kind = .memory) (k : Key) :
    s.onDisk.entry k = (s.entry k).map AuthorizedClient.withoutSecret := by
  show (s.onDisk.load k).client = _
  rw [load_onDisk h]

theorem save_onDisk (h : s.kind = .memory) (c : AuthorizedClient) :
    s.onDisk.save c = (s.save c).onDisk := by
  cases s with
  | disk t => cases h
  | memory t =>
    show Store.disk _ = Store.disk _
    rw [Table.put_mapValues]

theorem remove_onDisk (h : s.kind = .memory) (k : Key) :
    s.onDisk.remove k = (s.remove k).onDisk := by
  cases s with
  | disk t => cases h
  | memory t =>
    show Store.disk _ = Store.disk _
    rw [Table.erase_mapValues]

theorem keys_onDisk (s : Store) : s.onDisk.keys = s.keys := by
  cases s with
  | memory t => exact Table.keys_mapValues written t
  | disk t => rfl

end Store

end TokenBroker
