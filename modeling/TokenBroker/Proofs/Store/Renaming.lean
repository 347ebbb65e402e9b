import TokenBroker.Proofs.Store.Entries

/-!
# Stores with renamed principals

A renaming gives principals other names. It reaches the keys of a store and the names inside its
clients, also those inside the values of a store on disk, and nothing else. If no two names become
one, loading, saving and removing are the same before and after a renaming (`Store.load_rename`,
`Store.save_rename`, `Store.remove_rename`): a store tells principals apart and takes nothing else
from their names.
-/

namespace TokenBroker

namespace Table

variable {κ κ' α β : Type}

/-- A table with its keys and its values renamed. -/
def relabel (g : κ → κ') (h : α → β) (t : Table κ α) : Table κ' β := t.map fun e => (g e.1, h e.2)

variable [DecidableEq κ] [DecidableEq κ'] {g : κ → κ'}

theorem get?_relabel (distinct : Function.Injective g) (h : α → β) (t : Table κ α) (k : κ) :
    (t.relabel g h).get? (g k) = (t.get? k).map h := by
  induction t with
  | nil => rfl
  | cons entry rest ih =>
    obtain ⟨k', a⟩ := entry
    show get? ((g k', h a) :: relabel g h rest) (g k) = _
    rw [get?_cons, get?_cons, ih]
    by_cases same : k' = k
    · simp [same]
    · simp [same, distinct.ne same]

theorem put_relabel (distinct : Function.Injective g) (h : α → β) (t : Table κ α) (k : κ) (a : α) :
    (t.relabel g h).put (g k) (h a) = (t.put k a).relabel g h := by
  induction t with
  | nil => rfl
  | cons entry rest ih =>
    obtain ⟨k', a'⟩ := entry
    unfold relabel at ih
    by_cases same : k' = k
    · simp [relabel, put, same]
    · simp [relabel, put, same, distinct.ne same, ih]

theorem erase_relabel (distinct : Function.Injective g) (h : α → β) (t : Table κ α) (k : κ) :
    (t.relabel g h).erase (g k) = (t.erase k).relabel g h := by
  unfold erase relabel
  rw [List.filter_map]
  congr 2
  funext entry
  simp [distinct.eq_iff]

end Table

variable (f : String → String)

/-! ## Clients and what is logged of them -/

/-- The key of the principal's other name. -/
def Key.rename (k : Key) : Key := { k with principalName := f k.principalName }

theorem Key.rename_injective {f : String → String} (distinct : Function.Injective f) :
    Function.Injective (Key.rename f) := by
  rintro ⟨id, name⟩ ⟨id', name'⟩ same
  simp only [rename, Key.mk.injEq] at same
  rw [same.1, distinct same.2]

/-- The client of the principal's other name. -/
def AuthorizedClient.rename (c : AuthorizedClient) : AuthorizedClient :=
  { c with principalName := f c.principalName }

@[simp] theorem AuthorizedClient.key_rename (c : AuthorizedClient) :
    (c.rename f).key = c.key.rename f := rfl

/-- A failure with the principals that it names renamed. -/
def Failure.rename : Failure → Failure
  | .interactionRequired id name grant => .interactionRequired id (f name) grant
  | .acquisitionFailed id cause chained => .acquisitionFailed id (rename cause) chained
  | failure => failure

/-- A fault with the principals that it names renamed. -/
def Fault.rename : Fault → Fault
  | .failure x => .failure (x.rename f)
  | fault => fault

/-- An entry of the log with the principals that it names renamed. -/
def LogEntry.rename : LogEntry → LogEntry
  | .usingStored k => .usingStored (k.rename f)
  | .noneStored k => .noneStored (k.rename f)
  | .waiting k => .waiting (k.rename f)
  | .exchangeFailed grant k x => .exchangeFailed grant (k.rename f) (x.rename f)
  | .obtained k grant t => .obtained (k.rename f) grant t
  | .discarded k reason => .discarded (k.rename f) reason
  | entry => entry

/-! ## Kept values -/

/-- A text renamed; any other value as it is. -/
def Json.renameText : Json → Json
  | .str s => .str (f s)
  | j => j

/-- Members with the principal's name renamed. -/
def Json.renameMembers (ms : List (String × Json)) : List (String × Json) :=
  ms.map fun m => (m.1, if m.1 = "principal_name" then m.2.renameText f else m.2)

/-- The value that a store on disk keeps, with the principal's name renamed. -/
def Json.renamePrincipal : Json → Json
  | .obj ms => .obj (renameMembers f ms)
  | j => j

namespace Json

theorem lookup?_renameMembers (name : String) (ms : List (String × Json)) :
    lookup? name (renameMembers f ms) =
      (lookup? name ms).map fun j => if name = "principal_name" then j.renameText f else j := by
  induction ms with
  | nil => rfl
  | cons m ms ih =>
    obtain ⟨n, j⟩ := m
    by_cases same : n = name
    · subst same
      simp [lookup?, renameMembers]
    · unfold lookup? renameMembers at ih
      simpa [lookup?, renameMembers, same] using ih

theorem lookup?_renameMembers_of_ne {name : String} (other : name ≠ "principal_name")
    (ms : List (String × Json)) : lookup? name (renameMembers f ms) = lookup? name ms := by
  rw [lookup?_renameMembers]
  simp [other]

end Json

namespace Validate

variable {α : Type}

theorem required_renameMembers (ms : List (String × Json)) :
    required "principal_name" string (Json.renameMembers f ms) =
      f <$> required "principal_name" string ms := by
  unfold required
  rw [Json.lookup?_renameMembers]
  cases Json.lookup? "principal_name" ms with
  | none => rfl
  | some j => cases j <;> rfl

theorem required_renameMembers_of_ne {name : String} (other : name ≠ "principal_name")
    (check : Json → Checked α) (ms : List (String × Json)) :
    required name check (Json.renameMembers f ms) = required name check ms := by
  unfold required
  rw [Json.lookup?_renameMembers_of_ne f other]

theorem optional_renameMembers_of_ne {name : String} (other : name ≠ "principal_name")
    (check : Json → Checked α) (ms : List (String × Json)) :
    optional name check (Json.renameMembers f ms) = optional name check ms := by
  unfold optional defaulted
  rw [Json.lookup?_renameMembers_of_ne f other]

end Validate

/-- What is read of a kept value follows its principal's name; its issues do not. -/
theorem AuthorizedClient.ofJson_renamePrincipal (j : Json) :
    ofJson (j.renamePrincipal f) = rename f <$> ofJson j := by
  have combined (a : Checked ClientRegistration) (b : Checked String) (c : Checked AccessToken)
      (d : Checked (Option RefreshToken)) :
      (mk <$> a <*> f <$> b <*> c <*> d) = rename f <$> (mk <$> a <*> b <*> c <*> d) := by
    cases a <;> cases b <;> cases c <;> cases d <;> rfl
  cases j with
  | obj ms =>
    simp only [Json.renamePrincipal, ofJson, Validate.model]
    rw [Validate.required_renameMembers, Validate.required_renameMembers_of_ne f (by decide),
      Validate.required_renameMembers_of_ne f (by decide),
      Validate.optional_renameMembers_of_ne f (by decide)]
    exact combined _ _ _ _
  | _ => rfl

/-! ## Stores -/

namespace Store

theorem readBack_renamePrincipal (j : Json) :
    readBack (j.renamePrincipal f) = (readBack j).map (AuthorizedClient.rename f) := by
  unfold readBack
  rw [AuthorizedClient.ofJson_renamePrincipal]
  cases AuthorizedClient.ofJson j <;> rfl

theorem isNothing_renamePrincipal (j : Json) : isNothing (j.renamePrincipal f) = isNothing j := by
  cases j <;> rfl

/-- A store whose principals have other names. -/
def rename : Store → Store
  | .memory t => .memory (t.relabel (Key.rename f) (AuthorizedClient.rename f))
  | .disk t => .disk (t.relabel (Key.rename f) (Json.renamePrincipal f))

variable {f}

theorem remove_rename (distinct : Function.Injective f) (s : Store) (k : Key) :
    (s.rename f).remove (k.rename f) = (s.remove k).rename f := by
  cases s with
  | memory t => exact congrArg memory (Table.erase_relabel (Key.rename_injective distinct) _ t k)
  | disk t => exact congrArg disk (Table.erase_relabel (Key.rename_injective distinct) _ t k)

theorem save_rename (distinct : Function.Injective f) (s : Store) (c : AuthorizedClient) :
    (s.rename f).save (c.rename f) = (s.save c).rename f := by
  cases s with
  | memory t =>
    exact congrArg memory (Table.put_relabel (Key.rename_injective distinct) _ t c.key c)
  | disk t =>
    exact congrArg disk (Table.put_relabel (Key.rename_injective distinct) _ t c.key (written c))

/-- What is loaded for a key, with the principals renamed. -/
def Loaded.rename (f : String → String) (found : Loaded) : Loaded :=
  ⟨found.client.map (AuthorizedClient.rename f), found.store.rename f,
    found.log.map (LogEntry.rename f)⟩

theorem load_rename (distinct : Function.Injective f) (s : Store) (k : Key) :
    (s.rename f).load (k.rename f) = (s.load k).rename f := by
  have keys := Key.rename_injective distinct
  cases s with
  | memory t =>
    simp only [load, rename, Loaded.rename, Table.get?_relabel keys, List.map_nil]
  | disk t =>
    have removed := remove_rename distinct (.disk t) k
    simp only [rename] at removed
    simp only [load, rename, Table.get?_relabel keys]
    cases t.get? k with
    | none => rfl
    | some j =>
      simp only [Option.map_some, isNothing_renamePrincipal, readBack_renamePrincipal, removed]
      cases isNothing j
      · cases readBack j <;> rfl
      · rfl

end Store

end TokenBroker
