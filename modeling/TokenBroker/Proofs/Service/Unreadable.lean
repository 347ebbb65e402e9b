import TokenBroker.Proofs.Engine.Entries
import TokenBroker.Proofs.Service.Basic

/-!
# Entries that cannot be read

A value on disk that is no client counts as nothing stored. Two services whose stores hold the same
entries are told apart by no operations (`Service.performAll_sameEntries`): a call looks at the
entries only, and each operation leaves stores with the same entries. A value that cannot be read
has no entry, and nor has a key without a value, so nothing tells one from the other
(`unreadable_value_unseen`).
-/

namespace TokenBroker

/-- Two worlds that differ in their stores, which hold the same entries, and in what has been
logged. -/
def World.SameEntries (w w' : World) : Prop :=
  ∃ shared log, w.shared.SameEntries shared ∧ w' = { w with shared, log }

namespace World

variable {w w' : World}

namespace SameEntries

theorem shared (h : w.SameEntries w') : w.shared.SameEntries w'.shared := by
  obtain ⟨shared, log, same, rfl⟩ := h
  exact same

theorem entry (h : w.SameEntries w') (k : Key) : w.entry k = w'.entry k := h.shared.store.entry k

theorem withStore (h : w.SameEntries w') {u v : Store} (same : u.Same v) :
    SameEntries { w with shared := { w.shared with store := u } }
      { w' with shared := { w'.shared with store := v } } := by
  obtain ⟨shared, log, shares, rfl⟩ := h
  exact ⟨_, log, shares.withStore same, rfl⟩

/-- Worlds with the same entries supply their calls alike. -/
theorem supply (h : w.SameEntries w') (n : Need) :
    (w.supply n).1 = (w'.supply n).1 ∧ (w.supply n).2.SameEntries (w'.supply n).2 := by
  obtain ⟨shared, log, same, rfl⟩ := h
  cases n with
  | load =>
    simp only [World.supply]
    cases w.trouble.load with
    | some fault => exact ⟨rfl, shared, log, same, rfl⟩
    | none =>
      simp only []
      split
      · exact ⟨rfl, shared, log, same, rfl⟩
      · exact ⟨rfl, shared, log, same, rfl⟩
  | _ => exact ⟨rfl, shared, log, same, rfl⟩

/-- Worlds keep the same entries when they take up the same step. -/
theorem absorb (h : w.SameEntries w') {x y : Engine.Step} (same : x.SameEntries y) :
    (w.absorb x).1.SameEntries (w'.absorb y).1 ∧ (w.absorb x).2 = (w'.absorb y).2 := by
  obtain ⟨shared, log, -, rfl⟩ := h
  obtain ⟨shares, phase⟩ := same
  refine ⟨?_, phase⟩
  simp only [World.absorb, ← phase]
  unfold note
  split
  · exact ⟨_, _, shares, rfl⟩
  · exact ⟨_, _, shares, rfl⟩
  · exact ⟨_, _, shares, rfl⟩

/-- A call takes the same step in worlds with the same entries. -/
theorem step (h : w.SameEntries w') (e : Engine) (key : Key) (p : Engine.Phase) :
    Option.Rel (fun x y => x.1.SameEntries y.1 ∧ x.2 = y.2) (w.step e key p) (w'.step e key p) := by
  obtain ⟨env, worlds⟩ := h.supply (needOf p)
  have steps := Engine.step_sameEntries e key (w.supply (needOf p)).1 worlds.shared p
  rw [step_eq, step_eq, ← env]
  revert steps
  generalize e.step key _ (w.supply _).2.shared p = x, e.step key _ (w'.supply _).2.shared p = y
  rintro (⟨same⟩ | _)
  · exact .some (worlds.absorb same)
  · exact .none

/-- By induction on the steps that are left. -/
theorem run (h : w.SameEntries w') (e : Engine) (key : Key) (hold : Engine.Phase → Bool)
    (fuel : Nat) (p : Engine.Phase) :
    (w.run e key hold fuel p).1.SameEntries (w'.run e key hold fuel p).1 ∧
      (w.run e key hold fuel p).2 = (w'.run e key hold fuel p).2 := by
  induction fuel generalizing w w' p with
  | zero => exact ⟨h, rfl⟩
  | succ fuel ih =>
    have steps := h.step e key p
    simp only [World.run]
    split
    · exact ⟨h, rfl⟩
    · revert steps
      generalize w.step e key p = x, w'.step e key p = y
      rintro (@⟨⟨w₁, q⟩, ⟨w₂, _⟩, worlds, rfl⟩ | _)
      · exact ih worlds q
      · exact ⟨h, rfl⟩

/-- A call has the same outcome in worlds with the same entries. -/
theorem resolve (h : w.SameEntries w') (e : Engine) (key : Key) :
    (w.resolve e key).1.SameEntries (w'.resolve e key).1 ∧
    (w.resolve e key).2 = (w'.resolve e key).2 := by
  obtain ⟨worlds, phases⟩ := h.run e key (fun _ => false) (e.start key).rank (e.start key)
  exact ⟨worlds, congrArg Engine.Phase.outcome? phases⟩

/-- An eviction has the same result in worlds with the same entries. -/
theorem evict (h : w.SameEntries w') (k : Key) :
    (w.evict k).1.SameEntries (w'.evict k).1 ∧ (w.evict k).2 = (w'.evict k).2 := by
  have stores := h.withStore (h.shared.store.remove k)
  obtain ⟨shared, log, same, rfl⟩ := h
  unfold World.evict
  cases w.trouble.remove with
  | some fault => exact ⟨⟨shared, log, same, rfl⟩, rfl⟩
  | none => exact ⟨stores, rfl⟩

/-- A save has the same result in worlds with the same entries. -/
theorem save (h : w.SameEntries w') (c : AuthorizedClient) :
    (w.save c).1.SameEntries (w'.save c).1 ∧ (w.save c).2 = (w'.save c).2 := by
  have stores := h.withStore (h.shared.store.save c)
  obtain ⟨shared, log, same, rfl⟩ := h
  unfold World.save
  cases w.trouble.save with
  | some fault => exact ⟨⟨shared, log, same, rfl⟩, rfl⟩
  | none => exact ⟨stores, rfl⟩

end SameEntries

end World

/-- Two services with one engine, in worlds whose stores hold the same entries. -/
structure Service.SameEntries (s s' : Service) : Prop where
  engine : s.engine = s'.engine
  world : s.world.SameEntries s'.world

namespace Service

variable {s s' : Service}

/-- An operation is answered alike by services with the same entries. -/
theorem perform_sameEntries (h : s.SameEntries s') (op : Operation) :
    (s.perform op).1.SameEntries (s'.perform op).1 ∧ (s.perform op).2 = (s'.perform op).2 := by
  obtain ⟨e, w⟩ := s
  obtain ⟨_, w'⟩ := s'
  obtain ⟨rfl, worlds⟩ := h
  cases op with
  | resolve id requester =>
    obtain ⟨after, outcomes⟩ := worlds.resolve e ⟨id, requester.principalName⟩
    exact ⟨⟨rfl, after⟩, congrArg Answer.outcome outcomes⟩
  | evict id requester =>
    obtain ⟨after, results⟩ := worlds.evict ⟨id, requester.principalName⟩
    exact ⟨⟨rfl, after⟩, congrArg Answer.written results⟩
  | save c =>
    obtain ⟨after, results⟩ := worlds.save c
    exact ⟨⟨rfl, after⟩, congrArg Answer.written results⟩
  | advance micros =>
    obtain ⟨shared, log, same, rfl⟩ := worlds
    exact ⟨⟨rfl, shared, log, same, rfl⟩, rfl⟩
  | rebuild e' =>
    obtain ⟨shared, log, same, rfl⟩ := worlds
    exact ⟨⟨rfl, { store := shared.store }, log, ⟨same.store, rfl, rfl⟩, rfl⟩, rfl⟩
  | reopen =>
    refine ⟨⟨rfl, ?_⟩, rfl⟩
    show w.reopen.SameEntries w'.reopen
    rwa [World.reopen_eq, World.reopen_eq]

/-- A list of operations is answered alike by services with the same entries. -/
theorem performAll_sameEntries (h : s.SameEntries s') (ops : List Operation) :
    (s.performAll ops).1.SameEntries (s'.performAll ops).1 ∧
    (s.performAll ops).2 = (s'.performAll ops).2 := by
  induction ops generalizing s s' with
  | nil => exact ⟨h, rfl⟩
  | cons op ops ih =>
    obtain ⟨after, answer⟩ := perform_sameEntries h op
    obtain ⟨rest, answers⟩ := ih after
    exact ⟨rest, congrArg₂ List.cons answer answers⟩

end Service

/-! ## A value that cannot be read -/

namespace Store

variable {values : Table Key Json} {k : Key} {j : Json}

/-- A value that is no client gives no entry. -/
theorem entry_of_unreadable (stored : values.get? k = some j)
    (unreadable : ∀ c, readBack j ≠ .ok c) :
    (disk values).entry k = none := by
  rw [entry_disk, stored, Option.bind_some]
  split
  · rfl
  · cases read : readBack j with
    | ok c => exact absurd read (unreadable c)
    | error e => rfl

/-- A value that cannot be read makes no entry. -/
theorem same_of_unreadable (values : Table Key Json) (k : Key)
    (unreadable : ∀ c, readBack j ≠ .ok c) :
    (disk (values.put k j)).Same (disk (values.erase k)) where
  entry l := by
    by_cases hl : l = k
    · subst hl
      rw [entry_of_unreadable (Table.get?_put_self values l j) unreadable, entry_disk,
        Table.get?_erase_self, Option.bind_none]
    · rw [entry_disk, entry_disk, Table.get?_put_of_ne hl, Table.get?_erase_of_ne hl]
  kind := rfl

/-- A load takes no other value from the disk than that of its key. -/
theorem get?_values_load (s : Store) {k l : Key} (h : l ≠ k) :
    (s.load k).store.values.get? l = s.values.get? l := by
  rcases s.load_store k with same | ⟨-, same⟩
  · rw [same]
  · rw [same]
    cases s with
    | memory t => rfl
    | disk t => exact Table.get?_erase_of_ne h t

end Store

/-- **A value that cannot be read is as good as none.** Whatever value that is no client is stored
under a key, beside whatever else is on disk: operations on a service give the same answers, send
the same requests to the token endpoints and the same calls to plug-ins, and leave the clock and the
entries as without the value. A load of its key by a call gives no client, never an error, and
leaves the values of all other keys on disk. -/
theorem unreadable_value_unseen {j : Json} (unreadable : ∀ c, Store.readBack j ≠ .ok c) (e : Engine)
    (w : World) (values : Table Key Json) (k : Key) :
    (∀ ops : List Operation,
      let start (values : Table Key Json) : Service :=
        ⟨e, { w with shared := { w.shared with store := .disk values } }⟩
      let kept := (start (values.put k j)).performAll ops
      let missing := (start (values.erase k)).performAll ops
      kept.2 = missing.2 ∧
        kept.1.world.sent = missing.1.world.sent ∧
        kept.1.world.asked = missing.1.world.asked ∧
        kept.1.world.clock = missing.1.world.clock ∧
        ∀ l, kept.1.world.entry l = missing.1.world.entry l) ∧
    ∀ (env : Engine.Surroundings) (s : Engine.Shared), env.storeFault = none →
      ∃ after log, Engine.load env { s with store := .disk (values.put k j) } k =
          .ok (none, { s with store := after }, log) ∧
        after.kind = .disk ∧ ∀ l ≠ k, after.values.get? l = values.get? l := by
  have same := Store.same_of_unreadable values k unreadable
  constructor
  · intro ops start kept missing
    have alike : (start (values.put k j)).SameEntries (start (values.erase k)) :=
      ⟨rfl, { w.shared with store := .disk (values.erase k) }, w.log, ⟨same, rfl, rfl⟩, rfl⟩
    obtain ⟨⟨-, worlds⟩, answers⟩ := Service.performAll_sameEntries alike ops
    have entries := worlds.entry
    obtain ⟨shared, log, -, left⟩ := worlds
    exact ⟨answers, (congrArg World.sent left).symm, (congrArg World.asked left).symm,
      (congrArg World.clock left).symm, entries⟩
  · intro env s calm
    unfold Engine.load
    rw [calm]
    cases env.hidden with
    | true => exact ⟨_, [], rfl, rfl, fun l other => Table.get?_put_of_ne other values j⟩
    | false =>
      -- the first look removes the value, and finds nothing
      have nothing : ((Store.disk (values.put k j)).load k).client = none :=
        Store.entry_of_unreadable (Table.get?_put_self values k j) unreadable
      refine ⟨((Store.disk (values.put k j)).load k).store,
        ((Store.disk (values.put k j)).load k).log, ?_, Store.kind_load _ k, fun l other => ?_⟩
      · simp only [Bool.false_eq_true, if_false, nothing]
      · rw [Store.get?_values_load _ other]
        exact Table.get?_put_of_ne other values j

namespace HalfWritten

def registration : ClientRegistration :=
  { registrationId := "svc", clientId := "app", grantType := .clientCredentials,
    tokenUri := "/token" }

def key : Key := ⟨"svc", "system"⟩

/-- A client whose access token has lost its value. -/
def value : Json :=
  .obj [("registration", registration.toJson), ("principal_name", .str "system"),
    ("access_token", .obj [("token_type", .str "Bearer")]), ("refresh_token", .null)]

def engine : Engine := ⟨.unlisted [registration], ⟨[.plugin "Issuer" .clientCredentials 0]⟩, {}⟩

def world : World where
  clock := default
  transport _ := { reply := .interrupted }
  plugin _ _ := .ok { accessToken := "t", expiresIn := some 300 }
  shared := { store := .memory [] }

def service (values : Table Key Json) : Service :=
  ⟨engine, { world with shared := { world.shared with store := .disk values } }⟩

/-- Another key, beside the one of the value, holds what no client is either. -/
def others : Table Key Json := [(⟨"svc", "bob"⟩, .int 7)]

def operations : List Operation :=
  [.resolve "svc" .nobody, .resolve "svc" .nobody, .evict "svc" .nobody, .resolve "svc" .nobody]

end HalfWritten

open HalfWritten in
/-- The client is obtained anew, just as if there had been none. -/
theorem half_written_client_unseen :
    (∀ c, Store.readBack value ≠ .ok c) ∧
      ((service (others.put key value)).performAll operations).2 =
        ((service (others.erase key)).performAll operations).2 ∧
      ((service (others.put key value)).performAll operations).1.world.asked = [0, 0] := by
  have unreadable : ∀ c, Store.readBack value ≠ .ok c := by
    intro c read
    cases read
  obtain ⟨unseen, -⟩ := unreadable_value_unseen unreadable engine world others key
  exact ⟨unreadable, (unseen operations).1, by decide +kernel⟩

end TokenBroker
