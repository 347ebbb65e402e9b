import TokenBroker.Assembly
import TokenBroker.Proofs.Engine.Dispatch

/-!
# What a successful build has checked

The engine that `Assembly.build` gives has the assembly's exchange clients, all of them
(`Assembly.clients_of_build`), and every registration that can be listed has passed its checks. So a
registration that the engine finds and whose grant is unattended has a client
(`Assembly.servesUnattended_of_build`): the one way in which an engine could lack a client for an
exchange is gone before the first request.
-/

namespace TokenBroker

/-- A sequence that ends well ends well in both its parts. -/
theorem Except.exists_of_bind {ε α β : Type} {x : Except ε α} {f : α → Except ε β} {b : β}
    (h : x >>= f = .ok b) : ∃ a, x = .ok a ∧ f a = .ok b := by
  cases x with
  | error e => cases h
  | ok a => exact ⟨a, rfl, h⟩

/-- A sequence that fails does so in its first part or, after a first part that ends well, in its
second. -/
theorem Except.cases_of_bind_error {ε α β : Type} {x : Except ε α} {f : α → Except ε β} {e : ε}
    (h : x >>= f = .error e) : x = .error e ∨ ∃ a, x = .ok a ∧ f a = .error e := by
  cases x with
  | error e' =>
    cases h
    exact .inl rfl
  | ok a => exact .inr ⟨a, rfl, h⟩

/-- An engine that is created holds what it was created from. -/
theorem Engine.create_eq_ok {source : RegistrationSource} {clients : Registry}
    {policy : LifetimePolicy} {e : Engine} (h : Engine.create source clients policy = .ok e) :
    e = ⟨source, clients, policy⟩ := by
  unfold create at h
  cases checked : checkDuration (policy.clockSkew * 1000000) with
  | error fault =>
    rw [checked] at h
    cases h
  | ok _ =>
    rw [checked] at h
    cases h
    rfl

/-- What a source finds is among what it lists, if it lists. -/
theorem RegistrationSource.mem_listed_of_find? {source : RegistrationSource} {id : String}
    {r : ClientRegistration} {rs : List ClientRegistration} (listed : source.listed? = some rs)
    (found : source.find? id = some r) : r ∈ rs := by
  cases source with
  | catalog c =>
    cases listed
    exact List.mem_of_find?_eq_some found
  | unlisted => cases listed

/-- A new key goes to the end of the table. -/
theorem Table.put_eq_append {κ α : Type} [DecidableEq κ] {t : Table κ α} {k : κ}
    (free : t.get? k = none) (a : α) : t.put k a = t ++ [(k, a)] := by
  induction t with
  | nil => rfl
  | cons entry rest ih =>
    obtain ⟨k', a'⟩ := entry
    by_cases same : k' = k
    · simp [get?_cons, same] at free
    · rw [get?_cons, if_neg same] at free
      simp [put, same, ih free]

theorem Table.get?_eq_none_iff {κ α : Type} [DecidableEq κ] {t : Table κ α} {k : κ} :
    t.get? k = none ↔ k ∉ t.map (·.1) := by
  induction t with
  | nil => simp
  | cons entry rest ih =>
    obtain ⟨k', a⟩ := entry
    rw [get?_cons, List.map_cons, List.mem_cons]
    split
    · next same => simp [same]
    · next other => simp [ih, Ne.symm other]

namespace Assembly

variable {a a' : Assembly} {made : Assembled} {source : RegistrationSource} {store : String × Store}
  {registry : Registry} {roles : Roles} {name : String} {c : Component}

/-- A component that is registered comes after all the others. -/
theorem components_of_register (h : a.register name c = .ok a') :
    a'.components = a.components ++ [(name, c)] := by
  unfold register at h
  split at h
  · cases h
  · next free =>
    cases h
    exact Table.put_eq_append (by simpa using free) c

/-- The parts are found if there is one source, one store, and clients whose grants differ and which
serve the registrations listed. -/
theorem parts_eq_ok (h : a.parts roles = .ok (source, store, registry)) :
    (∃ name, single "ClientRegistrationStore" (a.candidates roles.source?) = .ok (name, source)) ∧
      single "AuthorizedClientStore" (a.candidates roles.store?) = .ok store ∧
      registryOf (a.candidates roles.client?) = .ok registry ∧
      checkRegistrations roles registry source = .ok () := by
  obtain ⟨⟨name, source'⟩, found, h⟩ := Except.exists_of_bind h
  obtain ⟨store', kept, h⟩ := Except.exists_of_bind h
  obtain ⟨registry', registered, h⟩ := Except.exists_of_bind h
  obtain ⟨_, checked, h⟩ := Except.exists_of_bind h
  cases h
  exact ⟨⟨name, found⟩, kept, registered, checked⟩

/-- What was built was built from the parts. -/
theorem parts_of_build (h : (a.buildBy roles).2 = .ok made) :
    a.parts roles = .ok (made.engine.source, (made.storeName, made.store),
      made.engine.clients) := by
  unfold buildBy at h
  cases parts : a.parts roles with
  | error f =>
    rw [parts] at h
    cases h
  | ok found =>
    obtain ⟨source, ⟨name, store⟩, registry⟩ := found
    rw [parts] at h
    cases created : Engine.create source registry a.policy with
    | error fault =>
      simp only [created] at h
      cases h
    | ok e =>
      simp only [created] at h
      cases h
      rw [Engine.create_eq_ok created]

/-- No client of the assembly is left out. -/
theorem clients_of_build (h : a.build.2 = .ok made) :
    made.engine.clients.clients = a.clients.map (·.2) := by
  obtain ⟨-, -, registered, -⟩ := parts_eq_ok (parts_of_build h)
  unfold registryOf at registered
  split at registered
  · cases registered
  · exact Registry.clients_of_foldlM registered

/-- A registration that was listed has no issue. -/
theorem registrationIssues_of_build {id : String} {r : ClientRegistration}
    (h : a.build.2 = .ok made) (listed : made.engine.source.listed?.isSome)
    (found : made.engine.source.find? id = some r) :
    registrationIssues ExchangeClient.validate made.engine.clients r = [] := by
  obtain ⟨-, -, -, checked⟩ := parts_eq_ok (parts_of_build h)
  obtain ⟨rs, listed⟩ := Option.isSome_iff_exists.1 listed
  unfold checkRegistrations at checked
  simp only [Roles.usual, listed] at checked
  simp only [Option.getD_some] at checked
  split at checked
  · next none =>
    rw [List.isEmpty_iff, List.flatMap_eq_nil_iff] at none
    exact none r (RegistrationSource.mem_listed_of_find? listed found)
  · cases checked

/-- A registration that no client serves has no issue exactly if its grant is attended. -/
theorem registrationIssues_unserved_iff {validate : ExchangeClient → ClientRegistration →
    List String} {r : ClientRegistration} (unserved : registry.find? r.grantType = none) :
    registrationIssues validate registry r = [] ↔ r.grantType.isUnattended = false := by
  unfold registrationIssues
  rw [unserved]
  cases r.grantType.isUnattended <;> simp

/-- Every unattended registration that the engine finds has a client. -/
theorem servesUnattended_of_build (h : a.build.2 = .ok made)
    (listed : made.engine.source.listed?.isSome) : made.engine.ServesUnattended := by
  intro id r found unattended
  have issues := registrationIssues_of_build h listed found
  cases served : made.engine.clients.find? r.grantType with
  | some c => exact ⟨c, rfl⟩
  | none =>
    rw [registrationIssues_unserved_iff served, unattended] at issues
    cases issues

end Assembly

end TokenBroker
