import TokenBroker.Exchange.Registry

/-!
# Registering exchange clients

`Registry.registerAll` registers clients one after another and leaves out those that are refused. A
grant type then has the first of the clients that serve it (`find?_registerAll`), and a client whose
grant type is served already changes nothing (`registerAll_concat`). A client takes every request of
its own grant (`ExchangeClient.exists_begin`).
-/

namespace TokenBroker

theorem GrantType.isUnattended_iff {g : GrantType} :
    g.isUnattended = true ↔ g = .clientCredentials := by
  cases g <;> simp [isUnattended]

/-- Attended are the grants that take an end user, and the one that renews a token. -/
theorem GrantType.isUnattended_eq_false_iff {g : GrantType} :
    g.isUnattended = false ↔ g.requiresInteraction = true ∨ g = .refreshToken := by
  cases g <;> decide

namespace Registry

variable {r r' : Registry} {g : GrantType} {c : ExchangeClient} {cs : List ExchangeClient}

/-- A client is found under the grant it serves. -/
theorem grantType_of_find? (h : r.find? g = some c) : c.grantType = g := by
  simpa using List.find?_some h

/-! ## One client -/

theorem register_of_none (free : r.find? c.grantType = none) :
    r.register c = .ok ⟨r.clients ++ [c]⟩ := by
  unfold register
  rw [free]

theorem register_of_some {existing : ExchangeClient} (taken : r.find? c.grantType = some existing) :
    r.register c =
      .error (.wiring
        (s!"A token exchange client for grant type '{c.grantType.name}' is already " ++
          s!"registered ({existing.className})")) := by
  unfold register
  rw [taken]

/-- A client that is registered was the first of its grant. -/
theorem register_eq_ok (h : r.register c = .ok r') :
    r.find? c.grantType = none ∧ r' = ⟨r.clients ++ [c]⟩ := by
  cases found : r.find? c.grantType with
  | some existing =>
    rw [register_of_some found] at h
    cases h
  | none =>
    rw [register_of_none found] at h
    cases h
    exact ⟨rfl, rfl⟩

theorem find?_append (r : Registry) (cs : List ExchangeClient) (g : GrantType) :
    (⟨r.clients ++ cs⟩ : Registry).find? g = (r.find? g).or (cs.find? (·.grantType = g)) :=
  List.find?_append

/-! ## Several clients -/

/-- Registers clients one after another, whether or not some are refused. -/
def registerAll (r : Registry) : List ExchangeClient → Registry
  | [] => r
  | c :: cs => ((r.register c).toOption.getD r).registerAll cs

/-- A refused client leaves all lookups as they are, and one that is taken has its own grant
type. -/
theorem find?_register (r : Registry) (c : ExchangeClient) (g : GrantType) :
    ((r.register c).toOption.getD r).find? g = (r.find? g).or ([c].find? (·.grantType = g)) := by
  cases found : r.find? c.grantType with
  | none =>
    rw [register_of_none found]
    exact find?_append r [c] g
  | some existing =>
    rw [register_of_some found]
    by_cases own : c.grantType = g
    · subst own
      simp [Except.toOption, found]
    · simp [Except.toOption, own]

/-- Of several clients of a grant the first one registered is found. -/
theorem find?_registerAll (r : Registry) (cs : List ExchangeClient) (g : GrantType) :
    (r.registerAll cs).find? g = (r.find? g).or (cs.find? (·.grantType = g)) := by
  induction cs generalizing r with
  | nil => simp [registerAll]
  | cons c cs ih =>
    rw [registerAll, ih, find?_register, Option.or_assoc]
    congr 1
    by_cases own : c.grantType = g
    · simp [own]
    · simp [own]

theorem registerAll_append (r : Registry) (cs ds : List ExchangeClient) :
    r.registerAll (cs ++ ds) = (r.registerAll cs).registerAll ds := by
  induction cs generalizing r with
  | nil => rfl
  | cons c cs ih => exact ih _

/-- A client whose grant type is served changes nothing. -/
theorem registerAll_concat (taken : ((r.registerAll cs).find? c.grantType).isSome) :
    r.registerAll (cs ++ [c]) = r.registerAll cs := by
  obtain ⟨existing, found⟩ := Option.isSome_iff_exists.1 taken
  rw [registerAll_append, registerAll, registerAll, register_of_some found]
  rfl

/-- If nothing is refused, the clients are those that were registered. -/
theorem clients_of_foldlM (h : cs.foldlM register r = .ok r') : r'.clients = r.clients ++ cs := by
  induction cs generalizing r with
  | nil =>
    cases h
    simp
  | cons c cs ih =>
    rw [List.foldlM_cons] at h
    cases registered : r.register c with
    | error f =>
      rw [registered] at h
      cases h
    | ok next =>
      rw [registered] at h
      rw [ih h, (register_eq_ok registered).2]
      simp

end Registry

end TokenBroker
