import TokenBroker.Proofs.Assembly
import TokenBroker.Proofs.Exchange.Secrets
import Mathlib.Data.List.Forall2

/-!
# Assemblies whose registrations have other secrets

A build asks of a secret only whether there is one. Two assemblies that differ in the values of
secrets alone are refused with the same failure, or give engines that differ in secrets at most,
with the same store and the same log (`Assembly.build_twins`).
-/

namespace TokenBroker

/-- Two registrations that differ in the value of the secret at most: both have one or neither
has. -/
structure ClientRegistration.SameButValue (r r' : ClientRegistration) : Prop where
  same : r.SameButSecret r'
  given : r'.clientSecret.getD "" = "" ↔ r.clientSecret.getD "" = ""

/-- Two sources whose registrations differ in the values of secrets at most. -/
inductive RegistrationSource.Twins : RegistrationSource → RegistrationSource → Prop
  | catalog {c c' : Catalog}
      (h : List.Forall₂ ClientRegistration.SameButValue c.registrations c'.registrations) :
      Twins (.catalog c) (.catalog c')
  | unlisted {rs rs' : List ClientRegistration}
      (h : List.Forall₂ ClientRegistration.SameButValue rs rs') :
      Twins (.unlisted rs) (.unlisted rs')

/-- Two components that differ in the values of secrets at most. -/
inductive Component.Twins : Component → Component → Prop
  | registrations {source source' : RegistrationSource} (h : source.Twins source') :
      Twins (.registrations source) (.registrations source')
  | store (s : Store) : Twins (.store s) (.store s)
  | client (c : ExchangeClient) : Twins (.client c) (.client c)
  | other : Twins .other .other

/-- Two named things of one name that are related. -/
def Named {α : Type} (R : α → α → Prop) (x x' : String × α) : Prop := x'.1 = x.1 ∧ R x.2 x'.2

/-- Two assemblies that differ in the values of secrets at most. -/
structure Assembly.Twins (a a' : Assembly) : Prop where
  policy : a'.policy = a.policy
  components : List.Forall₂ (Named Component.Twins) a.components a'.components

/-! ## Registrations -/

/-- Twin lists find twin registrations under an identifier. -/
theorem ClientRegistration.find?_twins {rs rs' : List ClientRegistration}
    (h : List.Forall₂ SameButValue rs rs') (id : String) :
    Option.Rel SameButSecret (rs.find? (·.registrationId = id))
      (rs'.find? (·.registrationId = id)) := by
  induction h with
  | nil => exact .none
  | @cons r r' rs rs' first rest ih =>
    have named : r'.registrationId = r.registrationId := by
      obtain ⟨secret, rfl⟩ := first.same.exists_secret
      rfl
    by_cases found : r.registrationId = id
    · simp only [List.find?, named, found, decide_true]
      exact .some first.same
    · simp only [List.find?, named, found, decide_false]
      exact ih

namespace RegistrationSource.Twins

variable {source source' : RegistrationSource} (h : source.Twins source')
include h

/-- Twin sources find twin registrations under an identifier. -/
theorem find? (id : String) :
    Option.Rel ClientRegistration.SameButSecret (source.find? id) (source'.find? id) := by
  cases h with
  | catalog h => exact ClientRegistration.find?_twins h id
  | unlisted h => exact ClientRegistration.find?_twins (List.rel_reverse h) id

end RegistrationSource.Twins

namespace Assembly

/-- What keeps exchange clients from serving a registration does not depend on the value of its
secret. -/
theorem registrationIssues_twins (registry : Registry) {r r' : ClientRegistration}
    (h : r.SameButValue r') :
    registrationIssues ExchangeClient.validate registry r' =
      registrationIssues ExchangeClient.validate registry r := by
  have given := h.given
  obtain ⟨secret, rfl⟩ := h.same.exists_secret
  have secrets : ExchangeClient.secretIssues { r with clientSecret := secret } =
      ExchangeClient.secretIssues r := by
    simp only [ExchangeClient.secretIssues, given]
  unfold registrationIssues
  cases registry.find? r.grantType with
  | none => rfl
  | some c =>
    cases c with
    | refreshToken => rfl
    | plugin | clientCredentials =>
      simp only [ExchangeClient.validate, secrets]
      rfl

/-- The check of the registrations does not look at the values of the secrets. -/
theorem checkRegistrations_twins (registry : Registry) {source source' : RegistrationSource}
    (h : source.Twins source') :
    checkRegistrations .usual registry source' = checkRegistrations .usual registry source := by
  have issues {rs rs' : List ClientRegistration}
      (same : List.Forall₂ ClientRegistration.SameButValue rs rs') :
      rs'.flatMap (registrationIssues ExchangeClient.validate registry) =
        rs.flatMap (registrationIssues ExchangeClient.validate registry) := by
    induction same with
    | nil => rfl
    | cons first rest ih =>
      rw [List.flatMap_cons, List.flatMap_cons, registrationIssues_twins registry first, ih]
  have listed : ((Roles.usual.listed? source').getD []).flatMap
      (registrationIssues Roles.usual.validate registry) =
      ((Roles.usual.listed? source).getD []).flatMap
        (registrationIssues Roles.usual.validate registry) := by
    cases h with
    | catalog h => exact issues h
    | unlisted h => rfl
  unfold checkRegistrations
  rw [listed]

/-! ## Parts -/

variable {a a' : Assembly}

theorem sources_twins (h : a.Twins a') :
    List.Forall₂ (Named RegistrationSource.Twins) a.sources a'.sources := by
  refine List.rel_filterMap ?_ h.components
  rintro ⟨name, x⟩ ⟨name', x'⟩ ⟨named, twins⟩
  cases twins with
  | registrations h => exact .some ⟨named, h⟩
  | _ => exact .none

/-- Twin components that are no registrations are the same. -/
theorem candidates_twins {α : Type} {role : Component → Option α}
    (same : ∀ c c', Component.Twins c c' → role c' = role c) (h : a.Twins a') :
    a'.candidates role = a.candidates role := by
  have components := h.components
  unfold candidates
  generalize a.components = xs, a'.components = xs' at components ⊢
  induction components with
  | nil => rfl
  | cons first rest ih => simp only [List.filterMap_cons, same _ _ first.2, first.1, ih]

theorem stores_twins (h : a.Twins a') :
    a'.candidates Component.store? = a.candidates Component.store? :=
  candidates_twins (fun _ _ twins => by cases twins <;> rfl) h

theorem clients_twins (h : a.Twins a') : a'.clients = a.clients :=
  candidates_twins (fun _ _ twins => by cases twins <;> rfl) h

/-- The one component of a role is found in both lists, or in neither for the same reason. -/
theorem single_twins {α : Type} {R : α → α → Prop} {xs xs' : List (String × α)}
    (h : List.Forall₂ (Named R) xs xs') (role : String) :
    (∃ f, single role xs = .error f ∧ single role xs' = .error f) ∨
      ∃ x x', single role xs = .ok x ∧ single role xs' = .ok x' ∧ Named R x x' := by
  have names : xs'.map (·.1) = xs.map (·.1) := by
    induction h with
    | nil => rfl
    | cons first rest ih => simp only [List.map_cons, first.1, ih]
  cases h with
  | nil => exact .inl ⟨_, rfl, rfl⟩
  | cons first rest =>
    cases rest with
    | nil => exact .inr ⟨_, _, rfl, rfl, first⟩
    | cons second rest =>
      refine .inl ⟨_, rfl, ?_⟩
      simp only [single, names, List.length_cons, rest.length_eq]

/-- The parts of twins are twins, or are missing for the same reason. -/
theorem parts_twins (h : a.Twins a') :
    (∃ f, a.parts .usual = .error f ∧ a'.parts .usual = .error f) ∨
      ∃ source source' store registry, a.parts .usual = .ok (source, store, registry) ∧
        a'.parts .usual = .ok (source', store, registry) ∧ source.Twins source' := by
  have stores : a'.candidates Roles.usual.store? = a.candidates Roles.usual.store? := stores_twins h
  have clients : a'.candidates Roles.usual.client? = a.candidates Roles.usual.client? :=
    clients_twins h
  have sources : List.Forall₂ (Named RegistrationSource.Twins) (a.candidates Roles.usual.source?)
      (a'.candidates Roles.usual.source?) := sources_twins h
  unfold parts
  rw [stores, clients]
  rcases single_twins sources "ClientRegistrationStore" with
    ⟨f, found, found'⟩ | ⟨x, x', found, found', -, sources⟩ <;> rw [found, found']
  · exact .inl ⟨f, rfl, rfl⟩
  · cases single "AuthorizedClientStore" (a.candidates Roles.usual.store?) with
    | error f => exact .inl ⟨f, rfl, rfl⟩
    | ok store =>
      cases registryOf (a.candidates Roles.usual.client?) with
      | error f => exact .inl ⟨f, rfl, rfl⟩
      | ok registry =>
        simp only [bind, Except.bind, checkRegistrations_twins registry sources]
        cases checkRegistrations .usual registry x.2 with
        | error f => exact .inl ⟨f, rfl, rfl⟩
        | ok u => exact .inr ⟨_, _, _, _, rfl, rfl, sources⟩

/-- Both builds log the same, and fail alike or give twin engines with the same store. -/
theorem build_twins (h : a.Twins a') :
    a'.build.1 = a.build.1 ∧
      ((∃ fault, a.build.2 = .error fault ∧ a'.build.2 = .error fault) ∨
        ∃ made made', a.build.2 = .ok made ∧ a'.build.2 = .ok made' ∧
          made.engine.Twins made'.engine ∧ made'.storeName = made.storeName ∧
            made'.store = made.store) := by
  unfold build buildBy
  rcases parts_twins h with ⟨f, found, found'⟩ | ⟨source, source', ⟨name, store⟩, registry, found,
    found', twins⟩ <;> rw [found, found']
  · exact ⟨rfl, .inl ⟨_, rfl, rfl⟩⟩
  · refine ⟨rfl, ?_⟩
    simp only [Engine.create, h.policy]
    cases checkDuration (a.policy.clockSkew * 1000000) with
    | error fault => exact .inl ⟨fault, rfl, rfl⟩
    | ok u => exact .inr ⟨_, _, rfl, rfl, ⟨twins.find?, rfl, rfl⟩, rfl, rfl⟩

end Assembly

end TokenBroker
