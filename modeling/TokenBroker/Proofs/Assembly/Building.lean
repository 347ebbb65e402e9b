import Mathlib.Data.List.Nodup
import TokenBroker.Proofs.Assembly
import TokenBroker.Proofs.Engine.Arithmetic

/-!
# Which assemblies can be built

An assembly fits together if one component is a source of registrations, one is a store, no two
exchange clients serve one grant type, and every registration that can be listed is served
(`Assembly.Fits`). Just the assemblies that fit can be built, and the engine has their components
(`Assembly.built_iff_fits_within_margin`); of any other one the first flaw is reported, with all
that take part in it (`Assembly.Flaw`). This is so whatever the components are and say (`Roles`),
and in whatever order they were registered.

Components that fit make no engine if the margin of the policy is no duration
(`Assembly.endless_margin_unbuilt`).
-/

namespace TokenBroker

namespace Registry

variable {r : Registry} {cs : List ExchangeClient}

/-- Clients of different grants are registered one after the other. -/
theorem foldlM_register_of_nodup (distinct : ((r.clients ++ cs).map (·.grantType)).Nodup) :
    cs.foldlM register r = .ok ⟨r.clients ++ cs⟩ := by
  induction cs generalizing r with
  | nil => simp [pure, Except.pure]
  | cons c cs ih =>
    have free : r.find? c.grantType = none := by
      rw [List.map_append, List.nodup_append] at distinct
      refine List.find?_eq_none.2 fun other member same => ?_
      exact distinct.2.2 _ (List.mem_map_of_mem member) c.grantType (by simp) (by simpa using same)
    have rest := ih (r := ⟨r.clients ++ [c]⟩) (by simpa using distinct)
    rw [List.append_assoc] at rest
    rw [List.foldlM_cons, register_of_none free]
    exact rest

end Registry

namespace Assembly

/-! ## Registering -/

section Registering

variable {a : Assembly} {name : String}

/-- A name is given only once. -/
theorem register_of_mem (taken : name ∈ a.components.map (·.1)) (c : Component) :
    a.register name c = .error (.wiring s!"Component '{name}' is already registered") := by
  refine if_pos (Option.isSome_iff_ne_none.2 fun free => ?_)
  exact Table.get?_eq_none_iff.1 free taken

/-- A free name may be given to any component. -/
theorem register_of_not_mem (free : name ∉ a.components.map (·.1)) (c : Component) :
    a.register name c = .ok { a with components := a.components ++ [(name, c)] } := by
  have free := Table.get?_eq_none_iff.2 free
  unfold register
  rw [if_neg (by simp [free]), Table.put_eq_append free]

/-- The assembly after components are registered in turn, of which those with a taken name are
refused. -/
def registerAll (a : Assembly) : List (String × Component) → Assembly
  | [] => a
  | (name, c) :: calls => ((a.register name c).toOption.getD a).registerAll calls

/-- The assembly of a policy after components are registered in turn. -/
def registered (policy : LifetimePolicy) (calls : List (String × Component)) : Assembly :=
  registerAll { policy := policy } calls

/-- Registering leaves the policy as it is. -/
theorem policy_registerAll (a : Assembly) (calls : List (String × Component)) :
    (a.registerAll calls).policy = a.policy := by
  induction calls generalizing a with
  | nil => rfl
  | cons call calls ih =>
    rw [registerAll, ih]
    by_cases taken : call.1 ∈ a.components.map (·.1)
    · rw [register_of_mem taken]
      rfl
    · rw [register_of_not_mem taken]
      rfl

end Registering

/-! ## Roles with one component -/

/-- A role that none or several of the named components have, and what is said of it. -/
inductive Unmet (role : String) : List String → String → Prop
  | absent : Unmet role [] s!"No qualifying component of type '{role}' available"
  | several {names : List String} (several : 2 ≤ names.length) :
      Unmet role names (s!"Expected single matching component of type '{role}' but found " ++
        (s!"{names.length}: " ++ ",".intercalate names))

/-- A role is filled by exactly one component, or the message says how many there are. -/
theorem single_cases {α : Type} (role : String) (xs : List (String × α)) :
    (∃ x, xs = [x] ∧ single role xs = .ok x) ∨
      ∃ message, Unmet role (xs.map (·.1)) message ∧ single role xs = .error (.wiring message) := by
  match xs with
  | [] => exact .inr ⟨_, .absent, rfl⟩
  | [x] => exact .inl ⟨x, rfl, rfl⟩
  | x :: y :: rest =>
    refine .inr ⟨_, .several (by simp), ?_⟩
    unfold single
    simp only [List.length_map]
    rfl

/-! ## Clients of different grants -/

section Clients

variable {clients : List (String × ExchangeClient)} {r : ClientRegistration}
  {validate : ExchangeClient → ClientRegistration → List String}

/-- A grant type that several clients serve, the first of the kind, and what is said of it. -/
inductive Contested (clients : List (String × ExchangeClient)) : String → Prop
  | mk {front rest : List (String × ExchangeClient)} {name : String} {c : ExchangeClient}
      {names : List String} (listed : clients = front ++ (name, c) :: rest)
      (first : ∀ x ∈ front, (namesFor clients x.2.grantType).length = 1)
      (served : names = namesFor clients c.grantType) (several : 2 ≤ names.length) :
      Contested clients
        ("Expected single matching component of type 'TokenExchangeClient' for grant " ++
          (s!"type '{c.grantType.name}' but found {names.length}: " ++ ",".intercalate names))

/-- A grant has as many names as it has clients. -/
theorem length_namesFor (clients : List (String × ExchangeClient)) (grant : GrantType) :
    (namesFor clients grant).length = (clients.map (·.2.grantType)).count grant := by
  rw [namesFor, List.length_map, ← List.countP_eq_length_filter, List.count, List.countP_map]
  exact List.countP_congr fun x _ => by simp

theorem namesFor_pos {x : String × ExchangeClient} (member : x ∈ clients) :
    1 ≤ (namesFor clients x.2.grantType).length := by
  rw [length_namesFor]
  exact List.count_pos_iff.2 (List.mem_map_of_mem member)

/-- Grants that nobody contests are different. -/
theorem nodup_of_contested? (uncontested : contested? clients = none) :
    (clients.map (·.2.grantType)).Nodup := by
  rw [List.nodup_iff_count_le_one]
  intro grant
  by_cases served : grant ∈ clients.map (·.2.grantType)
  · obtain ⟨x, member, rfl⟩ := List.mem_map.1 served
    have alone := List.findSome?_eq_none_iff.1 uncontested x member
    rw [← length_namesFor]
    by_contra several
    simp [not_le.1 several] at alone
  · rw [List.count_eq_zero.2 served]
    exact Nat.zero_le 1

/-- Grants that are different are contested by nobody. -/
theorem contested?_of_nodup (distinct : (clients.map (·.2.grantType)).Nodup) :
    contested? clients = none := by
  refine List.findSome?_eq_none_iff.2 fun x _ => if_neg ?_
  rw [length_namesFor]
  exact Nat.not_lt.2 (List.nodup_iff_count_le_one.1 distinct _)

theorem registryOf_of_nodup (distinct : (clients.map (·.2.grantType)).Nodup) :
    registryOf clients = .ok ⟨clients.map (·.2)⟩ := by
  unfold registryOf
  rw [contested?_of_nodup distinct]
  have distinct : ((clients.map Prod.snd).map (·.grantType)).Nodup := by rwa [List.map_map]
  exact Registry.foldlM_register_of_nodup (r := {}) distinct

/-- The registry is made, or the message names a grant that several clients serve. -/
theorem registryOf_cases (clients : List (String × ExchangeClient)) :
    (clients.map (·.2.grantType)).Nodup ∨
      ∃ message, Contested clients message ∧ registryOf clients = .error (.wiring message) := by
  cases contested : contested? clients with
  | none => exact .inl (nodup_of_contested? contested)
  | some found =>
    obtain ⟨front, ⟨name, c⟩, rest, listed, at_c, alone⟩ := List.findSome?_eq_some_iff.1 contested
    obtain ⟨several, rfl⟩ : 1 < (namesFor clients c.grantType).length ∧
        (c.grantType, namesFor clients c.grantType) = found := by
      simpa using at_c
    refine .inr ⟨_, .mk listed (fun x member => ?_) rfl several, ?_⟩
    · have alone : (namesFor clients x.2.grantType).length ≤ 1 := by simpa using alone x member
      exact le_antisymm alone (namesFor_pos (by rw [listed]; simp [member]))
    · unfold registryOf
      rw [contested]
      rfl

/-! ## Registrations that are served -/

/-- Clients serve a registration: one has its grant if that is unattended, and one that has its
grant has nothing against it. -/
structure Serve (validate : ExchangeClient → ClientRegistration → List String)
    (clients : List ExchangeClient) (r : ClientRegistration) : Prop where
  unattended : r.grantType = .clientCredentials → ∃ c ∈ clients, c.grantType = r.grantType
  valid : ∀ c ∈ clients, c.grantType = r.grantType → validate c r = []

/-- A registration is without issues exactly if a client of its grant accepts it. -/
theorem registrationIssues_eq_nil_iff {cs : List ExchangeClient}
    (distinct : (cs.map (·.grantType)).Nodup) :
    registrationIssues validate ⟨cs⟩ r = [] ↔ Serve validate cs r := by
  unfold registrationIssues
  cases found : Registry.find? ⟨cs⟩ r.grantType with
  | some c =>
    have member : c ∈ cs := List.mem_of_find?_eq_some found
    have served : c.grantType = r.grantType := Registry.grantType_of_find? found
    refine ⟨fun valid => ⟨fun _ => ⟨c, member, served⟩, fun d other same => ?_⟩, fun serve =>
      serve.valid c member served⟩
    rw [List.inj_on_of_nodup_map distinct other member (same.trans served.symm)]
    exact valid
  | none =>
    have unserved (c : ExchangeClient) (member : c ∈ cs) : c.grantType ≠ r.grantType := by
      simpa using List.find?_eq_none.1 found c member
    by_cases unattended : r.grantType.isUnattended = true
    · simp only [unattended, if_true, List.cons_ne_nil, false_iff]
      intro serve
      obtain ⟨c, member, same⟩ := serve.unattended (GrantType.isUnattended_iff.1 unattended)
      exact unserved c member same
    · simp only [unattended, Bool.false_eq_true, if_false, true_iff]
      exact ⟨fun same => absurd (GrantType.isUnattended_iff.2 same) unattended,
        fun c member same => absurd same (unserved c member)⟩

end Clients

/-! ## Assemblies that fit -/

variable {roles : Roles} {a : Assembly} {source : RegistrationSource} {store : String × Store}

/-- The exchange clients of an assembly. -/
def exchangeClients (roles : Roles) (a : Assembly) : List ExchangeClient :=
  (a.candidates roles.client?).map (·.2)

/-- What is wrong with the registrations that a source lists, one after another. -/
def issues (roles : Roles) (a : Assembly) (source : RegistrationSource) : List String :=
  ((roles.listed? source).getD []).flatMap
    (registrationIssues roles.validate ⟨a.exchangeClients roles⟩)

/-- The components fit together, with the one source and the one store among them. -/
structure Fits (roles : Roles) (a : Assembly) (source : RegistrationSource)
    (store : String × Store) : Prop where
  oneSource : ∃ name, a.candidates roles.source? = [(name, source)]
  oneStore : a.candidates roles.store? = [store]
  grants : ((a.exchangeClients roles).map (·.grantType)).Nodup
  served : ∀ rs, roles.listed? source = some rs →
    ∀ r ∈ rs, Serve roles.validate (a.exchangeClients roles) r

/-- The first thing wrong with the components of an assembly, and what is said of it. -/
inductive Unfit (roles : Roles) (a : Assembly) : String → Prop
  | source {message : String}
      (unmet : Unmet "ClientRegistrationStore" ((a.candidates roles.source?).map (·.1)) message) :
      Unfit roles a message
  | store {message : String} (oneSource : ∃ x, a.candidates roles.source? = [x])
      (unmet : Unmet "AuthorizedClientStore" ((a.candidates roles.store?).map (·.1)) message) :
      Unfit roles a message
  | grant {message : String} (oneSource : ∃ x, a.candidates roles.source? = [x])
      (oneStore : ∃ x, a.candidates roles.store? = [x])
      (contested : Contested (a.candidates roles.client?) message) :
      Unfit roles a message
  | registrations {name : String} {source : RegistrationSource}
      (oneSource : a.candidates roles.source? = [(name, source)])
      (oneStore : ∃ x, a.candidates roles.store? = [x])
      (grants : ((a.exchangeClients roles).map (·.grantType)).Nodup)
      (unserved : a.issues roles source ≠ []) :
      Unfit roles a ("Invalid client registrations:\n  " ++ "\n  ".intercalate
        (a.issues roles source))

/-- There is no issue exactly if every registration listed is served. -/
theorem issues_eq_nil_iff (grants : ((a.exchangeClients roles).map (·.grantType)).Nodup) :
    a.issues roles source = [] ↔
      ∀ rs, roles.listed? source = some rs →
        ∀ r ∈ rs, Serve roles.validate (a.exchangeClients roles) r := by
  unfold issues
  simp only [List.flatMap_eq_nil_iff, registrationIssues_eq_nil_iff grants]
  cases roles.listed? source with
  | none => simp
  | some rs => simp

/-- The check fails with all issues at once, each on a line of its own. -/
theorem checkRegistrations_eq (roles : Roles) (a : Assembly) (source : RegistrationSource) :
    checkRegistrations roles ⟨a.exchangeClients roles⟩ source =
      if a.issues roles source = [] then .ok ()
      else
        .error (.wiring ("Invalid client registrations:\n  " ++ "\n  ".intercalate
        (a.issues roles source))) := by
  simp only [checkRegistrations, List.isEmpty_iff]
  rfl

theorem grants_exchangeClients (roles : Roles) (a : Assembly) :
    (a.exchangeClients roles).map (·.grantType) = (a.candidates roles.client?).map
      (·.2.grantType) :=
  List.map_map

/-- The components of an assembly fit together, and its parts are these; or the first thing wrong is
told. -/
theorem parts_cases (roles : Roles) (a : Assembly) :
    (∃ source store, Fits roles a source store ∧
        a.parts roles = .ok (source, store, ⟨a.exchangeClients roles⟩)) ∨
      ∃ message, Unfit roles a message ∧ a.parts roles = .error (.wiring message) := by
  unfold parts
  rcases single_cases "ClientRegistrationStore" (a.candidates roles.source?) with
    ⟨⟨name, source⟩, source_eq, found⟩ | ⟨message, unmet, refused⟩
  · rw [found]
    rcases single_cases "AuthorizedClientStore" (a.candidates roles.store?) with
      ⟨store, store_eq, found⟩ | ⟨message, unmet, refused⟩
    · rw [found]
      rcases registryOf_cases (a.candidates roles.client?) with distinct
        | ⟨message, contested, refused⟩
      · -- all roles are filled, so the registrations decide
        have grants : ((a.exchangeClients roles).map (·.grantType)).Nodup := by
          rwa [grants_exchangeClients]
        have registry : registryOf (a.candidates roles.client?) = .ok ⟨a.exchangeClients roles⟩ :=
          registryOf_of_nodup distinct
        have checked := checkRegistrations_eq roles a source
        rw [registry]
        simp only [bind, Except.bind, checked]
        by_cases served : a.issues roles source = []
        · rw [if_pos served]
          exact .inl ⟨source, store, ⟨⟨name, source_eq⟩, store_eq, grants,
            (issues_eq_nil_iff grants).1 served⟩, rfl⟩
        · rw [if_neg served]
          exact .inr ⟨_, .registrations source_eq ⟨store, store_eq⟩ grants served, rfl⟩
      · rw [refused]
        exact .inr ⟨message, .grant ⟨_, source_eq⟩ ⟨store, store_eq⟩ contested, rfl⟩
    · rw [refused]
      exact .inr ⟨message, .store ⟨_, source_eq⟩ unmet, rfl⟩
  · rw [refused]
    exact .inr ⟨message, .source unmet, rfl⟩

/-- A role is unmet only if it is not filled by exactly one component. -/
theorem Unmet.ne_one {role message : String} {names : List String}
    (unmet : Unmet role names message) :
    names.length ≠ 1 := by
  cases unmet with
  | absent => simp
  | several several => omega

/-- A grant is contested only if two clients serve it. -/
theorem Contested.not_nodup {clients : List (String × ExchangeClient)} {message : String}
    (contested : Contested clients message) : ¬ (clients.map (·.2.grantType)).Nodup := by
  intro distinct
  obtain ⟨-, -, rfl, several⟩ := contested
  rw [length_namesFor] at several
  exact absurd (List.nodup_iff_count_le_one.1 distinct _) (Nat.not_le.2 several)

/-- Something is wrong only with components that do not fit. -/
theorem Unfit.not_fits {message : String} (unfit : Unfit roles a message) :
    ¬ Fits roles a source store := by
  rintro ⟨⟨name, source_eq⟩, store_eq, grants, served⟩
  cases unfit with
  | source unmet => exact unmet.ne_one (by simp [source_eq])
  | store _ unmet => exact unmet.ne_one (by simp [store_eq])
  | grant _ _ contested => exact contested.not_nodup (by rwa [← grants_exchangeClients])
  | registrations same _ _ unserved =>
    cases source_eq.symm.trans same
    exact unserved ((issues_eq_nil_iff grants).2 served)

/-! ## Engines -/

/-- Why an assembly is not built: the first thing wrong with its components, or a margin that is no
duration. -/
inductive Flaw (roles : Roles) (a : Assembly) : Fault → Prop
  | components {message : String} (unfit : Unfit roles a message) :
      Flaw roles a (.failure (.wiring message))
  | margin (fits : ∃ source store, Fits roles a source store)
      (endless : endlessMargin ≤ a.policy.clockSkew) :
      Flaw roles a (.durationTooLong (a.policy.clockSkew / 86400))

/-- What a build of an assembly gives. -/
theorem buildBy_cases (roles : Roles) (accepted : a.policy.IsAccepted) :
    (∃ source store, Fits roles a source store ∧ a.policy.clockSkew < endlessMargin ∧
        (a.buildBy roles).2 = .ok ⟨⟨source, ⟨a.exchangeClients roles⟩, a.policy⟩, store.1,
          store.2⟩) ∨
      ∃ fault, Flaw roles a fault ∧ (a.buildBy roles).2 = .error fault := by
  unfold buildBy
  rcases parts_cases roles a with ⟨source, store, fits, parts⟩ | ⟨message, unfit, parts⟩
  · rw [parts]
    simp only [Engine.create_eq _ _ accepted]
    by_cases within : a.policy.clockSkew < endlessMargin
    · rw [if_pos within]
      exact .inl ⟨source, store, fits, within, rfl⟩
    · rw [if_neg within]
      exact .inr ⟨_, .margin ⟨source, store, fits⟩ (not_lt.1 within), rfl⟩
  · rw [parts]
    exact .inr ⟨_, .components unfit, rfl⟩

/-- An assembly with a flaw does not fit, or its margin has no end. -/
theorem Flaw.not_fits_within_margin {fault : Fault} (flaw : Flaw roles a fault) :
    ¬ ((∃ source store, Fits roles a source store) ∧ a.policy.clockSkew < endlessMargin) := by
  rintro ⟨⟨source, store, fits⟩, within⟩
  cases flaw with
  | components unfit => exact unfit.not_fits fits
  | margin _ endless => exact absurd within (not_lt.2 endless)

/-- An assembly of components that are registered in turn is built just if they fit together and the
margin is a duration, and then of these components; any other one is refused for its first flaw. A
component whose name is taken is refused, and the others are kept as they come. -/
theorem built_iff_fits_within_margin (roles : Roles) {policy : LifetimePolicy}
    (accepted : policy.IsAccepted) (calls : List (String × Component)) :
    (∀ (a : Assembly) (name : String) (c : Component), a.register name c =
      if name ∈ a.components.map (·.1) then
        .error (.wiring s!"Component '{name}' is already registered")
      else .ok { a with components := a.components ++ [(name, c)] }) ∧
    ((∃ made, ((registered policy calls).buildBy roles).2 = .ok made) ↔
      (∃ source store, Fits roles (registered policy calls) source store) ∧
        policy.clockSkew < endlessMargin) ∧
    (∀ made, ((registered policy calls).buildBy roles).2 = .ok made →
      ∃ source store, Fits roles (registered policy calls) source store ∧
        made = ⟨⟨source, ⟨(registered policy calls).exchangeClients roles⟩, policy⟩, store.1,
          store.2⟩) ∧
    ∀ fault, ((registered policy calls).buildBy roles).2 = .error fault →
      Flaw roles (registered policy calls) fault := by
  refine ⟨fun a name c => ?_, ?_⟩
  · split
    · next taken => exact register_of_mem taken c
    · next free => exact register_of_not_mem free c
  · have kept : (registered policy calls).policy = policy := policy_registerAll _ calls
    -- from here on it does not matter by which calls the components came
    generalize registered policy calls = a at kept
    cases kept
    rcases buildBy_cases roles accepted with ⟨source, store, fits, within, built⟩
      | ⟨fault, flaw, refused⟩
    · refine ⟨⟨fun _ => ⟨⟨source, store, fits⟩, within⟩, fun _ => ⟨_, built⟩⟩, fun made h =>
        ?_, fun fault h => ?_⟩
      · cases built.symm.trans h
        exact ⟨source, store, fits, rfl⟩
      · cases built.symm.trans h
    · refine ⟨⟨fun ⟨made, h⟩ => ?_, fun fits => absurd fits flaw.not_fits_within_margin⟩,
        fun made h => ?_, fun fault h => ?_⟩
      · cases refused.symm.trans h
      · cases refused.symm.trans h
      · cases refused.symm.trans h
        exact flaw

end Assembly

namespace Wired

def registration (secret : Option String) : ClientRegistration :=
  { registrationId := "svc", clientId := "app", clientSecret := secret,
    grantType := .clientCredentials, tokenUri := "/token" }

def catalog (secret : Option String) : Catalog := ⟨[registration secret], by simp⟩

/-- Four components, of which the last has no free name. -/
def calls (secret : Option String) (requester : ExchangeClient) : List (String × Component) :=
  [("registrations", .registrations (.catalog (catalog secret))), ("store", .store (.memory [])),
    ("requester", .client requester), ("store", .other)]

/-- One source with one registration, one store and one client that accepts it fit together. -/
theorem fits {validate : ExchangeClient → ClientRegistration → List String} {secret : Option String}
    {requester : ExchangeClient} (policy : LifetimePolicy)
    (grant : requester.grantType = .clientCredentials)
    (valid : validate requester (registration secret) = []) :
    Assembly.Fits { Roles.usual with validate }
      (Assembly.registered policy (calls secret requester)) (.catalog (catalog secret))
      ("store", .memory []) where
  oneSource := ⟨"registrations", rfl⟩
  oneStore := rfl
  grants := List.nodup_singleton _
  served rs listed r member := by
    cases listed
    obtain rfl := List.mem_singleton.1 member
    refine ⟨fun _ => ⟨requester, List.mem_singleton_self _, grant⟩, fun c served _ => ?_⟩
    cases List.mem_singleton.1 served
    exact valid

/-- A client that has nothing against any registration. -/
def lenient : ExchangeClient := .plugin "LenientClient" .clientCredentials 0

def lenientRoles : Roles := { Roles.usual with validate := fun _ _ => [] }

def endless : LifetimePolicy := { clockSkew := 100000000000000 }

end Wired

namespace Assembly

open Wired in
/-- A registration without a secret is served by a client that accepts it. -/
theorem lenient_client_built :
    ((registered {} (calls none lenient)).buildBy lenientRoles).2 =
      .ok ⟨⟨.catalog (catalog none), ⟨[lenient]⟩, {}⟩, "store", .memory []⟩ := by
  obtain ⟨-, built, told, -⟩ :=
    built_iff_fits_within_margin lenientRoles LifetimePolicy.isAccepted_default (calls none lenient)
  obtain ⟨made, h⟩ := built.2 ⟨⟨_, _, fits {} rfl rfl⟩, by decide⟩
  obtain ⟨source, store, fitting, rfl⟩ := told made h
  obtain ⟨name, same⟩ := fitting.oneSource
  cases same
  cases fitting.oneStore
  exact h

open Wired in
/-- Components that fit together, with a policy that is accepted, and no engine. -/
theorem endless_margin_unbuilt :
    endless.IsAccepted ∧
      Fits .usual (registered endless (calls (some "s") (.clientCredentials {})))
        (.catalog (catalog (some "s"))) ("store", .memory []) ∧
      (registered endless (calls (some "s") (.clientCredentials {}))).build.2 = .error
        (.durationTooLong 1157407407) :=
  ⟨LifetimePolicy.isAccepted_iff.2 (by decide), fits endless rfl rfl, rfl⟩

end Assembly

end TokenBroker
