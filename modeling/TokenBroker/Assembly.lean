import TokenBroker.Engine.Basic

/-!
# Assembling an engine

An assembly collects components by name and builds an engine of them. It refuses a second component
of a name; `build` refuses a role that no component or several components have, a grant type that
several exchange clients serve, and registrations that the exchange clients cannot serve. Components
come from the program itself and from extensions that offer further exchange clients.
-/

namespace TokenBroker

/-- A part of an engine, or something that has no role in one. -/
inductive Component
  | registrations (source : RegistrationSource)
  | store (s : Store)
  | client (c : ExchangeClient)
  | other

namespace Component

/-- The source of registrations that a component is. -/
def source? : Component → Option RegistrationSource
  | .registrations source => some source
  | _ => none

/-- The store that a component is. -/
def store? : Component → Option Store
  | .store s => some s
  | _ => none

/-- The exchange client that a component is. -/
def client? : Component → Option ExchangeClient
  | .client c => some c
  | _ => none

end Component

/-- How components present themselves: the roles of each, of which it may have several, the
registrations that a source lists, and what keeps a client from serving a registration. -/
structure Roles where
  source? : Component → Option RegistrationSource
  store? : Component → Option Store
  client? : Component → Option ExchangeClient
  listed? : RegistrationSource → Option (List ClientRegistration)
  validate : ExchangeClient → ClientRegistration → List String

/-- Each component in its one role; a plug-in keeps the checks that it inherits. -/
def Roles.usual : Roles where
  source? := Component.source?
  store? := Component.store?
  client? := Component.client?
  listed? := RegistrationSource.listed?
  validate := ExchangeClient.validate

/-- What an extension yields when it is loaded. -/
inductive Offer
  | client (c : ExchangeClient)
  /-- Something that is no exchange client. -/
  | other
  /-- Nothing: loading it failed with a text. -/
  | failed (text : String)

/-- An extension that offers an exchange client under a name. -/
structure Extension where
  name : String
  offer : Offer

/-- Components by name. -/
structure Assembly where
  policy : LifetimePolicy := {}
  components : Table String Component := []

/-- An engine, the store that it works with, and the name of that store's component. -/
structure Assembled where
  engine : Engine
  storeName : String
  store : Store

/-- What loading extensions gives: the assembly afterwards, the log, and the names of the components
that were added. -/
structure Discovery where
  assembly : Assembly
  log : List LogEntry
  names : Except Failure (List String)

namespace Assembly

/-- Adds a component under a name that is free. -/
def register (a : Assembly) (name : String) (c : Component) : Except Failure Assembly :=
  if (a.components.get? name).isSome then
    .error (.wiring s!"Component '{name}' is already registered")
  else .ok { a with components := a.components.put name c }

/-- Loads extensions in turn. One that fails or offers no exchange client is passed over; the first
one whose name is taken ends the loading, and those before it stay. -/
def discover (a : Assembly) : List Extension → Discovery
  | [] => ⟨a, [], .ok []⟩
  | x :: xs =>
    match x.offer with
    | .failed text =>
      let rest := a.discover xs
      { rest with log := .componentFailed x.name text :: rest.log }
    | .other =>
      let rest := a.discover xs
      { rest with log := .componentUnfit x.name :: rest.log }
    | .client c =>
      match a.register x.name (.client c) with
      | .error f => ⟨a, [], .error f⟩
      | .ok a =>
        let rest := a.discover xs
        { rest with
          log := .componentLoaded x.name c.grantType :: rest.log
          names := rest.names.map (x.name :: ·) }

/-- The components with a role, by name. -/
def candidates {α : Type} (role : Component → Option α) (a : Assembly) : List (String × α) :=
  a.components.filterMap fun (name, c) => (role c).map fun x => (name, x)

/-- The sources of registrations, by name. -/
def sources (a : Assembly) : List (String × RegistrationSource) := a.candidates Component.source?

/-- The exchange clients, by name. -/
def clients (a : Assembly) : List (String × ExchangeClient) := a.candidates Component.client?

/-- The one candidate for a role. -/
def single {α : Type} (role : String) : List (String × α) → Except Failure (String × α)
  | [candidate] => .ok candidate
  | [] => .error (.wiring s!"No qualifying component of type '{role}' available")
  | candidates =>
    let names := ",".intercalate (candidates.map (·.1))
    .error (.wiring (s!"Expected single matching component of type '{role}' but found " ++
      s!"{candidates.length}: {names}"))

/-- The names of the clients for a grant type. -/
def namesFor (clients : List (String × ExchangeClient)) (grant : GrantType) : List String :=
  (clients.filter (·.2.grantType = grant)).map (·.1)

/-- The first grant type that several clients serve, with their names. -/
def contested? (clients : List (String × ExchangeClient)) : Option (GrantType × List String) :=
  clients.findSome? fun (_, c) =>
    let names := namesFor clients c.grantType
    if 1 < names.length then some (c.grantType, names) else none

/-- The registry of named clients, if no grant type has several. -/
def registryOf (clients : List (String × ExchangeClient)) : Except Failure Registry :=
  match contested? clients with
  | some (grant, names) =>
    let listed := ",".intercalate names
    .error (.wiring ("Expected single matching component of type 'TokenExchangeClient' for grant " ++
      s!"type '{grant.name}' but found {names.length}: {listed}"))
  | none => Registry.ofClients (clients.map (·.2))

/-- What keeps a registry from serving a registration. An unattended grant needs a client; another
one can do without. -/
def registrationIssues (validate : ExchangeClient → ClientRegistration → List String)
    (registry : Registry) (r : ClientRegistration) : List String :=
  match registry.find? r.grantType with
  | some c => validate c r
  | none =>
    if r.grantType.isUnattended then
      ["No qualifying component of type 'TokenExchangeClient' for grant type " ++
        s!"'{r.grantType.name}' (needed by registration '{r.registrationId}')"]
    else []

/-- Checks every registration of a source that can be listed. -/
def checkRegistrations (roles : Roles) (registry : Registry) (source : RegistrationSource) :
    Except Failure Unit :=
  let issues := ((roles.listed? source).getD []).flatMap
    (registrationIssues roles.validate registry)
  if issues.isEmpty then .ok ()
  else .error (.wiring ("Invalid client registrations:\n  " ++ "\n  ".intercalate issues))

/-- The parts of an engine, checked against each other. -/
def parts (roles : Roles) (a : Assembly) :
    Except Failure (RegistrationSource × (String × Store) × Registry) := do
  let (_, source) ← single "ClientRegistrationStore" (a.candidates roles.source?)
  let store ← single "AuthorizedClientStore" (a.candidates roles.store?)
  let registry ← registryOf (a.candidates roles.client?)
  checkRegistrations roles registry source
  return (source, store, registry)

/-- Builds an engine, and says what is logged on the way. -/
def buildBy (roles : Roles) (a : Assembly) : List LogEntry × Except Fault Assembled :=
  match a.parts roles with
  | .error f => ([], .error (.failure f))
  | .ok (source, (name, store), registry) =>
    ([.assembled registry.grantNames],
      (Engine.create source registry a.policy).map fun e => ⟨e, name, store⟩)

/-- Builds an engine of components with their usual roles. -/
def build (a : Assembly) : List LogEntry × Except Fault Assembled := a.buildBy .usual

/-- The assembly in which the store of a name holds something else. -/
def keepStore (a : Assembly) (name : String) (s : Store) : Assembly :=
  { a with components := a.components.put name (.store s) }

end Assembly

/-- The name of the class of a source of registrations. -/
def RegistrationSource.className : RegistrationSource → String
  | .catalog _ => "InMemoryClientRegistrationStore"
  | .unlisted _ => "OpaqueRegistrationStore"

end TokenBroker
