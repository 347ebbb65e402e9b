import TokenBroker.Exchange.Client

/-!
# The registry of exchange clients

One client for each grant type. A second client for a grant type is refused and changes nothing.
-/

namespace TokenBroker

/-- Exchange clients, in the order in which they were registered. -/
structure Registry where
  clients : List ExchangeClient := []
  deriving Inhabited

namespace Registry

/-- The client for a grant type. -/
def find? (r : Registry) (grant : GrantType) : Option ExchangeClient :=
  r.clients.find? (·.grantType = grant)

/-- The registry with a further client, unless its grant type has one. -/
def register (r : Registry) (c : ExchangeClient) : Except Failure Registry :=
  match r.find? c.grantType with
  | some existing =>
    .error (.wiring (s!"A token exchange client for grant type '{c.grantType.name}' is already " ++
      s!"registered ({existing.className})"))
  | none => .ok ⟨r.clients ++ [c]⟩

/-- The names of the grant types that have a client, sorted. -/
def grantNames (r : Registry) : List String :=
  (r.clients.map (·.grantType.name)).mergeSort (· ≤ ·)

/-- The client for a grant type that has to have one. -/
def get (r : Registry) (grant : GrantType) : Except Failure ExchangeClient :=
  match r.find? grant with
  | some c => .ok c
  | none =>
    let names := r.grantNames
    let available := if names.isEmpty then "(none)" else ", ".intercalate names
    .error (.wiring (s!"No token exchange client registered for grant type '{grant.name}'. " ++
      s!"Available grant types: {available}"))

/-- A registry of clients, if their grant types are distinct. -/
def ofClients (cs : List ExchangeClient) : Except Failure Registry :=
  cs.foldlM register {}

/-- The registry of the built-in clients. -/
def builtIn (settings : RequestSettings) : Registry :=
  ⟨[.clientCredentials settings, .refreshToken settings]⟩

end Registry

end TokenBroker
