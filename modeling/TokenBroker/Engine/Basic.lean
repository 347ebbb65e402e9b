import TokenBroker.Registration
import TokenBroker.Exchange.Registry
import TokenBroker.Store.Basic

/-!
# The resolution engine

An engine finds the registration of an id, decides whether a stored client is still usable, plans an
exchange when it is not, and makes a client of the response. This module holds those decisions, each
of them a function of its own; `Engine.Phase` puts them in order.
-/

namespace TokenBroker

/-- Where an engine finds registrations: in a catalog that can be listed, or in a source that only
answers for single ids, the last registration of an id counting. -/
inductive RegistrationSource
  | catalog (c : Catalog)
  | unlisted (registrations : List ClientRegistration)

/-- The registration of an id. -/
def RegistrationSource.find? : RegistrationSource → String → Option ClientRegistration
  | .catalog c, id => c.find? id
  | .unlisted rs, id => rs.reverse.find? (·.registrationId = id)

/-- The registrations of a source, if it can be listed. -/
def RegistrationSource.listed? : RegistrationSource → Option (List ClientRegistration)
  | .catalog c => some c.registrations
  | .unlisted _ => none

/-- The parts that an engine works with. -/
structure Engine where
  source : RegistrationSource
  clients : Registry
  policy : LifetimePolicy

/-- How a resolution ends. -/
abbrev Outcome := Except Fault AuthorizedClient

/-- An exchange that is to be made: by which client, of what, and in place of which stored
client. -/
structure Plan where
  client : ExchangeClient
  request : GrantRequest
  previous : Option AuthorizedClient

namespace Engine

/-- The engine of its parts. The margin of its policy has to be a duration. -/
def create (source : RegistrationSource) (clients : Registry) (policy : LifetimePolicy) :
    Except Fault Engine :=
  (checkDuration (policy.clockSkew * 1000000)).map fun _ => ⟨source, clients, policy⟩

/-- The margin by which tokens count as expired early, in microseconds. -/
def skew (e : Engine) : Int := e.policy.clockSkew * 1000000

/-- Whether a stored client can be used at a time. -/
def isUsable (e : Engine) (c : AuthorizedClient) (now : DateTime) : Except Fault Bool :=
  (c.accessToken.isExpired now e.skew).map (!·)

/-- The exchange that gets a client for a registration. An unattended grant is run again, whatever
is stored; for another one the refresh token of the stored client is used, if there is one and a
client for it; else an end user is needed. -/
def plan (e : Engine) (key : Key) (r : ClientRegistration) (existing : Option AuthorizedClient) :
    Except Failure Plan :=
  if r.grantType.isUnattended then
    (e.clients.get r.grantType).map fun c => ⟨c, .clientCredentials r, none⟩
  else
    match existing with
    | some old =>
      match old.refreshToken, e.clients.find? .refreshToken with
      | some token, some c => .ok ⟨c, .refreshToken r old.accessToken token, some old⟩
      | _, _ => .error (.interactionRequired key.registrationId key.principalName r.grantType.name)
    | none => .error (.interactionRequired key.registrationId key.principalName r.grantType.name)

/-- The client that a response makes for a plan carried out at `issuedAt`. Without a lifetime of its
own the token gets the default one; without a new refresh token the old one stays. -/
def clientOf (e : Engine) (key : Key) (p : Plan) (issuedAt : DateTime) (response : TokenResponse) :
    Outcome :=
  let seconds := response.expiresIn.getD e.policy.defaultLifetime
  match issuedAt.shift? (seconds * 1000000) with
  | none => .error .dateOutOfRange
  | some expiresAt =>
    let refreshToken : Option RefreshToken := match response.refreshToken with
      | some token => some ⟨token, some issuedAt⟩
      | none => p.previous.bind (·.refreshToken)
    .ok {
      registration := p.request.registration
      principalName := key.principalName
      accessToken :=
        { value := response.accessToken
          tokenType := response.tokenType
          scopes := response.scopes
          issuedAt := some issuedAt
          expiresAt := some expiresAt }
      refreshToken }

end Engine

end TokenBroker
