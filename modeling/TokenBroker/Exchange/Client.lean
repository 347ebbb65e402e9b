import TokenBroker.Endpoint.Request
import TokenBroker.Endpoint.Response
import TokenBroker.Log

/-!
# Exchange clients

An exchange client trades one kind of grant for a token. The two built-in ones post a request to the
token endpoint; a plug-in is a client from outside, of which only the grant type and the name of its
class are known. An exchange starts by `begin`, which says what is sent, and ends by `conclude`,
which reads what comes back.
-/

namespace TokenBroker

/-- What is traded in one exchange. -/
inductive GrantRequest
  | clientCredentials (registration : ClientRegistration)
  | refreshToken (registration : ClientRegistration) (accessToken : AccessToken)
      (refreshToken : RefreshToken)
  deriving DecidableEq

namespace GrantRequest

/-- The registration that a request is made for. -/
def registration : GrantRequest → ClientRegistration
  | .clientCredentials r => r
  | .refreshToken r _ _ => r

/-- The grant type of a request. -/
def grantType : GrantRequest → GrantType
  | .clientCredentials _ => .clientCredentials
  | .refreshToken .. => .refreshToken

/-- The name of a request's class. -/
def className : GrantRequest → String
  | .clientCredentials _ => "ClientCredentialsGrantRequest"
  | .refreshToken .. => "RefreshTokenGrantRequest"

/-- The parameters of the grant. -/
def parameters : GrantRequest → List (String × String)
  | .clientCredentials r =>
    ("grant_type", GrantType.clientCredentials.name) :: TokenRequest.scopeFields r.scopes
  | .refreshToken _ access refresh =>
    ("grant_type", GrantType.refreshToken.name) :: ("refresh_token", refresh.value) ::
      TokenRequest.scopeFields access.scopes

/-- The scopes that are granted if the response names none. -/
def requestedScopes : GrantRequest → List String
  | .clientCredentials r => r.scopes
  | .refreshToken _ access _ => access.scopes

/-- The registration of a request of no particular grant, from a JSON value. -/
def registrationOfJson : Json → Checked ClientRegistration :=
  Validate.model (Validate.required "registration" ClientRegistration.ofJson)

/-- A request for client credentials from a JSON value. -/
def clientCredentialsOfJson (j : Json) : Checked GrantRequest :=
  clientCredentials <$> registrationOfJson j

open Validate in
/-- A request for a refresh from a JSON value. -/
def refreshTokenOfJson : Json → Checked GrantRequest :=
  model fun ms =>
    refreshToken <$> required "registration" ClientRegistration.ofJson ms
      <*> required "access_token" AccessToken.ofJson ms
      <*> required "refresh_token" RefreshToken.ofJson ms

/-- A request as a JSON value. -/
def toJson (style : DateTime.ZoneStyle) : GrantRequest → Json
  | .clientCredentials r => .obj [("registration", r.toJson)]
  | .refreshToken r access refresh =>
    .obj [("registration", r.toJson), ("access_token", access.toJson style),
      ("refresh_token", refresh.toJson style)]

end GrantRequest

/-- A client for one grant type. -/
inductive ExchangeClient
  | clientCredentials (settings : RequestSettings)
  | refreshToken (settings : RequestSettings)
  | plugin (label : String) (grant : GrantType) (number : Nat)
  deriving DecidableEq

/-- What a transport gives back. -/
inductive Reply
  | answer (a : HttpAnswer)
  /-- The request got no answer. -/
  | failed (e : TransportError)
  /-- The transport broke in a way of its own. -/
  | broke (label text : String)
  /-- The user interrupted the call. -/
  | interrupted

/-- What an exchange has sent and waits for. -/
inductive Transmission
  | post (request : HttpRequest) (requestedScopes : List String)
  | ask (plugin : Nat)

namespace ExchangeClient

/-- The grant type that a client serves. -/
def grantType : ExchangeClient → GrantType
  | .clientCredentials _ => .clientCredentials
  | .refreshToken _ => .refreshToken
  | .plugin _ grant _ => grant

/-- The name of a client's class. -/
def className : ExchangeClient → String
  | .clientCredentials _ => "ClientCredentialsTokenClient"
  | .refreshToken _ => "RefreshTokenClient"
  | .plugin label _ _ => label

/-- The failure of a client that is given a request of another grant. -/
def mismatch (c : ExchangeClient) (request : GrantRequest) : Failure :=
  .of .general s!"{c.className} cannot exchange {request.className}"

/-- What a client sends for a request. A built-in client takes requests of its own grant only. -/
def begin (c : ExchangeClient) (request : GrantRequest) : Except Failure Transmission :=
  let post (settings : RequestSettings) : Transmission :=
    .post (TokenRequest.build request.registration request.parameters settings)
      request.requestedScopes
  match c, request with
  | .clientCredentials settings, .clientCredentials _ => .ok (post settings)
  | .refreshToken settings, .refreshToken .. => .ok (post settings)
  | .plugin _ _ number, _ => .ok (.ask number)
  | c, request => .error (c.mismatch request)

/-- The entries that the log gets when an exchange starts. -/
def logOfBegin (request : GrantRequest) : Transmission → List LogEntry
  | .post http _ => [.posting http.url request.registration.registrationId request.grantType.name]
  | .ask _ => []

/-- What comes of a reply to a posted request. -/
def conclude (url : String) (requestedScopes : List String) : Reply → Except Fault TokenResponse
  | .answer a => TokenResponse.ofAnswer a requestedScopes
  | .failed e => .error
      (.failure (.transport s!"Token request to {url} failed: {e.text}" none (some e)))
  | .broke label text => .error (.raised label text)
  | .interrupted => .error .interrupted

/-- The message for a registration without a token endpoint. -/
def endpointIssues (r : ClientRegistration) : List String :=
  if r.tokenUri = "" then [s!"Registration '{r.registrationId}' requires 'token_uri'"] else []

/-- The message for a registration whose method needs a secret and has none. -/
def secretIssues (r : ClientRegistration) : List String :=
  if r.authentication ≠ .none ∧ r.clientSecret.getD "" = "" then
    [s!"Registration '{r.registrationId}' uses '{r.authentication.name}' but has no client secret"]
  else []

/-- What keeps a client from serving a registration. Any registration with an endpoint can be
refreshed. -/
def validate (c : ExchangeClient) (r : ClientRegistration) : List String :=
  match c with
  | .refreshToken _ => endpointIssues r
  | .plugin .. => endpointIssues r ++ secretIssues r
  | .clientCredentials _ =>
    endpointIssues r ++ secretIssues r ++
      if r.grantType ≠ .clientCredentials then
        [s!"Registration '{r.registrationId}' has grant type '{r.grantType.name}', not " ++
          "'client_credentials'"]
      else []

end ExchangeClient

end TokenBroker
