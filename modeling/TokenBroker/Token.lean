import TokenBroker.Failure
import TokenBroker.Registration

/-!
# Tokens and authorized clients

Access tokens with their lifetime, and refresh tokens. `AccessToken.isExpired` compares the current
time with the end of the lifetime less a margin, which is taken off on the calendar of the end
itself.

An authorized client is a registration bound to a principal and its current tokens. A store holds at
most one for each key.
-/

namespace TokenBroker

/-! ## Tokens -/

/-- An access token. Without an end of its lifetime it never expires. -/
structure AccessToken where
  value : String
  tokenType : String := "Bearer"
  scopes : List String := []
  issuedAt : Option DateTime := none
  expiresAt : Option DateTime := none
  deriving DecidableEq, Inhabited

/-- A refresh token. -/
structure RefreshToken where
  value : String
  issuedAt : Option DateTime := none
  deriving DecidableEq, Inhabited

/-- A time, or null. -/
def Json.ofTime (style : DateTime.ZoneStyle) : Option DateTime → Json
  | none => .null
  | some t => .str (t.render style)

namespace AccessToken

open Validate in
/-- An access token from a JSON value. -/
def ofJson : Json → Checked AccessToken :=
  model fun ms =>
    mk <$> required "token_value" string ms
      <*> defaulted "token_type" string "Bearer" ms
      <*> defaulted "scopes" (sequence string) [] ms
      <*> optional "issued_at" time ms
      <*> optional "expires_at" time ms

/-- An access token as a JSON value. -/
def toJson (style : DateTime.ZoneStyle) (t : AccessToken) : Json :=
  .obj [("token_value", .str t.value), ("token_type", .str t.tokenType),
    ("scopes", .ofStrings t.scopes), ("issued_at", .ofTime style t.issuedAt),
    ("expires_at", .ofTime style t.expiresAt)]

/-- Whether a lifetime that ends at `expiresAt`, if ever, is over at `now`, `skew` microseconds
early. The moment at which that begins has to be a time of the calendar. -/
def isOver (expiresAt : Option GivenTime) (now : GivenTime) (skew : Int) : Except Fault Bool :=
  match expiresAt with
  | none => .ok false
  | some expiresAt =>
    match expiresAt.zoned.shift? (-skew) with
    | none => .error .dateOutOfRange
    | some limit => .ok (limit.notAfter now.zoned)

/-- Whether the token has expired at `now`, `skew` microseconds early. -/
def isExpired (t : AccessToken) (now : DateTime) (skew : Int) : Except Fault Bool :=
  isOver (t.expiresAt.map DateTime.given) now.given skew

end AccessToken

namespace RefreshToken

/-- A refresh token from a JSON value. -/
def ofJson : Json → Checked RefreshToken :=
  Validate.model fun ms =>
    mk <$> Validate.required "token_value" Validate.string ms
      <*> Validate.optional "issued_at" Validate.time ms

/-- A refresh token as a JSON value. -/
def toJson (style : DateTime.ZoneStyle) (t : RefreshToken) : Json :=
  .obj [("token_value", .str t.value), ("issued_at", .ofTime style t.issuedAt)]

end RefreshToken

/-! ## Authorized clients -/

/-- What a client is kept under: a registration id and the name of a principal. -/
structure Key where
  registrationId : String
  principalName : String
  deriving DecidableEq, Repr, Inhabited

/-- A key inside a sentence. -/
def Key.text (k : Key) : String := s!"('{k.registrationId}', '{k.principalName}')"

/-- A registration with the tokens of a principal. -/
structure AuthorizedClient where
  registration : ClientRegistration
  principalName : String
  accessToken : AccessToken
  refreshToken : Option RefreshToken := none
  deriving DecidableEq, Inhabited

namespace AuthorizedClient

/-- The key under which a client is kept. -/
def key (c : AuthorizedClient) : Key := ⟨c.registration.registrationId, c.principalName⟩

open Validate in
/-- A client from a JSON value. -/
def ofJson : Json → Checked AuthorizedClient :=
  model fun ms =>
    mk <$> required "registration" ClientRegistration.ofJson ms
      <*> required "principal_name" string ms
      <*> required "access_token" AccessToken.ofJson ms
      <*> optional "refresh_token" RefreshToken.ofJson ms

/-- A client as a JSON value. -/
def toJson (style : DateTime.ZoneStyle) (c : AuthorizedClient) (withSecret : Bool) : Json :=
  .obj [("registration", .obj (c.registration.toMembers withSecret)),
    ("principal_name", .str c.principalName),
    ("access_token", c.accessToken.toJson style),
    ("refresh_token", (c.refreshToken.map (RefreshToken.toJson style)).getD .null)]

/-- The client under the registration that is configured now. -/
def bind (c : AuthorizedClient) (registration : ClientRegistration) : AuthorizedClient :=
  { c with registration }

/-- What is shown of a secret: its first four characters, or nothing of a short one. -/
def mask (secret : String) : String :=
  if secret.length ≤ 8 then "****" else String.ofList (secret.toList.take 4) ++ "****"

/-- A client in summary. The token is masked unless it is asked for. -/
def describe (c : AuthorizedClient) (showToken : Bool) : Json :=
  let token := c.accessToken
  .obj [("registration_id", .str c.registration.registrationId),
    ("principal", .str c.principalName),
    ("token_type", .str token.tokenType),
    ("access_token", .str (if showToken then token.value else mask token.value)),
    ("scopes", .ofStrings token.scopes),
    ("issued_at", .ofTime .numeric token.issuedAt),
    ("expires_at", .ofTime .numeric token.expiresAt),
    ("has_refresh_token", .bool c.refreshToken.isSome)]

end AuthorizedClient

end TokenBroker
