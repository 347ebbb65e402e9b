import TokenBroker.Settings.Basic
import TokenBroker.Text.ContentType

/-!
# Token responses

What the answer of a token endpoint means. An answer with a status outside 200 to 299 is a refusal,
with the error it names or else the start of its text. One within is a token response if its body is
a JSON object with a usable access token, token type and lifetime, and malformed otherwise.
-/

namespace TokenBroker

/-- An answer as a transport receives it. -/
structure HttpAnswer where
  status : Int := 200
  headers : List (String × String) := []
  body : List UInt8 := []

namespace HttpAnswer

/-- Whether the status tells of success. -/
def isSuccess (a : HttpAnswer) : Bool := 200 ≤ a.status && a.status ≤ 299

/-- The value of a header, whatever the case of its name; the values of several of one name are
joined. -/
def header? (name : String) (a : HttpAnswer) : Option String :=
  match (a.headers.filter (·.1.toLower = name)).map (·.2) with
  | [] => none
  | values => some (", ".intercalate values)

/-- The body as text, in the charset that its content type names or else in UTF-8. An empty body is
the empty text in any charset. -/
def text (a : HttpAnswer) : Except Text.CharsetError String := do
  if a.body.isEmpty then return ""
  let charset ← match a.header? "content-type" with
    | none => pure none
    | some contentType => Text.ContentType.charset? contentType
  (charset.getD .utf8).decode a.body

end HttpAnswer

/-- A successful token response. -/
structure TokenResponse where
  accessToken : String
  tokenType : String := "Bearer"
  expiresIn : Option Int := none
  scopes : List String := []
  refreshToken : Option String := none
  additional : List (String × Json) := []
  deriving Inhabited

namespace TokenResponse

open Validate in
/-- A token response from a JSON value of its own fields. -/
def ofJson : Json → Checked TokenResponse :=
  model fun ms =>
    mk <$> required "access_token" string ms
      <*> defaulted "token_type" string "Bearer" ms
      <*> defaulted "expires_in"
        (nullable fun j => ((int j).andThen (atLeast 0)).andThen (atMost maxLifetime)) none ms
      <*> defaulted "scopes" (sequence string) [] ms
      <*> optional "refresh_token" string ms
      <*> defaulted "additional_parameters" object [] ms

/-- A token response as a JSON value of its own fields. -/
def toJson (r : TokenResponse) : Json :=
  .obj [("access_token", .str r.accessToken), ("token_type", .str r.tokenType),
    ("expires_in", (r.expiresIn.map .int).getD .null), ("scopes", .ofStrings r.scopes),
    ("refresh_token", .ofOption r.refreshToken), ("additional_parameters", .obj r.additional)]

/-- The members that a token response has by the standard. -/
def standardMembers : List String :=
  ["access_token", "token_type", "expires_in", "scope", "refresh_token"]

/-- How much of an unexpected body is quoted. -/
def quotedLength : Nat := 200

/-- The refusal that an answer stands for, unless it has no text to be quoted. -/
def refusal (a : HttpAnswer) (body : Option Json) : Except Text.CharsetError Failure := do
  let status : Json := .int a.status
  match body.bind (Json.get? "error") with
  | some (.str code) =>
    let member (name : String) : Json := (body.bind (Json.get? name)).getD .null
    return .rejected code (member "error_description") (member "error_uri") status
  | _ =>
    let start := String.ofList ((← a.text).toList.take quotedLength)
    let description := s!"Unexpected token endpoint response: {start}"
    return .rejected "invalid_token_response" (.str description) .null status

/-- The access token, which must not be empty. -/
def accessTokenOf (ms : List (String × Json)) : Except Failure String :=
  match Json.lookup? "access_token" ms with
  | some (.str token) =>
    if token = "" then .error (.malformed "Token response missing 'access_token' field")
    else .ok token
  | _ => .error (.malformed "Token response missing 'access_token' field")

/-- Whether a value names the bearer type, in whatever case. -/
def isBearer : Json → Bool
  | .str s => s.toLower == "bearer"
  | _ => false

/-- Refuses a token type other than the bearer type. -/
def checkTokenType (ms : List (String × Json)) : Except Failure Unit :=
  match Json.lookup? "token_type" ms with
  | none => .ok ()
  | some j =>
    if isBearer j then .ok () else .error (.malformed s!"Unsupported token_type: {j.literal}")

/-- The seconds that a value denotes: a number without its fraction, or a text that is a whole
number. -/
def seconds? : Json → Option Int
  | .int n => some n
  | .float x => x.truncate?
  | .str s => Numeral.wholeNumber? s
  | _ => none

/-- The lifetime in seconds, if one is given. -/
def lifetimeOf (ms : List (String × Json)) : Except Failure (Option Int) :=
  match (Json.lookup? "expires_in" ms).getD .null with
  | .null => .ok none
  | j =>
    match seconds? j with
    | none => .error (.malformed s!"Token response has non-numeric 'expires_in': {j.literal}")
    | some n =>
      if 0 ≤ n ∧ n ≤ maxLifetime then .ok (some n)
      else .error (.malformed s!"Token response has out-of-range 'expires_in': {j.literal}")

/-- The scopes of a text: its parts between blanks, without the empty ones. -/
def splitScopes (s : String) : List String :=
  let rec go (part : List Char) : List Char → List String
    | [] => [String.ofList part.reverse]
    | c :: cs => if c = ' ' then String.ofList part.reverse :: go [] cs else go (c :: part) cs
  (go [] s.toList).filter (· ≠ "")

/-- The granted scopes: those of the response, or the requested ones if it names none. -/
def scopesOf (ms : List (String × Json)) (requested : List String) : List String :=
  match Json.lookup? "scope" ms with
  | some (.str s) => splitScopes s
  | _ => requested

/-- The new refresh token, if there is one. -/
def refreshTokenOf (ms : List (String × Json)) : Option String :=
  match Json.lookup? "refresh_token" ms with
  | some (.str s) => some s
  | _ => none

/-- The token response that the members of an accepted answer make up. -/
def ofMembers (ms : List (String × Json)) (requested : List String) :
    Except Failure TokenResponse := do
  let accessToken ← accessTokenOf ms
  checkTokenType ms
  let expiresIn ← lifetimeOf ms
  return {
    accessToken
    expiresIn
    scopes := scopesOf ms requested
    refreshToken := refreshTokenOf ms
    additional := ms.filter fun (name, _) => !standardMembers.contains name }

/-- The token response that an answer stands for, or why it is none. -/
def ofAnswer (a : HttpAnswer) (requested : List String) : Except Fault TokenResponse :=
  let body := Json.ofBytes? a.body
  if a.isSuccess then
    match body with
    | some (.obj ms) => (ofMembers ms requested).mapError .failure
    | _ => .error (.failure (.malformed "Token response body is not a JSON object"))
  else
    match refusal a body with
    | .ok f => .error (.failure f)
    | .error e => .error (.charset e)

end TokenResponse

end TokenBroker
