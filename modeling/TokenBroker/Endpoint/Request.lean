import TokenBroker.Base64
import TokenBroker.Settings.Basic
import TokenBroker.Text.Utf8

/-!
# Token requests

The request that is posted to a token endpoint: the parameters of a grant and the client's
credentials, which stand in a header, in the form, or nowhere.

A form is written as `application/x-www-form-urlencoded`: the bytes of names and values with all but
letters, digits and `_.-~` escaped, a blank as a plus sign, `=` between name and value and `&`
between fields.
-/

namespace TokenBroker

namespace Form

/-- The bytes that stand for themselves. -/
def isUnreserved (b : UInt8) : Bool :=
  let c := Char.ofNat b.toNat
  c.isAlphanum || c == '_' || c == '.' || c == '-' || c == '~'

/-- An upper-case hexadecimal digit. -/
def hexDigit (n : Nat) : Char := (Nat.digitChar n).toUpper

/-- The written form of a byte. -/
def encodeByte (b : UInt8) : List Char :=
  if isUnreserved b then [Char.ofNat b.toNat]
  else if b = 0x20 then ['+']
  else ['%', hexDigit (b.toNat / 16), hexDigit (b.toNat % 16)]

/-- The written form of a name or value. -/
def encodeText (s : String) : List Char :=
  (Utf8.encode s).flatMap encodeByte

/-- The written form of a field. -/
def encodeField (field : String × String) : List Char :=
  encodeText field.1 ++ '=' :: encodeText field.2

/-- The written form of a list of fields, in its order. -/
def encode (fields : List (String × String)) : String :=
  String.ofList (List.intercalate ['&'] (fields.map encodeField))

end Form

/-- A request as a transport sends it. -/
structure HttpRequest where
  url : String
  form : List (String × String)
  headers : List (String × String)
  settings : RequestSettings
  deriving DecidableEq

/-- The bytes of a request, as text. -/
def HttpRequest.body (r : HttpRequest) : String := Form.encode r.form

namespace TokenRequest

/-- The value of the header that carries an id and a secret, each form-encoded. -/
def basicCredentials (clientId clientSecret : String) : String :=
  let credentials := Form.encodeText clientId ++ ':' :: Form.encodeText clientSecret
  "Basic " ++ String.ofList (Base64.encode (Utf8.encode (String.ofList credentials)))

/-- The headers of every token request. -/
def commonHeaders : List (String × String) :=
  [("Accept", "application/json"),
    ("Content-Type", "application/x-www-form-urlencoded;charset=UTF-8")]

/-- The headers that authenticate a client. -/
def credentialHeaders (r : ClientRegistration) : List (String × String) :=
  match r.authentication with
  | .secretBasic => [("Authorization", basicCredentials r.clientId (r.clientSecret.getD ""))]
  | .secretPost => []
  | .none => []

/-- The fields that authenticate or name a client. -/
def credentialFields (r : ClientRegistration) : List (String × String) :=
  match r.authentication with
  | .secretBasic => []
  | .secretPost => [("client_id", r.clientId), ("client_secret", r.clientSecret.getD "")]
  | .none => [("client_id", r.clientId)]

/-- The field for scopes, if there are any. -/
def scopeFields (scopes : List String) : List (String × String) :=
  if scopes.isEmpty then [] else [("scope", " ".intercalate scopes)]

/-- The request that trades the parameters of a grant for a token. -/
def build (r : ClientRegistration) (parameters : List (String × String))
    (settings : RequestSettings) :
    HttpRequest :=
  { url := r.tokenUri
    form := parameters ++ credentialFields r
    headers := commonHeaders ++ credentialHeaders r
    settings }

end TokenRequest

end TokenBroker
