import TokenBroker.Validation

/-!
# Grants and client authentication

The grant types by which a client obtains tokens, and the ways in which it authenticates itself at a
token endpoint.
-/

namespace TokenBroker

/-- The grant types that are known. -/
inductive GrantType
  | clientCredentials
  | authorizationCode
  | refreshToken
  deriving DecidableEq, Repr, Inhabited

namespace GrantType

/-- All grant types. -/
def all : List GrantType := [.clientCredentials, .authorizationCode, .refreshToken]

/-- The name of a grant type in requests and settings. -/
def name : GrantType → String
  | .clientCredentials => "client_credentials"
  | .authorizationCode => "authorization_code"
  | .refreshToken => "refresh_token"

/-- The grant type of a name. -/
def ofName? (s : String) : Option GrantType :=
  all.find? (·.name = s)

/-- Whether a first token of this grant takes an end user. -/
def requiresInteraction : GrantType → Bool
  | .authorizationCode => true
  | _ => false

/-- Whether a token of this grant can be had at any time from the registration alone. -/
def isUnattended : GrantType → Bool
  | .clientCredentials => true
  | _ => false

/-- The grant type of a JSON value. -/
def ofJson : Json → Checked GrantType := Validate.enumeration ofName?

@[simp] theorem ofName?_name (g : GrantType) : ofName? g.name = some g := by
  cases g <;> decide

end GrantType

/-- How a client authenticates itself at a token endpoint. -/
inductive ClientAuthentication
  /-- In a header. -/
  | secretBasic
  /-- In the form. -/
  | secretPost
  /-- Not at all: the form holds its id. -/
  | none
  deriving DecidableEq, Repr, Inhabited

namespace ClientAuthentication

/-- All methods. -/
def all : List ClientAuthentication := [.secretBasic, .secretPost, .none]

/-- The name of a method in settings. -/
def name : ClientAuthentication → String
  | .secretBasic => "client_secret_basic"
  | .secretPost => "client_secret_post"
  | .none => "none"

/-- The method of a name. -/
def ofName? (s : String) : Option ClientAuthentication :=
  all.find? (·.name = s)

/-- The method of a JSON value. -/
def ofJson : Json → Checked ClientAuthentication := Validate.enumeration ofName?

@[simp] theorem ofName?_name (m : ClientAuthentication) : ofName? m.name = some m := by
  cases m <;> decide

end ClientAuthentication

end TokenBroker
