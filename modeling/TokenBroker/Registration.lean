import TokenBroker.Failure
import TokenBroker.Grant

/-!
# Client registrations

The static configuration of one client at one authorization server, and the catalog of those that
are configured. A catalog has at least one registration, and their ids are unique.
-/

namespace TokenBroker

/-- A client at an authorization server, by a unique id. -/
structure ClientRegistration where
  registrationId : String
  clientId : String
  clientSecret : Option String := none
  authentication : ClientAuthentication := .secretBasic
  grantType : GrantType
  tokenUri : String
  scopes : List String := []
  authorizationUri : Option String := none
  redirectUri : Option String := none
  clientName : Option String := none
  deriving DecidableEq, Repr, Inhabited

namespace ClientRegistration

open Validate in
/-- A registration from members of an object. -/
def ofMembers (ms : List (String × Json)) : Checked ClientRegistration :=
  mk <$> required "registration_id" string ms
    <*> required "client_id" string ms
    <*> optional "client_secret" string ms
    <*> defaulted "client_authentication_method" ClientAuthentication.ofJson .secretBasic ms
    <*> required "grant_type" GrantType.ofJson ms
    <*> required "token_uri" string ms
    <*> defaulted "scopes" (sequence string) [] ms
    <*> optional "authorization_uri" string ms
    <*> optional "redirect_uri" string ms
    <*> optional "client_name" string ms

/-- A registration from a JSON value. -/
def ofJson : Json → Checked ClientRegistration := Validate.model ofMembers

/-- The members of a registration before and after the secret. -/
def toMembers (r : ClientRegistration) (withSecret : Bool) : List (String × Json) :=
  [("registration_id", .str r.registrationId), ("client_id", .str r.clientId)] ++
    (if withSecret then [("client_secret", .ofOption r.clientSecret)] else []) ++
    [("client_authentication_method", .str r.authentication.name),
      ("grant_type", .str r.grantType.name),
      ("token_uri", .str r.tokenUri),
      ("scopes", .ofStrings r.scopes),
      ("authorization_uri", .ofOption r.authorizationUri),
      ("redirect_uri", .ofOption r.redirectUri),
      ("client_name", .ofOption r.clientName)]

/-- A registration as a JSON value. -/
def toJson (r : ClientRegistration) : Json := .obj (r.toMembers true)

end ClientRegistration

/-! ## The catalog -/

/-- Registrations with distinct ids, in the order in which they were given. -/
structure Catalog where
  registrations : List ClientRegistration
  distinct : (registrations.map (·.registrationId)).Nodup

namespace Catalog

/-- The first id that stands a second time in a list. -/
def firstDuplicate? : List String → List String → Option String
  | _, [] => none
  | seen, id :: ids => if id ∈ seen then some id else firstDuplicate? (id :: seen) ids

/-- The catalog of a list of registrations. -/
def ofList (rs : List ClientRegistration) : Except Failure Catalog :=
  if h : (rs.map (·.registrationId)).Nodup then
    if rs.isEmpty then .error (.config "At least one client registration is required")
    else .ok ⟨rs, h⟩
  else
    let id := (firstDuplicate? [] (rs.map (·.registrationId))).getD ""
    .error (.config s!"Duplicate client registration id '{id}'")

/-- The registration of an id. -/
def find? (c : Catalog) (id : String) : Option ClientRegistration :=
  c.registrations.find? (·.registrationId = id)

theorem registrationId_of_find? {c : Catalog} {id : String} {r : ClientRegistration}
    (h : c.find? id = some r) : r.registrationId = id := by
  simpa using List.find?_some h

end Catalog

end TokenBroker
