import TokenBroker.Registration
import TokenBroker.Failure

/-!
# Settings

The settings that a configuration holds: the registrations by id, the policy for token lifetimes,
the settings of token requests, and the choice of a store.
-/

namespace TokenBroker

/-- The longest lifetime of a token, in seconds: ten years. -/
def maxLifetime : Int := 315360000

/-- A registration as it is configured. The secret is named by its source and never written out. -/
structure RegistrationEntry where
  clientId : String
  secretSource : Option String := none
  authentication : ClientAuthentication := .secretBasic
  grantType : GrantType := .clientCredentials
  tokenUri : String
  scopes : List String := []
  authorizationUri : Option String := none
  redirectUri : Option String := none
  clientName : Option String := none
  deriving DecidableEq, Repr

/-- The policy for token lifetimes, in seconds. -/
structure LifetimePolicy where
  /-- How early a token counts as expired. -/
  clockSkew : Int := 0
  /-- The lifetime of a token whose response gives none. -/
  defaultLifetime : Int := 3600
  deriving DecidableEq, Repr, Inhabited

/-- The settings of token requests. -/
structure RequestSettings where
  /-- How many seconds an answer may take. -/
  timeout : Binary64 := .ofRatio false 30 1
  /-- Whether the server's certificate is checked. -/
  verifyCertificate : Bool := true
  deriving DecidableEq, Inhabited

/-- The choice of a store. -/
structure StoreSettings where
  backend : String := "memory"
  path : Option String := none
  deriving DecidableEq, Repr, Inhabited

/-- A configuration. -/
structure Settings where
  registrations : List (String × RegistrationEntry) := []
  lifetimes : LifetimePolicy := {}
  requests : RequestSettings := {}
  store : StoreSettings := {}
  deriving DecidableEq, Inhabited

namespace RegistrationEntry

open Validate in
/-- A configured registration from a JSON value. -/
def ofJson : Json → Checked RegistrationEntry :=
  model fun ms =>
    mk <$> required "client_id" string ms
      <*> optional "client_secret_source" string ms
      <*> defaulted "client_authentication_method" ClientAuthentication.ofJson .secretBasic ms
      <*> defaulted "grant_type" GrantType.ofJson .clientCredentials ms
      <*> required "token_uri" string ms
      <*> defaulted "scopes" (list string) [] ms
      <*> optional "authorization_uri" string ms
      <*> optional "redirect_uri" string ms
      <*> optional "client_name" string ms

/-- The members of a configured registration. -/
def toMembers (r : RegistrationEntry) : List (String × Json) :=
  [("client_id", .str r.clientId), ("client_secret_source", .ofOption r.secretSource),
    ("client_authentication_method", .str r.authentication.name),
    ("grant_type", .str r.grantType.name), ("token_uri", .str r.tokenUri),
    ("scopes", .ofStrings r.scopes), ("authorization_uri", .ofOption r.authorizationUri),
    ("redirect_uri", .ofOption r.redirectUri), ("client_name", .ofOption r.clientName)]

/-- A configured registration as a JSON value. -/
def toJson (r : RegistrationEntry) : Json := .obj r.toMembers

end RegistrationEntry

namespace LifetimePolicy

open Validate in
/-- A policy from a JSON value. -/
def ofJson : Json → Checked LifetimePolicy :=
  model fun ms =>
    mk <$> defaulted "clock_skew_seconds" (fun j => (int j).andThen (atLeast 0)) 0 ms
      <*> defaulted "default_expires_in"
        (fun j => ((int j).andThen (above 0)).andThen (atMost maxLifetime)) 3600 ms

/-- A policy as a JSON value. -/
def toJson (p : LifetimePolicy) : Json :=
  .obj [("clock_skew_seconds", .int p.clockSkew), ("default_expires_in", .int p.defaultLifetime)]

end LifetimePolicy

namespace RequestSettings

open Validate in
/-- The settings of requests from a JSON value. -/
def ofJson : Json → Checked RequestSettings :=
  model fun ms =>
    mk <$> defaulted "timeout" (fun j => (float j).andThen positive) (.ofRatio false 30 1) ms
      <*> defaulted "verify_ssl" bool true ms

/-- The settings of requests as a JSON value. -/
def toJson (r : RequestSettings) : Json :=
  .obj [("timeout", .float r.timeout), ("verify_ssl", .bool r.verifyCertificate)]

end RequestSettings

namespace StoreSettings

open Validate in
/-- The choice of a store from a JSON value. -/
def ofJson : Json → Checked StoreSettings :=
  model fun ms =>
    mk <$> defaulted "backend" string "memory" ms
      <*> optional "path" string ms

/-- The choice of a store as a JSON value. -/
def toJson (s : StoreSettings) : Json :=
  .obj [("backend", .str s.backend), ("path", .ofOption s.path)]

end StoreSettings

namespace Settings

open Validate in
/-- A configuration from a JSON value. -/
def ofJson : Json → Checked Settings :=
  model fun ms =>
    mk <$> defaulted "registrations" (objectOf RegistrationEntry.ofJson) [] ms
      <*> defaulted "engine" LifetimePolicy.ofJson {} ms
      <*> defaulted "request" RequestSettings.ofJson {} ms
      <*> defaulted "store" StoreSettings.ofJson {} ms

/-- A configuration as a JSON value. -/
def toJson (s : Settings) : Json :=
  .obj [("registrations", .obj (s.registrations.map fun (id, entry) => (id, entry.toJson))),
    ("engine", s.lifetimes.toJson), ("request", s.requests.toJson), ("store", s.store.toJson)]

/-- A configuration from a JSON value, or the issues under the name that reports give it. -/
def parse (j : Json) : Except Invalid Settings := (ofJson j).named "ClientGrantConfig"

end Settings

end TokenBroker
