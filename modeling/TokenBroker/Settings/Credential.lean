import TokenBroker.Host
import TokenBroker.Settings.Basic
import TokenBroker.Text.Blank

/-!
# Credentials

A configured registration names the source of its secret instead of the secret: `env:` and a
variable, or `file:` and a path. Registrations are made of the configured ones by looking up their
secrets.
-/

namespace TokenBroker

/-- A place where a secret is kept. -/
inductive CredentialSource
  | environment (name : String)
  | file (path : String)
  deriving DecidableEq, Repr

namespace CredentialSource

/-- What follows the start of a text, if it starts so. -/
def after? (start : String) (s : String) : Option String :=
  if start.toList.isPrefixOf s.toList then some (String.ofList (s.toList.drop start.toList.length))
  else none

/-- The source that a text names. -/
def ofText? (s : String) : Option CredentialSource :=
  match after? "env:" s with
  | some name => some (.environment name)
  | none => (after? "file:" s).map .file

end CredentialSource

namespace Action

/-- The failure of a file that a secret cannot be read from. Only a refusal by the file system
counts as one; a file that is not UTF-8 ends with its own fault. -/
def unreadableCredential (p : Path) : Fault → Fault
  | .file e => .failure (.config s!"Cannot read credential file {p.text}: {e.message}")
  | fault => fault

/-- The secret of a source, which is given as it is configured. A secret in a file stands between
white space. -/
def credential (source : String) : Action String := do
  match CredentialSource.ofText? source with
  | some (.environment name) =>
    match (← get).environment.get? name with
    | some value => return value
    | none => fail (.config s!"Environment variable '{name}' is not set (source: {source})")
  | some (.file path) =>
    let p ← expand path
    if ← isFile p then return Text.trimWide (← (readText p).adapt (unreadableCredential p))
    else fail (.config s!"Credential file not found: {p.text} (source: {source})")
  | none => fail (.config s!"Unknown credential source format: {source}")

/-- A failure under the id of the registration whose secret it concerns. -/
def ofRegistration (id : String) : Fault → Fault
  | .failure f => .failure (.config s!"Registration '{id}': {f.message}")
  | fault => fault

/-- The registration that an entry of the settings stands for. -/
def registration (id : String) (entry : RegistrationEntry) : Action ClientRegistration := do
  let secret ← match entry.secretSource with
    | none => pure none
    | some "" => pure none
    | some source => some <$> (credential source).adapt (ofRegistration id)
  return {
    registrationId := id
    clientId := entry.clientId
    clientSecret := secret
    authentication := entry.authentication
    grantType := entry.grantType
    tokenUri := entry.tokenUri
    scopes := entry.scopes
    authorizationUri := entry.authorizationUri
    redirectUri := entry.redirectUri
    clientName := entry.clientName }

/-- The registrations of the settings, in their order. -/
def registrations (s : Settings) : Action (List ClientRegistration) :=
  s.registrations.mapM fun (id, entry) => registration id entry

end Action

end TokenBroker
