import TokenBroker.CommandLine.Session

/-!
# Commands

What each command does, and the run of a whole command line.
-/

namespace TokenBroker

namespace Work

/-- The settings that are in force. -/
def activeSettings (given : Option String) : Work Settings :=
  act (do Action.loadSettings (← Action.settingsFile given))

/-- The columns in which registrations are listed. -/
def registrationColumns : List String :=
  ["registration_id", "grant_type", "client_id", "token_uri", "scopes"]

/-- A registration as a row. -/
def registrationRow (id : String) (entry : RegistrationEntry) : List String :=
  [id, entry.grantType.name, entry.clientId, entry.tokenUri, " ".intercalate entry.scopes]

/-- The registrations of the settings, sorted by id. -/
def sorted (s : Settings) : List (String × RegistrationEntry) :=
  s.registrations.mergeSort fun a b => a.1 ≤ b.1

/-- Shows a value. -/
def showValue (j : Json) : Work Unit := write fun p => .ok (p.response j)

/-- Lists the registrations. -/
def listRegistrations (given : Option String) : Work Unit := do
  let settings ← activeSettings given
  if settings.registrations.isEmpty then
    report (·.info "No client registrations configured.")
    report (·.suggest "Add one under 'registrations' in the config file.")
  else
    let rows := (sorted settings).map fun (id, entry) => registrationRow id entry
    write (·.table registrationColumns rows "Client registrations")

/-- Shows one registration; its secret shows only as its source. -/
def showRegistration (given : Option String) (id : String) : Work Unit := do
  let settings ← activeSettings given
  match Table.get? settings.registrations id with
  | none => failWith (.unknownRegistration id)
  | some entry => showValue (.obj (("registration_id", .str id) :: entry.toMembers))

/-- Resolves a client and shows it in summary. -/
def resolve (given : Option String) (key : Key) (showToken : Bool) : Work Unit := do
  let settings ← activeSettings given
  let started ← act (Action.start settings true)
  report (·.debug s!"Resolving '{key.registrationId}' for principal '{key.principalName}'")
  let client ← act (Action.resolve started key)
  showValue (client.describe showToken)

/-- Forgets a stored client. -/
def forget (given : Option String) (key : Key) : Work Unit := do
  let settings ← activeSettings given
  act (Action.forget settings.store key)
  report (·.success s!"Forgot authorized client for '{key.registrationId}' ({key.principalName}).")

/-- Runs a command. -/
def command (given : Option String) : Command → Work Unit
  | .listRegistrations => listRegistrations given
  | .showRegistration id => showRegistration given id
  | .resolve id principal showToken => resolve given ⟨id, principal⟩ showToken
  | .forget id principal => forget given ⟨id, principal⟩

end Work

namespace CommandLine

/-- The version of the program. -/
def version : String := "0.1.0"

/-- How the program is used, in one line. -/
def usage : String := s!"Usage: {programName} [OPTIONS] COMMAND [ARGS]..."

/-- Runs an invocation on a host. -/
def invoke (h : Host) (i : Invocation) : Host × Ended :=
  let s : Session :=
    { host := h, presentation := .settle i.preferences h.environment h.screen }
  let (result, s) := (Work.command i.settings i.command).run s
  s.conclude h.world.log.length result

/-- Runs a command line on a host. -/
def run (h : Host) (words : List String) : Host × Ended :=
  match Wish.ofWords words with
  | .error e =>
    (h, { status := ExitStatus.usage.code, err := usage ++ "\n\nError: " ++ e.message ++ "\n" })
  | .ok .version => (h, { status := ExitStatus.success.code, out := s!"{programName} {version}\n" })
  | .ok (.run i) => invoke h i

/-- Ends a program on a host whose run is cut short by a fault before it has settled how to show
things. -/
def abort (h : Host) (fault : Fault) : Host × Ended :=
  let s : Session := { host := h, presentation := .settle {} h.environment h.screen }
  s.conclude h.world.log.length (.error (.fault fault))

end CommandLine

end TokenBroker
