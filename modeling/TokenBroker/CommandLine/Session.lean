import TokenBroker.CommandLine.Invocation
import TokenBroker.Settings.File
import TokenBroker.Startup

/-!
# Sessions

The run of one command: it works on a host, writes to standard output and standard error, and ends
with an exit status or with a fault that it does not handle itself. `conclude` handles such a fault:
a failure is reported with its own exit status, an interrupt is acknowledged, and anything else
leaves a crash report.
-/

namespace TokenBroker

/-- A command under way. -/
structure Session where
  host : Host
  presentation : Presentation
  out : String := ""
  err : String := ""

/-- How a command ends early. -/
inductive Ending
  | exit (status : Int)
  | fault (f : Fault)

/-- The work of a command. -/
abbrev Work := ExceptT Ending (StateM Session)

namespace Work

/-- What is shown of a text. One that cannot be shown ends the command. -/
def rendered (text : Presentation → Except Markup.Error String) : Work String := do
  match text (← get).presentation with
  | .ok shown => return shown
  | .error e => throw (.fault (.markup e))

/-- Writes to standard output. -/
def write (text : Presentation → Except Markup.Error String) : Work Unit := do
  let shown ← rendered text
  modify fun s => { s with out := s.out ++ shown }

/-- Writes a diagnostic to standard error. -/
def report (text : Presentation → Except Markup.Error String) : Work Unit := do
  let shown ← rendered text
  modify fun s => { s with err := s.err ++ shown }

/-- Reports a failure and ends the command with its exit status. -/
def failWith {α : Type} (f : Failure) : Work α := do
  report (·.error f.message)
  if f.needsUser then
    report (·.suggest "Complete the authorization flow for this registration, then retry.")
  throw (.exit f.exitCode)

/-- Work on the host. A failure is reported and ends the command; another fault is left to
others. -/
def act {α : Type} (a : Action α) : Work α := do
  let s ← get
  let (result, host) := a.run s.host
  set { s with host }
  match result with
  | .ok a => return a
  | .error (.failure f) => failWith f
  | .error fault => throw (.fault fault)

end Work

/-- What is left of a command: its exit status, what it has written, and the entries of the log that
are shown. -/
structure Ended where
  status : Int
  out : String := ""
  err : String := ""
  log : List LogEntry := []

namespace Session

/-- The directory of crash reports. -/
def reportsName : String := "logs"

/-- Leaves a crash report, and says where. -/
def crashReport (fault : Fault) : Action Path := do
  let reports := (← Action.directory .data).child reportsName
  Action.makeDirectories reports
  let file := reports.child s!"crash-{(← get).world.clock.stamp}.log"
  Action.writeText file (fault.message ++ "\n")
  return file

/-- The session after an error has been reported. -/
def reportError (s : Session) (message : String) : Session :=
  { s with err := s.err ++ ((s.presentation.error message).toOption.getD "") }

/-- Handles a fault that a command leaves to others; gives the exit status. -/
def handle (s : Session) : Fault → Session × Int
  | .interrupted => ({ s with err := s.err ++ "\nCancelled.\n" }, ExitStatus.interrupted.code)
  | .failure f => (s.reportError f.message, f.exitCode)
  | fault =>
    let (result, host) := (crashReport fault).run s.host
    let s := { s with host }
    match result with
    | .ok file => (s.reportError s!"Unexpected error. Debug log: {file.text}",
        ExitStatus.generalFailure.code)
    | .error _ => (s, ExitStatus.generalFailure.code)

/-- What is left of a session that began with a log of some length. -/
def ended (s : Session) (logged : Nat) (status : Int) : Ended :=
  { status
    out := s.out
    err := s.err
    log := (s.host.world.log.drop logged).filter s.presentation.shows }

/-- Ends a session. -/
def conclude (s : Session) (logged : Nat) (result : Except Ending Unit) : Host × Ended :=
  let (s, status) := match result with
    | .ok () => (s, ExitStatus.success.code)
    | .error (.exit status) => (s, status)
    | .error (.fault fault) => s.handle fault
  (s.host, s.ended logged status)

end Session

end TokenBroker
