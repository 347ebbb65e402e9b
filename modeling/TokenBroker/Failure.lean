import TokenBroker.Json.Literal
import TokenBroker.Json.Reader
import TokenBroker.Grant
import TokenBroker.Output.Markup
import TokenBroker.Text.Reading

/-!
# Failures

Everything that can go wrong, by its cause. A `Failure` is one that the broker reports itself: it
has a message and the exit status of a command that ends with it. A `Fault` is any other event that
ends a call as well: a value that does not fit its model, a refused file, an error raised by a
component from outside.
-/

namespace TokenBroker

/-- An error that a transport reports: its kind and its text. -/
structure TransportError where
  kind : String
  text : String
  deriving DecidableEq, Repr, Inhabited

/-- The families of failures that carry a message of their own. -/
inductive FailureKind
  /-- No further known. -/
  | general
  /-- Configuration. -/
  | config
  /-- Components that do not fit together. -/
  | wiring
  /-- A token exchange, no further known. -/
  | exchange
  /-- An accepted request whose answer is no token response. -/
  | malformed
  /-- The resolution of a client, no further known. -/
  | resolution
  deriving DecidableEq, Repr, Inhabited

/-- A failure that the broker reports. -/
inductive Failure
  /-- One of a family; `exit` replaces the family's exit status, and `issues` are those of a
  configuration that does not fit its model. -/
  | plain (kind : FailureKind) (message : String) (exit : Option Int) (issues : List Issue)
  /-- A request that got no answer. -/
  | transport (message : String) (exit : Option Int) (origin : Option TransportError)
  /-- A request that the authorization server refused. -/
  | rejected (code : String) (description uri status : Json)
  /-- A registration id that is not configured. -/
  | unknownRegistration (registrationId : String)
  /-- A client that only an end user can authorize. -/
  | interactionRequired (registrationId principalName grantName : String)
  /-- A failed exchange for a registration; `chained` if it arose while the cause was handled. -/
  | acquisitionFailed (registrationId : String) (cause : Failure) (chained : Bool)
  deriving Inhabited

/-- The exit statuses of commands. -/
inductive ExitStatus
  | success
  | generalFailure
  | usage
  | rejected
  | notFound
  | badAnswer
  | unreachable
  | wiring
  | interactionRequired
  | interrupted
  deriving DecidableEq, Repr

/-- The number of an exit status. -/
def ExitStatus.code : ExitStatus → Int
  | .success => 0
  | .generalFailure => 1
  | .usage => 2
  | .rejected => 3
  | .notFound => 4
  | .badAnswer => 5
  | .unreachable => 6
  | .wiring => 8
  | .interactionRequired => 9
  | .interrupted => 130

/-- The exit status of a family. -/
def FailureKind.status : FailureKind → ExitStatus
  | .general => .generalFailure
  | .config => .generalFailure
  | .wiring => .wiring
  | .exchange => .rejected
  | .malformed => .badAnswer
  | .resolution => .generalFailure

/-- A family and the wider ones that it is part of, the widest last. -/
def FailureKind.families : FailureKind → List FailureKind
  | .general => [.general]
  | .malformed => [.malformed, .exchange, .general]
  | kind => [kind, .general]

namespace Failure

/-- A failure of a family with its usual exit status. -/
def of (kind : FailureKind) (message : String) : Failure := .plain kind message none []

/-- A configuration failure. -/
def config (message : String) : Failure := of .config message

/-- A wiring failure. -/
def wiring (message : String) : Failure := of .wiring message

/-- An unusable answer to an accepted request. -/
def malformed (message : String) : Failure := of .malformed message

/-- What a refusal says: its code, the description if one is given, and the status if it is
known. -/
def rejectedMessage (code : String) (description status : Json) : String :=
  s!"[{code}]" ++ (if description.isGiven then " " ++ description.text else "") ++
    match status with
    | .null => ""
    | status => s!" (HTTP {status.text})"

/-- The first line of the message of a failure. -/
def headline : Failure → String
  | .plain _ message _ _ => message
  | .transport message _ _ => message
  | .rejected code description _ status => rejectedMessage code description status
  | .unknownRegistration id => s!"Client registration '{id}' not found"
  | .interactionRequired id principal grant =>
    s!"Client registration '{id}' uses the '{grant}' grant and has no valid authorized client for " ++
      s!"principal '{principal}'; the user must authorize it first"
  | .acquisitionFailed id cause _ =>
    s!"Failed to obtain an access token for '{id}': {cause.headline}"

/-- The issues of a configuration failure. -/
def issues : Failure → List Issue
  | .plain _ _ _ issues => issues
  | _ => []

/-- The message of a failure, with a line for every issue. -/
def message (f : Failure) : String :=
  "\n".intercalate (f.headline :: f.issues.map Issue.text)

/-- The exit status of a command that ends with the failure; a failed acquisition has its
cause's. -/
def exitCode : Failure → Int
  | .plain kind _ exit _ => exit.getD kind.status.code
  | .transport _ exit _ => exit.getD ExitStatus.unreachable.code
  | .rejected .. => ExitStatus.rejected.code
  | .unknownRegistration _ => ExitStatus.notFound.code
  | .interactionRequired .. => ExitStatus.interactionRequired.code
  | .acquisitionFailed _ cause _ => cause.exitCode

/-- The families that a failure belongs to, the widest last. -/
def families : Failure → List FailureKind
  | .plain kind _ _ _ => kind.families
  | .transport .. | .rejected .. => FailureKind.exchange.families
  | .unknownRegistration _ | .interactionRequired .. | .acquisitionFailed .. =>
    FailureKind.resolution.families

/-- Whether the failure is one of a single token exchange. -/
def isExchangeFailure : Failure → Bool
  | .plain .exchange _ _ _ => true
  | .plain .malformed _ _ _ => true
  | .transport .. => true
  | .rejected .. => true
  | _ => false

/-- The failures of a token exchange are those of its family. -/
theorem isExchangeFailure_iff {f : Failure} : f.isExchangeFailure = true ↔
    .exchange ∈ f.families := by
  cases f with
  | plain kind => cases kind <;> simp [isExchangeFailure, families, FailureKind.families]
  | _ => simp [isExchangeFailure, families, FailureKind.families]

/-- Whether an authorization server refused a refresh token for good. -/
def isInvalidGrant : Failure → Bool
  | .rejected code _ _ _ => code == "invalid_grant"
  | _ => false

/-- Whether the failure asks for an end user. -/
def needsUser : Failure → Bool
  | .interactionRequired .. => true
  | _ => false

end Failure

/-- How the file system refuses an operation. -/
inductive FileError
  | notFound
  | notADirectory
  | exists
  | isADirectory
  /-- A path, or a component of one, with too many bytes. -/
  | nameTooLong
  /-- A place that nothing can take, such as the root. -/
  | busy
  /-- A path with a NUL, which never reaches the file system. -/
  | nullByte
  /-- Any other refusal, with its text. -/
  | other (text : String)
  deriving DecidableEq, Repr

/-- The wording of a refusal. -/
def FileError.message : FileError → String
  | .notFound => "No such file or directory"
  | .notADirectory => "Not a directory"
  | .exists => "File exists"
  | .isADirectory => "Is a directory"
  | .nameTooLong => "File name too long"
  | .busy => "Device or resource busy"
  | .nullByte => "embedded null byte"
  | .other text => text

/-- An event that ends a call without a result. -/
inductive Fault
  /-- A failure that the broker reports. -/
  | failure (f : Failure)
  /-- A value that does not fit its model. -/
  | invalid (i : Invalid)
  /-- A value that is none of the names of a kind. -/
  | unknownName (value : Json) (kind : String)
  /-- A grant request that says nothing of its grant type. -/
  | abstractRequest
  /-- An error raised by a component from outside: its label and its text. -/
  | raised (label text : String)
  /-- A time outside the years 1 to 9999. -/
  | dateOutOfRange
  /-- A duration of too many days. -/
  | durationTooLong (days : Int)
  /-- A refused file operation. -/
  | file (e : FileError)
  /-- A file that should be UTF-8 and is not. -/
  | undecodable (e : Utf8.Error)
  /-- Bytes of an answer that cannot be read in the charset that it names. -/
  | charset (e : Text.CharsetError)
  /-- A text that is not JSON. -/
  | syntaxError (e : Json.SyntaxError)
  /-- A text whose containers stand within more others than can be kept open. -/
  | tooDeep (container : Json.Container)
  /-- A diagnostic whose markup is not balanced. -/
  | markup (e : Markup.Error)
  /-- A home directory that is not known. -/
  | noHome
  /-- The user's interrupt. -/
  | interrupted

/-- The longest duration, in days. -/
def longestDuration : Int := 999999999

/-- The number of microseconds of a day. -/
def microsOfDay : Int := 86400000000

/-- The range of a machine's own whole numbers, of 32 bits. -/
def isMachineInt (n : Int) : Bool := -2147483648 ≤ n && n ≤ 2147483647

/-- The message of a fault. -/
def Fault.message : Fault → String
  | .failure f => f.message
  | .invalid i => i.message
  | .unknownName value kind => s!"{value.literal} is not a valid {kind}"
  | .abstractRequest => ""
  | .raised _ text => text
  | .dateOutOfRange => "date value out of range"
  | .durationTooLong days =>
    if isMachineInt days then s!"days={days}; must have magnitude <= {longestDuration}"
    else "Python int too large to convert to C int"
  | .file e => e.message
  | .undecodable e => e.message
  | .charset e => e.message
  | .syntaxError e => e.message
  | .tooDeep container => (Json.Problem.tooDeep container).text
  | .markup e => e.message
  | .noHome => "Could not determine home directory."
  | .interrupted => ""

/-- What is wrong with a text, as a fault. -/
def Fault.ofSyntax (e : Json.SyntaxError) : Fault :=
  match e.problem with
  | .tooDeep container => .tooDeep container
  | _ => .syntaxError e

/-- Refuses a duration, in microseconds, of too many days. -/
def checkDuration (micros : Int) : Except Fault Unit :=
  let days := micros.fdiv microsOfDay
  if longestDuration < days.natAbs then .error (.durationTooLong days) else .ok ()

/-- The grant type that a value names. -/
def GrantType.parse (value : Json) : Except Fault GrantType :=
  match value with
  | .str s =>
    match GrantType.ofName? s with
    | some g => .ok g
    | none => .error (.unknownName value "GrantType")
  | _ => .error (.unknownName value "GrantType")

end TokenBroker
