import TokenBroker.CommandLine.Option
import TokenBroker.Output.Presentation
import TokenBroker.Principal

/-!
# Invocations

What a command line asks for: options that hold for every command, then a command with its own
options and arguments.
-/

namespace TokenBroker

/-- A command. -/
inductive Command
  | listRegistrations
  | showRegistration (id : String)
  | resolve (id principal : String) (showToken : Bool)
  | forget (id principal : String)
  deriving DecidableEq, Repr

/-- A command with what holds for every command. -/
structure Invocation where
  preferences : Preferences := {}
  /-- The settings file that is given. -/
  settings : Option String := none
  command : Command
  deriving DecidableEq, Repr

/-- What a command line asks for. -/
inductive Wish
  | version
  | run (i : Invocation)
  deriving DecidableEq, Repr

namespace Command

/-- The option that names a principal. -/
def principalOption : CommandOption := { name := "principal", takesValue := true }

/-- The option that shows a token unmasked. -/
def showTokenOption : CommandOption := { name := "show-token" }

/-- The one argument of a command. -/
def onlyArgument (name : String) : List String → Except UsageError String
  | [] => .error (.missingArgument name)
  | [s] => .ok s
  | _ :: extra => .error (.extraArguments extra)

/-- The principal that is named, or the system's. -/
def principalOf (w : Words) : String := (w.value? principalOption.name).getD Principal.systemName

/-- A command of the group that inspects registrations. -/
def ofRegistrationWords : List String → Except UsageError Command
  | [] => .error .missingCommand
  | "list" :: rest => do
    match (← CommandOption.scan [] true rest).arguments with
    | [] => return .listRegistrations
    | extra => throw (.extraArguments extra)
  | "show" :: rest => do
    let w ← CommandOption.scan [] true rest
    return .showRegistration (← onlyArgument "REGISTRATION_ID" w.arguments)
  | word :: _ => .error (.unknownCommand word)

/-- The words with which a command starts. -/
def names : List String := ["registrations", "resolve", "forget"]

/-- The command of words. -/
def ofWords : List String → Except UsageError Command
  | [] => .error .missingCommand
  | "registrations" :: rest => do
    ofRegistrationWords (← CommandOption.scan [] false rest).arguments
  | "resolve" :: rest => do
    let w ← CommandOption.scan [principalOption, showTokenOption] true rest
    let id ← onlyArgument "REGISTRATION_ID" w.arguments
    return .resolve id (principalOf w) (w.has showTokenOption.name)
  | "forget" :: rest => do
    let w ← CommandOption.scan [principalOption] true rest
    let id ← onlyArgument "REGISTRATION_ID" w.arguments
    return .forget id (principalOf w)
  | word :: _ => .error (.unknownCommand word)

end Command

namespace Wish

/-- The options that hold for every command. -/
def options : List CommandOption :=
  [{ name := "version" }, { name := "config", letter := some 'c', takesValue := true },
    { name := "json" }, { name := "plain" }, { name := "no-color" },
    { name := "quiet", letter := some 'q' }, { name := "verbose", letter := some 'v' }]

/-- What the options ask for; JSON goes before plain lines. -/
def preferencesOf (w : Words) : Preferences :=
  { format := if w.has "json" then some .json else if w.has "plain" then some .plain else none
    noColor := w.has "no-color"
    quiet := w.has "quiet"
    verbose := w.has "verbose" }

/-- What words ask for in place of a command that is not known. If the first one looks like an
option, which it can after two dashes, they are read as options once more; only the version can come
of it. -/
def ofUnknown (e : UsageError) (words : List String) : Except UsageError Wish := do
  let w ← CommandOption.scan options false words
  if w.has "version" then return .version else throw e

/-- What a command line asks for. The version goes before any command. -/
def ofWords (words : List String) : Except UsageError Wish := do
  let w ← CommandOption.scan options false words
  if w.has "version" then return .version
  match Command.ofWords w.arguments with
  | .ok command => return .run { preferences := preferencesOf w, settings := w.value? "config",
                                 command }
  | .error e =>
    if Command.names.contains (w.arguments.headD "") then throw e
    else ofUnknown e w.arguments

end Wish

end TokenBroker
