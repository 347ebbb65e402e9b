import TokenBroker.Token

/-!
# Log

What the broker logs on its way. Each entry has a level and a message.
-/

namespace TokenBroker

/-- How much an entry matters. -/
inductive LogLevel
  | debug
  | info
  | warning
  deriving DecidableEq, Repr

/-- The name of a level. -/
def LogLevel.name : LogLevel → String
  | .debug => "DEBUG"
  | .info => "INFO"
  | .warning => "WARNING"

/-- An entry of the log. -/
inductive LogEntry
  | usingStored (key : Key)
  | noneStored (key : Key)
  | waiting (key : Key)
  | posting (url registrationId grantName : String)
  | exchangeFailed (grant : GrantType) (key : Key) (failure : Failure)
  | obtained (key : Key) (grant : GrantType) (expiresAt : DateTime)
  | discarded (key : Key) (reason : Invalid)
  | componentLoaded (name : String) (grant : GrantType)
  | componentFailed (name text : String)
  | componentUnfit (name : String)
  | assembled (grantNames : List String)

namespace LogEntry

/-- The level of an entry. -/
def level : LogEntry → LogLevel
  | usingStored _ => .debug
  | noneStored _ => .debug
  | waiting _ => .debug
  | posting .. => .debug
  | exchangeFailed .. => .warning
  | obtained .. => .info
  | discarded .. => .warning
  | componentLoaded .. => .info
  | componentFailed .. => .warning
  | componentUnfit _ => .warning
  | assembled _ => .debug

/-- The message of an entry, without the issues of a discarded value. -/
def headline : LogEntry → String
  | usingStored key => s!"Using stored client for {key.text}"
  | noneStored key => s!"No valid stored client for {key.text}"
  | waiting key =>
    s!"Waiting for in-flight exchange for ({Text.quoted key.registrationId}, " ++
      s!"{Text.quoted key.principalName})"
  | posting url id grant => s!"POST {url} for registration '{id}' (grant_type={grant})"
  | exchangeFailed grant key failure =>
    s!"{grant.name} exchange for {key.text} failed: {failure.message}"
  | obtained key grant expiresAt =>
    s!"Obtained access token for {key.text} via {grant.name}, expires at {expiresAt.text}"
  | discarded key _ => s!"Discarding unreadable stored client for {key.text}"
  | componentLoaded name grant => s!"Loaded exchange client '{name}' for grant type '{grant.name}'"
  | componentFailed name text => s!"Failed to load exchange client '{name}': {text}"
  | componentUnfit name => s!"Entry point '{name}' did not produce a TokenExchangeClient, skipping"
  | assembled names =>
    "Assembled engine with grant types: " ++
      (if names.isEmpty then "(none)" else ", ".intercalate names)

/-- The message of an entry. -/
def message (e : LogEntry) : String :=
  match e with
  | discarded _ reason => s!"{e.headline}: {reason.message}"
  | _ => e.headline

end LogEntry

end TokenBroker
