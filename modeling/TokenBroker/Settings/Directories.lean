import TokenBroker.Host

/-!
# Directories

Where settings, stores and crash reports are kept. On the platforms that follow the base directory
convention each kind has a variable that names its base, with a default below the home directory; on
the others all kinds share one directory in the home directory.
-/

namespace TokenBroker

/-- The kinds of directories. -/
inductive Purpose
  | config
  | cache
  | data
  deriving DecidableEq, Repr

namespace Purpose

/-- The variable that names the base. -/
def baseVariable : Purpose → String
  | .config => "XDG_CONFIG_HOME"
  | .cache => "XDG_CACHE_HOME"
  | .data => "XDG_DATA_HOME"

/-- The default base below the home directory. -/
def defaultParts : Purpose → List String
  | .config => [".config"]
  | .cache => [".cache"]
  | .data => [".local", "share"]

/-- The place in the shared directory. -/
def sharedParts : Purpose → List String
  | .config => []
  | .cache => ["cache"]
  | .data => ["logs"]

end Purpose

/-- The name under which the program keeps its files. -/
def programName : String := "clientgrant"

/-- Whether a platform follows the base directory convention. -/
def followsBaseDirectories (platform : String) : Bool :=
  platform == "Linux" || platform.endsWith "BSD"

namespace Host

/-- The directory of a kind, which may hang on the home directory. -/
def directory (h : Host) (purpose : Purpose) : Except Fault Path :=
  let below (parts : List String) (p : Path) : Path := { p with parts := p.parts ++ parts }
  if followsBaseDirectories h.platform then
    match h.environment.given? purpose.baseVariable with
    | some base => .ok (below [programName] (Path.ofText base))
    | none => (Path.home h.homes).map (below (purpose.defaultParts ++ [programName]))
  else (Path.home h.homes).map (below ((s!".{programName}") :: purpose.sharedParts))

end Host

namespace Action

/-- The directory of a kind, which is made if it is missing. -/
def directory (purpose : Purpose) : Action Path := do
  let p ← ofExcept ((← get).directory purpose)
  makeDirectories p
  return p

end Action

end TokenBroker
