import TokenBroker.CommandLine.Commands

/-!
# Footprints

Which places in the file tree a command line may look at, so that a program can fetch them before it
runs: first the settings files, then what the settings themselves name.
-/

namespace TokenBroker

/-- The locations on the way to a location, from the root. -/
def Location.way : Location → List Location
  | [] => [[]]
  | name :: rest => [] :: (way rest).map (name :: ·)

namespace Path

/-- The locations that a path passes, from a working directory. -/
def passes (here : Location) : List String → List Location
  | [] => []
  | name :: rest =>
    let next := if name = ".." then here.dropLast else here ++ [name]
    next :: passes next rest

/-- All locations that have to be known to follow a path. -/
def footprint (here : Location) (p : Path) : List Location :=
  let start := if p.anchor = .here then here else []
  Location.way start ++ passes start p.parts

end Path

namespace Host

/-- The settings file that a command line gives. -/
def settingsGiven (words : List String) : Option String :=
  match Wish.ofWords words with
  | .ok (.run i) => i.settings
  | _ => none

/-- The settings files that a command line may read. -/
def settingsPlaces (h : Host) (words : List String) : List Path :=
  let named := [settingsGiven words, h.environment.given? fileVariable].filterMap id
  named.filterMap (fun s => ((Path.ofText s).expandHome h.homes).toOption) ++
    [⟨.root, h.here ++ [projectFileName]⟩] ++
    ((h.directory .config).toOption.map (·.child userFileName)).toList

/-- The places that settings name: the files with secrets and the directory of the store. -/
def placesOf (h : Host) (s : Settings) : List Path :=
  let secrets := s.registrations.filterMap fun (_, entry) =>
    match entry.secretSource.bind CredentialSource.ofText? with
    | some (.file path) => ((Path.ofText path).expandHome h.homes).toOption
    | _ => none
  let store := match s.store.path.filter (· ≠ "") with
    | some path => (Path.ofText path).expandHome h.homes
    | none => h.directory .cache
  secrets ++ (store.bind (entriesPath h.homes)).toOption.toList

/-- The places that a command line may look at once its settings files are known. -/
def places (h : Host) (words : List String) : List Path :=
  let load : Action Settings := do Action.loadSettings (← Action.settingsFile (settingsGiven words))
  let named := match (load.run h).1 with
    | .ok s => h.placesOf s
    | .error _ => []
  named ++ ((h.directory .data).toOption.map (·.child Session.reportsName)).toList

end Host

end TokenBroker
