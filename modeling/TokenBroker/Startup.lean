import TokenBroker.Settings.Credential
import TokenBroker.Settings.Directories

/-!
# Starting from settings

Opens the store that the settings choose, and assembles the engine that they describe from the
built-in components and, if asked, from extensions. A store on disk is read when it is opened and
written back after each call.
-/

namespace TokenBroker

/-- A store, and where it is kept if it is on disk. -/
structure OpenStore where
  store : Store
  place : Option Location := none

/-- An engine that has been started, and where its store is kept. -/
structure Started where
  engine : Engine
  place : Option Location

/-- The directory of a store's entries below the directory that is chosen for it. -/
def entriesName : String := "authorized_clients"

/-- The fault of a store whose place is taken by a file. -/
def unopenable : Fault := .raised "OperationalError" "unable to open database file"

/-- Where the entries of a store on disk are kept below a directory. A `~` and the variables in the
path as it is written count once more. -/
def entriesPath (h : Homes) (p : Path) : Except Fault Path :=
  (h.expand (p.child entriesName).text).map fun s => Path.ofText (h.environment.expand s)

/-- The file of a store in the directory of its entries. -/
def databaseName : String := "cache.db"

/-- The number of bytes that the path of a store's file may have, from the root. -/
def longestDatabasePath : Nat := 504

/-- Whether a store's file can stand in a directory. -/
def fitsDatabase (place : Location) : Bool :=
  (Path.text ⟨.root, place ++ [databaseName]⟩).utf8ByteSize ≤ longestDatabasePath

namespace Action

/-- Opens a store on disk below a directory. -/
def openDisk (p : Path) : Action OpenStore := do
  let h ← get
  let p ← ofExcept (entriesPath h.homes p)
  let (tree, result) := h.tree.makeMissing h.here p
  set { h with tree }
  ofFile (match result with
    | .error .exists => .ok ()
    | r => r)
  let place ← ofFile (tree.locate h.here p)
  if !tree.isDirectory h.here p || !fitsDatabase place then throw unopenable
  return { store := .disk (tree.entries place), place := some place }

/-- Opens the store that the settings choose. -/
def openStore (s : StoreSettings) : Action OpenStore :=
  match StoreKind.ofName? s.backend with
  | some .memory => return { store := .empty .memory }
  | some .disk => do
    match s.path.filter (· ≠ "") with
    | some path => openDisk (← expand path)
    | none => openDisk (← directory .cache)
  | none => fail (.config s!"Unknown store backend '{s.backend}' (expected: memory, disk)")

/-- Writes a store on disk back. -/
def keep (place : Option Location) (s : Store) : Action Unit :=
  match place with
  | none => return ()
  | some l => modify fun h => { h with tree := h.tree.put l (.directory s.values) }

/-- Adds a component under a name that is free. -/
def register (a : Assembly) (name : String) (c : Component) : Action Assembly :=
  ofExcept ((a.register name c).mapError .failure)

/-- Starts the engine that the settings describe. -/
def start (s : Settings) (discover : Bool) : Action Started := do
  let a : Assembly := { policy := s.lifetimes }
  let catalog ← ofExcept ((Catalog.ofList (← registrations s)).mapError .failure)
  let a ← register a "client_registration_store" (.registrations (.catalog catalog))
  let opened ← openStore s.store
  let a ← register a "authorized_client_store" (.store opened.store)
  let a ← register a "client_credentials_token_client" (.client (.clientCredentials s.requests))
  let a ← register a "refresh_token_client" (.client (.refreshToken s.requests))
  let a ← if discover then do
      let found := a.discover (← get).extensions
      log found.log
      let _ ← ofExcept (found.names.mapError .failure)
      pure found.assembly
    else pure a
  let (entries, result) := a.build
  log entries
  let built ← ofExcept result
  modify fun h => { h with world := { h.world with shared := { store := built.store } } }
  return ⟨built.engine, opened.place⟩

/-- Resolves the client of a key with an engine that has been started. -/
def resolve (s : Started) (key : Key) : Action AuthorizedClient := do
  let h ← get
  let (world, outcome) := h.world.resolve s.engine key
  set { h with world }
  keep s.place world.shared.store
  ofExcept (outcome.getD (.error .interrupted))

/-- Removes the stored client of a key. -/
def forget (s : StoreSettings) (key : Key) : Action Unit := do
  let opened ← openStore s
  keep opened.place (opened.store.remove key)

end Action

end TokenBroker
