import TokenBroker.Assembly
import TokenBroker.Engine.World
import TokenBroker.FileTree.Basic
import TokenBroker.FileTree.Home
import TokenBroker.Output.Screen
import TokenBroker.Text.Blank

/-!
# The host

What a program finds on the machine that it runs on: files, a working directory, an environment, the
extensions that are installed, and the world of its engine. An `Action` works on a host and may end
with a fault; what it has done to the host before the fault stays.
-/

namespace TokenBroker

/-- The steps by which a file is replaced. -/
inductive SaveStep
  /-- A new file is made beside the old one. -/
  | create
  /-- The new file is kept from other users. -/
  | restrict
  /-- The text is handed over, which need not write it yet. -/
  | write
  | flush
  | sync
  | close
  /-- The new file takes the place of the old one. -/
  | replace
  deriving DecidableEq, Repr

/-- What is refused of reading files. -/
structure ReadTrouble where
  /-- The refusal to look at what stands at a path, as below a directory that may not be
  searched. -/
  look : Path → Option String := fun _ => none
  /-- The refusal of any attempt to read the file at a path. -/
  read : Path → Option FileError := fun _ => none

/-- The machine that a program runs on. -/
structure Host where
  tree : FileTree := {}
  /-- The working directory. -/
  here : Location := []
  environment : Environment := []
  accounts : Accounts := {}
  platform : String := "Linux"
  screen : Screen := {}
  extensions : List Extension := []
  /-- The refusal of new directories: how many components of a path are made before, and the
  refusal. -/
  directoryTrouble : Option (Nat × FileError) := none
  readTrouble : Option ReadTrouble := none
  /-- The refusals of the steps of a save. -/
  saveTrouble : SaveStep → Option FileError := fun _ => none
  /-- The refusal of a second attempt to write what a refused step of a save has left behind: how
  many bytes have been written by then, and the refusal. -/
  closeTrouble : Option (Nat × FileError) := none
  /-- How deep the containers of a settings file may stand within each other. -/
  nesting : Json.NestingLimit := .usual
  world : World

/-- The home directories of a host. -/
def Host.homes (h : Host) : Homes := ⟨h.environment, h.accounts⟩

/-- Makes a directory and those above it that are missing, as far as that is not refused. -/
def Host.makeDirectories (h : Host) (p : Path) : FileTree × Except FileError Unit :=
  match h.directoryTrouble with
  | none => h.tree.makeDirectories h.here p
  | some (made, e) =>
    let (tree, result) := h.tree.makeDirectories h.here { p with parts := p.parts.take made }
    (tree, result.bind fun _ => .error e)

/-- Whether a path leads to a file, as far as a look at it is not refused. -/
def Host.isFile (h : Host) (p : Path) : Except FileError Bool :=
  match h.readTrouble.bind (·.look p) with
  | some text => .error (.other text)
  | none => h.tree.isFile h.here p

/-- The bytes of a file, as far as reading it is not refused. -/
def Host.content (h : Host) (p : Path) : Except FileError (List UInt8) :=
  match h.readTrouble.bind (·.read p) with
  | some e => .error e
  | none => h.tree.read h.here p

/-- Work on a host. -/
abbrev Action := ExceptT Fault (StateM Host)

namespace Action

/-- The action that gives a result. -/
def ofExcept {α : Type} (r : Except Fault α) : Action α := ExceptT.mk (pure r)

/-- The action that gives the result of a file operation. -/
def ofFile {α : Type} (r : Except FileError α) : Action α := ofExcept (r.mapError .file)

/-- The action that ends with a failure. -/
def fail {α : Type} (f : Failure) : Action α := throw (.failure f)

/-- Whether a path leads to a file. -/
def isFile (p : Path) : Action Bool := do
  let h ← get
  ofFile (h.isFile p)

/-- Makes a directory and those above it that are missing. -/
def makeDirectories (p : Path) : Action Unit := do
  let h ← get
  let (tree, result) := h.makeDirectories p
  set { h with tree }
  ofFile result

/-- The text of a file, which has to be UTF-8. -/
def readText (p : Path) : Action String := do
  let h ← get
  let content ← ofFile (h.content p)
  match Utf8.decode content with
  | .ok s => return Text.unifyLines s
  | .error e => throw (.undecodable e)

/-- Writes a text to a file. -/
def writeText (p : Path) (s : String) : Action Unit := do
  let h ← get
  let tree ← ofFile (h.tree.write h.here p (Utf8.encode s))
  set { h with tree }

/-- The path of a text, with its `~` put in place. -/
def expand (s : String) : Action Path := do
  ofExcept ((Path.ofText s).expandHome (← get).homes)

/-- Adds entries to the log. -/
def log (entries : List LogEntry) : Action Unit :=
  modify fun h => { h with world := { h.world with log := h.world.log ++ entries } }

end Action

end TokenBroker
