import TokenBroker.Settings.Basic
import TokenBroker.Settings.Directories

/-!
# Settings files

Which file holds the settings, how it is read, and how it is replaced. Whatever is wrong with the
content of a file that is read is one configuration failure that names the file.
-/

namespace TokenBroker

/-- The name of the settings file of a project. -/
def projectFileName : String := "clientgrant.json"

/-- The name of the settings file of a user. -/
def userFileName : String := "config.json"

/-- The variable that names a settings file. -/
def fileVariable : String := "CLIENTGRANT_CONFIG"

namespace Settings

/-- The settings that a text holds, which is read with a limit. -/
def ofText (levels : Json.Levels) (text : String) : Except Fault Settings :=
  match Json.readWithin levels text with
  | .error e => .error (.ofSyntax e)
  | .ok j => (parse j).mapError .invalid

/-- A fault of reading settings from a path, as the failure that users see. -/
def unusable (p : Path) : Fault → Fault
  | .invalid i => .failure (.plain .config s!"Invalid config at {p.text}: {i.headline}" none
      i.issues)
  | .syntaxError e => .failure (.config s!"Invalid config at {p.text}: {e.message}")
  | .undecodable e => .failure (.config s!"Invalid config at {p.text}: {e.message}")
  | fault => fault

/-- The text of a settings file. -/
def fileText (s : Settings) : String := s.toJson.render .portable ++ "\n"

/-- The fault of settings with an integer that has too many digits to be written. -/
def tooManyDigits : Fault :=
  .raised "ValueError"
    (s!"Exceeds the limit ({Numeral.maxDigits} digits) for integer string conversion; " ++
      "use sys.set_int_max_str_digits() to increase the limit")

end Settings

namespace Action

/-- The settings file of the user. -/
def userFile : Action Path := return (← directory .config).child userFileName

/-- The settings file to read: one that is given, one that the environment names, that of the
project in the working directory, or that of the user. The first two need not exist; without any
there is none. -/
def settingsFile (given : Option String) : Action (Option Path) := do
  let h ← get
  match given.filter (· ≠ "") with
  | some s => some <$> expand s
  | none =>
    match h.environment.given? fileVariable with
    | some s => some <$> expand s
    | none =>
      let project : Path := ⟨.root, h.here ++ [projectFileName]⟩
      if ← isFile project then return some project
      let user ← userFile
      if ← isFile user then return some user
      return none

/-- The settings that a text holds, as far as the host can read it. -/
def settingsOf (text : String) : Action Settings := do
  ofExcept (Settings.ofText (← get).nesting.levels text)

/-- The settings of a file, or the default ones. -/
def loadSettings : Option Path → Action Settings
  | none => return {}
  | some p => do
    if ← isFile p then (do settingsOf (← readText p)).adapt (Settings.unusable p)
    else fail (.config s!"Config file not found: {p.text}")

end Action

/-! ## Replacing a file -/

/-- A save under way: where the new file stands meanwhile, where it is to stand, and its content.
The name of the new file counts as `scratchBytes` bytes, however many it has here; nothing can take
the place of a `fixed` target, which is no name in its directory. -/
structure Saving where
  scratch : Location
  scratchBytes : Nat
  target : Location
  fixed : Bool
  content : List UInt8

namespace SaveStep

/-- All steps in their order. -/
def all : List SaveStep := [.create, .restrict, .write, .flush, .sync, .close, .replace]

/-- The permissions of a file for its owner alone. -/
def ownerOnly : Nat := 0o600

/-- What a step does to the tree. A text that is handed over is held back until it is flushed. -/
def apply (s : Saving) (t : FileTree) : SaveStep → Except FileError FileTree
  | .create =>
    if FileTree.longestName < s.scratchBytes then .error .nameTooLong
    else .ok (t.put s.scratch (.file [] ownerOnly))
  | .restrict => .ok t
  | .write => .ok t
  | .flush => .ok (t.put s.scratch (.file s.content ownerOnly))
  | .sync => .ok t
  | .close => .ok t
  | .replace => if s.fixed then .error .busy else t.replace s.scratch s.target

/-- Whether the new file is open and holds back its text when a step is refused. -/
def holdsBack : SaveStep → Bool
  | .write => true
  | .flush => true
  | _ => false

end SaveStep

namespace Saving

/-- The tree after a step, which may be refused whatever the tree holds. -/
def attempt (s : Saving) (trouble : SaveStep → Option FileError) (t : FileTree) (step : SaveStep) :
    Except FileError FileTree :=
  match trouble step with
  | some e => .error e
  | none => step.apply s t

/-- What becomes of a save when a step is refused: the new file is taken away again, unless it
cannot be closed because its text still cannot be written, or only the first bytes of it. -/
def giveUp (s : Saving) (closeTrouble : Option (Nat × FileError)) (t : FileTree) (step : SaveStep)
    (e : FileError) : FileTree × FileError :=
  match closeTrouble with
  | some (written, again) =>
    if step.holdsBack then
      (t.put s.scratch (.file (s.content.take written) SaveStep.ownerOnly), again)
    else (t.unlink s.scratch, e)
  | none => (t.unlink s.scratch, e)

/-- Takes the steps of a save in turn, until one is refused. -/
def run (s : Saving) (trouble : SaveStep → Option FileError)
    (closeTrouble : Option (Nat × FileError)) (t : FileTree) :
    List SaveStep → FileTree × Except FileError Unit
  | [] => (t, .ok ())
  | step :: rest =>
    match s.attempt trouble t step with
    | .ok t => s.run trouble closeTrouble t rest
    | .error e =>
      let (t, e) := s.giveUp closeTrouble t step e
      (t, .error e)

end Saving

/-- The first name for a new file beside a file that is free. -/
def freeName (t : FileTree) (directory : Location) (name : String) : Nat → Nat → Location
  | n, 0 => directory ++ [s!".{name}.{n}.tmp"]
  | n, fuel + 1 =>
    let l := directory ++ [s!".{name}.{n}.tmp"]
    if (t.at? l).isNone then l else freeName t directory name (n + 1) fuel

namespace Action

/-- How many bytes the name of a new file has beyond the name of the file that it is to replace. -/
def scratchExcess : Nat := 14

/-- Prepares to replace a file: its directory is made if it is missing, and the new file gets a free
name in it. -/
def prepareSave (p : Path) (content : List UInt8) : Action Saving := do
  makeDirectories p.parent
  let h ← get
  let directory ← ofFile (h.tree.locate h.here p.parent)
  let target ← ofFile (h.tree.locate h.here p)
  return {
    scratch := freeName h.tree directory p.name 0 h.tree.nodes.length
    scratchBytes := p.name.utf8ByteSize + scratchExcess
    target
    fixed := p.name = "" || p.name = ".."
    content }

/-- Takes steps of a save. -/
def takeSteps (saving : Saving) (steps : List SaveStep) : Action Unit := do
  let h ← get
  let (tree, result) := saving.run h.saveTrouble h.closeTrouble h.tree steps
  set { h with tree }
  ofFile result

/-- Replaces a file, whose directory is made if it is missing. -/
def replaceFile (p : Path) (content : List UInt8) : Action Unit := do
  takeSteps (← prepareSave p content) SaveStep.all

/-- Writes settings to a file. Those that cannot be written leave all files as they are. -/
def writeSettings (s : Settings) (p : Path) : Action Path := do
  if !s.toJson.isWritable then throw Settings.tooManyDigits
  replaceFile p (Utf8.encode s.fileText)
  return p

/-- Saves settings to a file, or to that of the user. -/
def saveSettings (s : Settings) : Option Path → Action Path
  | some p => writeSettings s p
  | none => do writeSettings s (← userFile)

end Action

end TokenBroker
