import TokenBroker.Proofs.CommandLine.Lockstep
import TokenBroker.Proofs.FileTree.Tokens
import TokenBroker.Proofs.Service.Tokens
import TokenBroker.Settings.Credential
import TokenBroker.Settings.Directories
import TokenBroker.Settings.File

/-!
# Hosts with other tokens

Two hosts differ in tokens at most if their file trees and their worlds do. An action is blind to
tokens if from two such hosts it ends alike and leaves two such hosts. All that is done with files,
directories, credentials and settings before a store is opened is blind to tokens.
-/

namespace TokenBroker

/-- Two hosts that differ in tokens at most. -/
def Host.SameButTokens (h h' : Host) : Prop :=
  ∃ tree world, h.tree.SameButTokens tree ∧ h.world.SameButTokens world ∧
  h' = { h with tree, world }

namespace Host.SameButTokens

variable {h h' : Host} (alike : h.SameButTokens h')
include alike

theorem tree : h.tree.SameButTokens h'.tree := by
  obtain ⟨tree, world, trees, -, rfl⟩ := alike
  exact trees

theorem world : h.world.SameButTokens h'.world := by
  obtain ⟨tree, world, -, worlds, rfl⟩ := alike
  exact worlds

theorem here : h'.here = h.here := by
  obtain ⟨tree, world, -, -, rfl⟩ := alike
  rfl

theorem environment : h'.environment = h.environment := by
  obtain ⟨tree, world, -, -, rfl⟩ := alike
  rfl

theorem homes : h'.homes = h.homes := by
  obtain ⟨tree, world, -, -, rfl⟩ := alike
  rfl

/-- The program's directories are in the same places. -/
theorem directory (purpose : Purpose) : h'.directory purpose = h.directory purpose := by
  obtain ⟨tree, world, -, -, rfl⟩ := alike
  rfl

/-- Both make the same directories, as far as either gets. -/
theorem makeDirectories (p : Path) :
    (h.makeDirectories p).1.SameButTokens (h'.makeDirectories p).1 ∧
      (h'.makeDirectories p).2 = (h.makeDirectories p).2 := by
  obtain ⟨tree, world, trees, -, rfl⟩ := alike
  unfold Host.makeDirectories
  cases h.directoryTrouble with
  | none => exact trees.makeDirectories h.here p
  | some refusal =>
    obtain ⟨made, result⟩ := trees.makeDirectories h.here { p with parts := p.parts.take refusal.1 }
    simp only [result]
    exact ⟨made, trivial⟩

theorem isFile (p : Path) : h'.isFile p = h.isFile p := by
  obtain ⟨tree, world, trees, -, rfl⟩ := alike
  unfold Host.isFile
  rw [trees.isFile]

theorem content (p : Path) : h'.content p = h.content p := by
  obtain ⟨tree, world, trees, -, rfl⟩ := alike
  unfold Host.content
  rw [trees.read]

theorem nesting : h'.nesting = h.nesting := by
  obtain ⟨tree, world, -, -, rfl⟩ := alike
  rfl

theorem extensions : h'.extensions = h.extensions := by
  obtain ⟨tree, world, -, -, rfl⟩ := alike
  rfl

theorem screen : h'.screen = h.screen := by
  obtain ⟨tree, world, -, -, rfl⟩ := alike
  rfl

theorem withTree {t t' : FileTree} (trees : t.SameButTokens t') :
    SameButTokens { h with tree := t } { h' with tree := t' } := by
  obtain ⟨tree, world, -, worlds, rfl⟩ := alike
  exact ⟨t', world, trees, worlds, rfl⟩

theorem withWorld {w w' : World} (worlds : w.SameButTokens w') :
    SameButTokens { h with world := w } { h' with world := w' } := by
  obtain ⟨tree, world, trees, -, rfl⟩ := alike
  exact ⟨tree, w', trees, worlds, rfl⟩

end Host.SameButTokens

namespace Action

/-- From hosts that differ in tokens at most, an action ends alike and leaves such hosts. -/
abbrev BlindToTokens {α : Type} (a : Action α) : Prop := Lockstep Host.SameButTokens Eq a a

/-! ## Files -/

variable {α β : Type} {R : α → β → Prop}

/-- Results that are related are given in lockstep. -/
theorem lockstep_ofExcept {r : Except Fault α} {r' : Except Fault β} (results : Except.Rel R r r') :
    Lockstep Host.SameButTokens R (ofExcept r) (ofExcept r') :=
  fun _ _ alike => ⟨results, alike⟩

theorem lockstep_ofFile {r : Except FileError α} {r' : Except FileError β}
    (results : Except.Rel R r r') :
    Lockstep Host.SameButTokens R (ofFile r) (ofFile r') :=
  lockstep_ofExcept (results.mapError Fault.file)

theorem blind_ofExcept (r : Except Fault α) : BlindToTokens (ofExcept r) :=
  lockstep_ofExcept (.refl (fun _ => rfl) r)

theorem blind_ofFile (r : Except FileError α) : BlindToTokens (ofFile r) :=
  lockstep_ofFile (.refl (fun _ => rfl) r)

theorem blind_expand (s : String) : BlindToTokens (expand s) := by
  refine .get_bind fun h h' alike => ?_
  rw [alike.homes]
  exact blind_ofExcept _ alike

theorem blind_isFile (p : Path) : BlindToTokens (isFile p) := by
  refine .get_bind fun h h' alike => ?_
  rw [alike.isFile]
  exact blind_ofFile _ alike

theorem blind_makeDirectories (p : Path) : BlindToTokens (makeDirectories p) := by
  refine .get_bind fun h h' alike => ?_
  obtain ⟨made, result⟩ := alike.makeDirectories p
  simp only [result]
  exact Lockstep.bind_eq (.setState (alike.withTree made))
    (fun _ => blind_ofFile (h.makeDirectories p).2) alike

theorem blind_directory (purpose : Purpose) : BlindToTokens (directory purpose) := by
  refine .get_bind fun h h' alike => ?_
  rw [alike.directory]
  exact Lockstep.bind_eq (blind_ofExcept _)
    (fun p => (blind_makeDirectories p).bind_eq fun _ => .pure rfl) alike

/-- Reading a file looks at no token. -/
theorem blind_readText (p : Path) : BlindToTokens (readText p) := by
  refine .get_bind fun h h' alike => ?_
  rw [alike.content]
  refine Lockstep.bind_eq (blind_ofFile _) (fun content => ?_) alike
  split
  · exact .pure rfl
  · exact .throw _

theorem blind_writeText (p : Path) (text : String) : BlindToTokens (writeText p text) := by
  refine .get_bind fun h h' alike => ?_
  have written := alike.tree.write h.here p (Utf8.encode text)
  obtain ⟨tree, world, trees, worlds, rfl⟩ := alike
  refine (lockstep_ofFile written).bind (fun t t' made => .setState ?_)
    ⟨tree, world, trees, worlds, rfl⟩
  exact ⟨t', world, made, worlds, rfl⟩

theorem blind_log (entries : List LogEntry) : BlindToTokens (log entries) :=
  .modifyState fun _ _ alike => alike.withWorld (alike.world.note entries)

/-! ## Settings -/

theorem blind_userFile : BlindToTokens userFile :=
  (blind_directory .config).bind_eq fun _ => .pure rfl

/-- Looking for the settings file looks at no token. -/
theorem blind_settingsFile (given : Option String) : BlindToTokens (settingsFile given) := by
  refine .get_bind fun h h' alike => ?_
  rw [alike.environment, alike.here]
  cases given.filter (· ≠ "") with
  | some s => exact (blind_expand s).map some alike
  | none =>
    cases h.environment.given? fileVariable with
    | some s => exact (blind_expand s).map some alike
    | none =>
      refine Lockstep.bind_eq (blind_isFile _) (fun found => .ite (.pure rfl) ?_) alike
      exact blind_userFile.bind_eq fun user =>
        (blind_isFile user).bind_eq fun found => .ite (.pure rfl) (.pure rfl)

theorem blind_settingsOf (text : String) : BlindToTokens (settingsOf text) := by
  refine .get_bind fun h h' alike => ?_
  rw [alike.nesting]
  exact blind_ofExcept _ alike

/-- Loading the settings looks at no token. -/
theorem blind_loadSettings (p : Option Path) : BlindToTokens (loadSettings p) := by
  cases p with
  | none => exact .pure rfl
  | some p =>
    refine (blind_isFile p).bind_eq fun found => .ite ?_ (.throw _)
    exact ((blind_readText p).bind_eq blind_settingsOf).adapt _

/-! ## Credentials -/

/-- Looking a secret up looks at no token. -/
theorem blind_credential (source : String) : BlindToTokens (credential source) := by
  unfold credential
  split
  · next name _ =>
    refine .get_bind fun h h' alike => ?_
    rw [alike.environment]
    cases Table.get? h.environment name with
    | some value => exact Lockstep.pure rfl alike
    | none => exact Lockstep.throw _ alike
  · refine (blind_expand _).bind_eq fun p => (blind_isFile p).bind_eq fun found =>
      .ite ?_ (.throw _)
    exact ((blind_readText p).adapt _).bind_eq fun text => .pure rfl
  · exact .throw _

theorem blind_registration (id : String) (entry : RegistrationEntry) :
    BlindToTokens (registration id entry) := by
  unfold registration
  split
  · exact Lockstep.bind_eq (.pure rfl) fun secret => .pure rfl
  · exact Lockstep.bind_eq (.pure rfl) fun secret => .pure rfl
  · exact (((blind_credential _).adapt _).map some).bind_eq fun secret => .pure rfl

/-- Reading the registrations looks at no token. -/
theorem blind_registrations (s : Settings) : BlindToTokens (registrations s) :=
  .mapM (fun (id, entry) => blind_registration id entry) s.registrations

end Action

end TokenBroker
