import Mathlib.Data.List.Nodup
import Mathlib.Data.List.Perm.Subperm
import TokenBroker.Proofs.FileTree.Entries
import TokenBroker.Proofs.Json.Lines
import TokenBroker.Proofs.Settings.Written

/-!
# Saved settings

A save that succeeds leaves its content at the path that it was made for
(`Action.read_of_replaceFile`): the new file has stood at a name that was free (`freeName_free`), so
no directory on the way to the target is lost when it takes the place of the old one. The text of
settings that have passed their check is read back as those settings, whatever strings they hold
(`Settings.ofText_fileText`). So what is saved is loaded again, and saving that again writes the
same bytes (`Action.loadSettings_of_saveSettings`).
-/

namespace TokenBroker

namespace FileTree

variable {t t' : FileTree} {l l' source target : Location} {parts : List String}

/-! ## Moved files -/

theorem requireDirectory_ok : t.requireDirectory l = .ok () ↔
    ∃ entries, t.at? l = some (.directory entries) := by
  unfold requireDirectory
  rcases t.at? l with _ | ⟨entries⟩ | ⟨content, mode⟩
  · simp
  · simp
  · simp

/-- A path leads to the same place in a tree that has all the directories. -/
theorem walk_of_directories (kept : ∀ l entries, t.at? l = some (.directory entries) →
      t'.at? l = some (.directory entries)) (walked : t.walk l parts = .ok l') :
    t'.walk l parts = .ok l' := by
  induction parts generalizing l with
  | nil => exact walked
  | cons name rest ih =>
    simp only [walk, bind, Except.bind] at walked ⊢
    cases stands : t.requireDirectory l with
    | error e =>
      rw [stands] at walked
      cases walked
    | ok =>
      obtain ⟨entries, directory⟩ := requireDirectory_ok.1 stands
      rw [requireDirectory_ok.2 ⟨entries, kept l entries directory⟩]
      rw [stands] at walked
      simp only at walked ⊢
      split at walked
      · cases walked
      · next short =>
        rw [if_neg short]
        exact ih walked

/-- A path leads to its place as long as the directories stay. -/
theorem locate_of_directories {here : Location} {p : Path}
    (kept : ∀ l entries, t.at? l = some (.directory entries) → t'.at? l = some (.directory entries))
    (located : t.locate here p = .ok l) : t'.locate here p = .ok l := by
  simp only [locate, bind, Except.bind] at located ⊢
  split at located
  · cases located
  · exact walk_of_directories kept located

/-- What a move does: the file stands at the target, nothing stands at its source, and all else
stays. -/
theorem at?_of_replace (moved : t.replace source target = .ok t') :
    ∃ content mode, t.at? source = some (.file content mode) ∧
    t'.at? target = some (.file content mode) ∧
      (∀ entries, t.at? target ≠ some (.directory entries)) ∧
      (source ≠ [] → source ≠ target → t'.at? source = none) ∧
      ∀ l, l ≠ target → l ≠ source → t'.at? l = t.at? l := by
  unfold replace at moved
  split at moved
  · cases moved
  · next content mode source_file other =>
    cases moved
    refine ⟨content, mode, source_file, by simp [at?], ?_, ?_, ?_⟩
    · intro entries directory
      exact other entries directory
    · intro below apart
      simp [at?, Table.get?_put_of_ne apart, below]
    · intro l different aside
      simp only [at?, Table.get?_put_of_ne different, Table.get?_erase_of_ne aside]
  · cases moved

end FileTree

/-! ## Free names -/

section FreeName

variable (t : FileTree) (directory : Location) (name : String)

/-- The location of the new file with a number. -/
def scratchAt (n : Nat) : Location := directory ++ [s!".{name}.{n}.tmp"]

/-- Scratch files of different numbers have different names. -/
theorem scratchAt_injective : Function.Injective (scratchAt directory name) := by
  intro m n same
  unfold scratchAt at same
  have texts := congrArg String.toList (List.singleton_inj.1 (List.append_cancel_left same))
  simp only [toString, String.toList_append, List.append_assoc] at texts
  have numbers := List.append_cancel_right (List.append_cancel_left (List.append_cancel_left
    (List.append_cancel_left texts)))
  rw [Nat.toList_repr, Nat.toList_repr] at numbers
  calc m = Text.valueOf (Binary64.digitsOf m) := (Text.valueOf_digitsOf m).symm
    _ = Text.valueOf (Binary64.digitsOf n) := congrArg Text.valueOf numbers
    _ = n := Text.valueOf_digitsOf n

/-- A name that is not free has been tried last. -/
theorem freeName_cases (n fuel : Nat) :
    t.at? (freeName t directory name n fuel) = none ∨
      ∀ k ≤ fuel, t.at? (scratchAt directory name (n + k)) ≠ none := by
  induction fuel generalizing n with
  | zero =>
    unfold freeName
    by_cases free : t.at? (scratchAt directory name n) = none
    · exact .inl free
    · right
      intro k last
      rwa [Nat.le_zero.1 last]
  | succ fuel ih =>
    unfold freeName
    simp only
    split
    · next free => exact .inl (Option.isNone_iff_eq_none.1 free)
    · next taken =>
      rcases ih (n + 1) with free | all
      · exact .inl free
      · right
        intro k bound
        cases k with
        | zero => exact fun free => taken (Option.isNone_iff_eq_none.2 free)
        | succ k =>
          rw [← Nat.add_assoc, Nat.add_right_comm]
          exact all k (by omega)

/-- A free name is that of some number. -/
theorem freeName_eq (n fuel : Nat) :
    ∃ k, freeName t directory name n fuel = scratchAt directory name k := by
  induction fuel generalizing n with
  | zero => exact ⟨n, rfl⟩
  | succ fuel ih =>
    unfold freeName
    simp only
    split
    · exact ⟨n, rfl⟩
    · exact ih (n + 1)

/-- There are more names than places in the tree, so one of them is free. -/
theorem freeName_free : t.at? (freeName t directory name 0 t.nodes.length) = none := by
  rcases freeName_cases t directory name 0 t.nodes.length with free | all
  · exact free
  · exfalso
    have taken : (List.range (t.nodes.length + 1)).map (scratchAt directory name) ⊆ t.nodes.map
        (·.1) := by
      intro l member
      obtain ⟨k, bound, rfl⟩ := List.mem_map.1 member
      have some := all k (by have := List.mem_range.1 bound; omega)
      rw [Nat.zero_add] at some
      have below : scratchAt directory name k ≠ [] :=
        List.append_ne_nil_of_right_ne_nil _ (List.cons_ne_nil _ _)
      unfold FileTree.at? at some
      rw [Table.mem_keys_iff]
      cases found : t.nodes.get? (scratchAt directory name k) with
      | some node => exact ⟨node, rfl⟩
      | none =>
        rw [found] at some
        simp [below] at some
    have distinct : ((List.range (t.nodes.length + 1)).map (scratchAt directory name)).Nodup :=
      List.nodup_range.map (scratchAt_injective directory name)
    have few := (List.subperm_of_subset distinct taken).length_le
    simp at few

end FreeName

/-! ## The steps of a save -/

section Steps

variable {s : Saving} {trouble : SaveStep → Option FileError}
  {closeTrouble : Option (Nat × FileError)} {t t' : FileTree} {steps : List SaveStep}

/-- A save takes its steps one after the other, or gives up at the first one that is refused. -/
theorem Saving.run_cases (s : Saving) (trouble : SaveStep → Option FileError)
    (closeTrouble : Option (Nat × FileError)) (t : FileTree) (steps : List SaveStep) :
    (∃ t', steps.foldlM (s.attempt trouble) t = .ok t' ∧
      s.run trouble closeTrouble t steps = (t', .ok ())) ∨
      ∃ front step rest between e, steps = front ++ step :: rest ∧
        front.foldlM (s.attempt trouble) t = .ok between ∧
        s.attempt trouble between step = .error e ∧
        s.run trouble closeTrouble t steps =
          ((s.giveUp closeTrouble between step e).1, .error
            (s.giveUp closeTrouble between step e).2) := by
  induction steps generalizing t with
  | nil => exact .inl ⟨t, rfl, rfl⟩
  | cons step rest ih =>
    simp only [run]
    cases taken : s.attempt trouble t step with
    | error e => exact .inr ⟨[], step, rest, t, e, rfl, rfl, taken, rfl⟩
    | ok next =>
      have onward (steps : List SaveStep) :
          (step :: steps).foldlM (s.attempt trouble) t = steps.foldlM (s.attempt trouble) next := by
        rw [List.foldlM_cons, taken]
        rfl
      rcases ih next with ⟨t', ran, ended⟩ | ⟨front, refused, after, between, e, rfl, ran,
        failed, ended⟩
      · exact .inl ⟨t', (onward rest).trans ran, ended⟩
      · exact .inr ⟨step :: front, refused, after, between, e, rfl, (onward front).trans ran,
          failed, ended⟩

/-- Steps that are not refused do what they do to the tree. -/
theorem Saving.foldlM_apply (ran : steps.foldlM (s.attempt trouble) t = .ok t') :
    steps.foldlM (fun t step => step.apply s t) t = .ok t' := by
  induction steps generalizing t with
  | nil => exact ran
  | cons step rest ih =>
    rw [List.foldlM_cons] at ran ⊢
    cases taken : s.attempt trouble t step with
    | error e =>
      rw [taken] at ran
      cases ran
    | ok next =>
      rw [taken] at ran
      have applied : step.apply s t = .ok next := by
        unfold attempt at taken
        split at taken
        · cases taken
        · exact taken
      rw [applied]
      exact ih ran

/-- A save that succeeds has taken its steps one after the other. -/
theorem Saving.foldlM_of_run (ran : s.run trouble closeTrouble t steps = (t', .ok ())) :
    steps.foldlM (fun t step => step.apply s t) t = .ok t' := by
  rcases s.run_cases trouble closeTrouble t steps with ⟨_, taken, ended⟩
    | ⟨_, _, _, _, _, -, -, -, ended⟩
  · cases ran.symm.trans ended
    exact foldlM_apply taken
  · cases ran.symm.trans ended

/-- The tree after a save that succeeds: the new file, with all its content, has been moved to the
target. -/
theorem Saving.moved_of_run (ran : s.run trouble closeTrouble t SaveStep.all = (t', .ok ())) :
    ((t.put s.scratch (.file [] SaveStep.ownerOnly)).put s.scratch
      (.file s.content SaveStep.ownerOnly)).replace s.scratch s.target = .ok t' := by
  have taken := foldlM_of_run ran
  simp only [SaveStep.all, List.foldlM_cons, List.foldlM_nil, SaveStep.apply, bind,
    Except.bind] at taken
  split at taken
  · cases taken
  · next between created =>
    split at created
    · cases created
    · cases created
      split at taken
      · cases taken
      · next last replaced =>
        cases taken
        split at replaced
        · cases replaced
        · exact replaced

/-- Where a save has succeeded, the target holds the content, and all directories are left. -/
theorem Saving.saved_of_run (free : t.at? s.scratch = none)
    (ran : s.run trouble closeTrouble t SaveStep.all = (t', .ok ())) :
    t'.at? s.target = some (.file s.content SaveStep.ownerOnly) ∧
      ∀ l entries, t.at? l = some (.directory entries) → t'.at? l = some (.directory entries) := by
  obtain ⟨content, mode, source, target, noDirectory, -, others⟩ :=
    FileTree.at?_of_replace (moved_of_run ran)
  constructor
  · rw [FileTree.at?_put_self] at source
    cases source
    exact target
  · intro l entries directory
    have aside : l ≠ s.scratch := by
      rintro rfl
      rw [free] at directory
      cases directory
    have before : ((t.put s.scratch (.file [] SaveStep.ownerOnly)).put s.scratch
        (.file s.content SaveStep.ownerOnly)).at? l = some (.directory entries) := by
      rw [FileTree.at?_put_of_ne aside, FileTree.at?_put_of_ne aside, directory]
    have elsewhere : l ≠ s.target := by
      rintro rfl
      exact noDirectory entries before
    rw [others l elsewhere aside, before]

end Steps

/-- What is known of a save that has been prepared, in the tree as it is then. -/
structure Saving.Prepared (s : Saving) (t : FileTree) (here : Location) (p : Path)
    (content : List UInt8) : Prop where
  located : t.locate here p = .ok s.target
  content_eq : s.content = content
  scratchBytes_eq : s.scratchBytes = p.name.utf8ByteSize + Action.scratchExcess
  beside : ∃ directory n, t.locate here p.parent = .ok directory ∧
    s.scratch = scratchAt directory p.name n
  free : t.at? s.scratch = none

namespace Action

variable {p : Path} {content : List UInt8} {host host' : Host}

theorem ofFile_ok {α : Type} (x : α) (h : Host) : ofFile (.ok x) h = (.ok x, h) := rfl

theorem makeDirectories_run (p : Path) (h : Host) :
    makeDirectories p h = ((h.makeDirectories p).2.mapError .file, h.withTree
      (h.makeDirectories p).1) := rfl

theorem takeSteps_run (s : Saving) (steps : List SaveStep) (h : Host) :
    takeSteps s steps h = ((s.run h.saveTrouble h.closeTrouble h.tree steps).2.mapError .file,
      h.withTree (s.run h.saveTrouble h.closeTrouble h.tree steps).1) := rfl

/-- Preparing a save makes directories at most. If it is not refused, the save has a free name
beside its target. -/
theorem prepareSave_cases (p : Path) (content : List UInt8) (h : Host) :
    ∃ t, h.tree.Grown t ∧
      ((∃ fault, prepareSave p content h = (.error fault, h.withTree t)) ∨
        ∃ s : Saving, prepareSave p content h = (.ok s, h.withTree t) ∧
          s.Prepared t h.here p content) := by
  refine ⟨(h.makeDirectories p.parent).1, h.makeDirectories_grown p.parent, ?_⟩
  unfold prepareSave
  rw [bind_run, makeDirectories_run]
  rcases h.makeDirectories p.parent with ⟨t, e | _⟩
  · exact .inl ⟨_, rfl⟩
  · simp only [Except.mapError]
    rw [get_bind_run, bind_run, Host.withTree_tree, Host.withTree_here]
    cases directoryAt : t.locate h.here p.parent with
    | error e => exact .inl ⟨_, rfl⟩
    | ok directory =>
      simp only [ofFile_ok]
      rw [bind_run]
      cases targetAt : t.locate h.here p with
      | error e => exact .inl ⟨_, rfl⟩
      | ok target =>
        obtain ⟨n, named⟩ := freeName_eq t directory p.name 0 t.nodes.length
        refine .inr ⟨_, rfl, targetAt, rfl, rfl, ⟨directory, n, directoryAt, named⟩, ?_⟩
        exact freeName_free t directory p.name

/-- A file that has been replaced holds the content, at the path that it was replaced at. -/
theorem located_of_replaceFile (ran : replaceFile p content host = (.ok (), host')) :
    ∃ l, host'.tree.locate host'.here p = .ok l ∧
      host'.tree.at? l = some (.file content SaveStep.ownerOnly) := by
  obtain ⟨s, _, prepared, taken⟩ := exists_of_bind ran
  obtain ⟨t, -, ⟨fault, failed⟩ | ⟨_, made, ready⟩⟩ := prepareSave_cases p content host
  · cases failed.symm.trans prepared
  · cases made.symm.trans prepared
    rw [takeSteps_run] at taken
    simp only [Host.withTree_tree, Host.withTree_saveTrouble, Host.withTree_closeTrouble,
      Host.withTree_withTree] at taken
    rcases ended : s.run host.saveTrouble host.closeTrouble t SaveStep.all with ⟨t', e | _⟩
    · rw [ended] at taken
      cases taken
    · rw [ended] at taken
      cases taken
      obtain ⟨holds, kept⟩ := Saving.saved_of_run ready.free ended
      refine ⟨s.target, FileTree.locate_of_directories kept ready.located, ?_⟩
      rw [Host.withTree_tree, holds, ready.content_eq]

/-- The file is there, with the content. -/
theorem read_of_replaceFile (ran : replaceFile p content host = (.ok (), host')) :
    host'.tree.isFile host'.here p = .ok true ∧ host'.tree.read host'.here p = .ok content := by
  obtain ⟨l, located, holds⟩ := located_of_replaceFile ran
  constructor
  · simp only [FileTree.isFile, located, holds]
  · simp only [FileTree.read, located, holds, bind, Except.bind]

end Action

/-! ## Settings -/

/-- A usual limit has room for settings. -/
theorem Settings.allow_height (s : Settings) (limit : Json.NestingLimit) :
    Json.Levels.Allow limit.levels s.toJson.height := by
  intro n same
  cases same
  exact s.height_toJson_le.trans ((by decide : 4 ≤ 16).trans limit.roomy)

/-- The text of settings that have passed their check is read back as them. -/
theorem Settings.ofText_fileText {s : Settings} {j : Json} (accepted : ofJson j = .ok s)
    (nodup : (s.registrations.map (·.1)).Nodup) (writable : s.toJson.isWritable = true)
    (limit : Json.NestingLimit) : ofText limit.levels s.fileText = .ok s := by
  have read := Json.readWithin_render .portable (distinct_toJson nodup) writable
    (s.allow_height limit) "\n" (by simp [Json.isSpace])
  unfold ofText fileText parse
  simp only [read, ofJson_toJson accepted]
  rfl

namespace Action

variable {s : Settings} {p : Option Path} {target : Path} {host host' : Host}

/-- Settings that have been written can be, and the file has been replaced by their text. -/
theorem replaced_of_writeSettings {q : Path} (ran : writeSettings s q host = (.ok target, host')) :
    s.toJson.isWritable = true ∧ target = q ∧
      ∃ between, replaceFile target (Utf8.encode s.fileText) between = (.ok (), host') := by
  unfold writeSettings at ran
  cases writable : s.toJson.isWritable with
  | false =>
    rw [writable] at ran
    cases ran
  | true =>
    rw [writable] at ran
    obtain ⟨_, _, replaced, ended⟩ := exists_of_bind ran
    cases ended
    exact ⟨rfl, rfl, host, replaced⟩

/-- Saved settings have been written, to the path that is given if there is one. -/
theorem replaced_of_saveSettings (saved : saveSettings s p host = (.ok target, host')) :
    s.toJson.isWritable = true ∧ (∀ q ∈ p, target = q) ∧
      ∃ between, replaceFile target (Utf8.encode s.fileText) between = (.ok (), host') := by
  cases p with
  | some q =>
    obtain ⟨writable, same, replaced⟩ := replaced_of_writeSettings saved
    refine ⟨writable, ?_, replaced⟩
    rintro _ ⟨⟩
    exact same
  | none =>
    obtain ⟨_, _, -, written⟩ := exists_of_bind saved
    obtain ⟨writable, -, replaced⟩ := replaced_of_writeSettings written
    refine ⟨writable, ?_, replaced⟩
    rintro _ ⟨⟩

/-- Whatever settings are saved, with any strings in them, are loaded again from where they have
been saved, with their registrations in the same order; and saving what is loaded writes the same
bytes, wherever it is saved. -/
theorem loadSettings_of_saveSettings {j : Json} (accepted : Settings.ofJson j = .ok s)
    (mapping : (s.registrations.map (·.1)).Nodup)
    (saved : saveSettings s p host = (.ok target, host')) (readable : host'.readTrouble = none) :
    (∀ q ∈ p, target = q) ∧ loadSettings (some target) host' = (.ok s, host') ∧
      ∃ content, host'.tree.read host'.here target = .ok content ∧
        ∀ s' loaded, loadSettings (some target) host' = (.ok s', loaded) →
          ∀ p' target' host₁ host₂, saveSettings s' p' host₁ = (.ok target', host₂) →
            host₂.tree.read host₂.here target' = .ok content := by
  obtain ⟨writable, given, between, replaced⟩ := replaced_of_saveSettings saved
  obtain ⟨file, read⟩ := read_of_replaceFile replaced
  have text := Settings.ofText_fileText accepted mapping writable host'.nesting
  have loads : loadSettings (some target) host' = (.ok s, host') := by
    have found : isFile target host' = (.ok true, host') := by
      rw [isFile_run, Host.isFile, readable]
      simp only [Option.bind_none, file]
      rfl
    have content : readText target host' = (.ok s.fileText, host') := by
      have same : Text.unifyLines s.fileText = s.fileText :=
        Json.unifyLines_render .portable s.toJson
      unfold readText Host.content
      rw [get_bind_run, readable]
      simp only [Option.bind_none, read, bind_run, ofFile_ok, Utf8.decode_encode, same]
      rfl
    unfold loadSettings
    simp only [bind_run, found, if_true, adapt_run, content, settingsOf_run, text]
    rfl
  refine ⟨given, loads, _, read, ?_⟩
  intro s' loaded again p' target' host₁ host₂ savedAgain
  obtain ⟨same, -⟩ := Prod.mk.inj (loads.symm.trans again)
  cases same
  obtain ⟨-, -, _, replacedAgain⟩ := replaced_of_saveSettings savedAgain
  exact (read_of_replaceFile replacedAgain).2

end Action

namespace Saved

/-- Settings whose registrations are out of order, with quotes, controls and wide characters in
their texts. -/
def settings : Settings where
  registrations :=
    [("web", { clientId := "a\"b\\c/\x7f", tokenUri := "line\none\u2028", scopes := ["😀", ""] }),
      ("\x00\t", { clientId := "é", tokenUri := "/token", clientName := some "null" })]
  lifetimes := { clockSkew := 10 ^ 40 }
  requests := { timeout := .ofRatio false 1 10 }

def file : Path := ⟨.root, ["work", "settings", "a.json"]⟩

def host : Host where
  tree := { nodes := [(["work"], .directory []), (["work", "settings", "a.json"], .file [] 0o644)] }
  here := ["work"]
  world :=
    { clock := default
      transport _ := { reply := .interrupted }
      shared := { store := .memory [] } }

end Saved

namespace Action

open Saved in
/-- Settings whose texts have to be escaped are loaded as they were saved. -/
theorem escaped_settings_loaded :
    ∃ host', saveSettings settings (some file) host = (.ok file, host') ∧
      loadSettings (some file) host' = (.ok settings, host') := by
  have accepted : Settings.ofJson settings.toJson = .ok settings := by rfl
  have saved : (saveSettings settings (some file) host).1 = .ok file := by rfl
  refine ⟨_, Prod.ext saved rfl, ?_⟩
  exact (loadSettings_of_saveSettings accepted (by decide) (Prod.ext saved rfl) rfl).2.1

end Action

end TokenBroker
