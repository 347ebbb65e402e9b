import TokenBroker.Proofs.Settings.Saving

/-!
# Saved whole or not at all

A save works on a new file beside its target. Its steps before the last one leave every other place
alone (`Saving.run_sameBut`), and the last one puts all of the content in the place of the old file,
so that at no time the target holds anything but what it has held or the whole content
(`Saving.run_stages`). When a step is refused the new file is taken away again. The one exception is
a text that could not be written and that cannot be written either when the file is closed
(`Saving.Litters`): then the new file is left behind (`Saving.run_ending`).
-/

namespace TokenBroker

namespace FileTree

variable {t t' t'' : FileTree} {l : Location}

/-- Nothing has changed but what stands at a location. -/
def SameBut (l : Location) (t t' : FileTree) : Prop := ∀ l', l' ≠ l → t'.at? l' = t.at? l'

namespace SameBut

theorem refl (l : Location) (t : FileTree) : t.SameBut l t := fun _ _ => rfl

theorem trans (h : SameBut l t t') (h' : SameBut l t' t'') : SameBut l t t'' :=
  fun l' aside => (h' l' aside).trans (h l' aside)

theorem put (n : Node) : SameBut l t (t.put l n) := fun _ aside => at?_put_of_ne aside t n

theorem unlink : SameBut l t (t.unlink l) := fun _ aside => at?_unlink_of_ne aside t

/-- Where what stood at the location stands there again, nothing has changed. -/
theorem same (h : SameBut l t t') (at_l : t'.at? l = t.at? l) (l' : Location) :
    t'.at? l' = t.at? l' := by
  by_cases here : l' = l
  · rw [here, at_l]
  · exact h l' here

end SameBut

/-- A path is walked part by part. -/
theorem walk_append (t : FileTree) (l : Location) (front rest : List String) :
    t.walk l (front ++ rest) = (t.walk l front).bind fun l' => t.walk l' rest := by
  induction front generalizing l with
  | nil => rfl
  | cons name front ih =>
    simp only [List.cons_append, walk, bind, Except.bind]
    cases t.requireDirectory l with
    | error e => rfl
    | ok =>
      simp only
      split
      · rfl
      · exact ih _

theorem walk_of_locate {here : Location} {p : Path} (located : t.locate here p = .ok l) :
    t.walk (if p.anchor = .here then here else []) p.parts = .ok l := by
  simp only [locate, bind, Except.bind] at located
  split at located
  · cases located
  · exact located

/-- The last component of a path leads up, or to its name below the place to which the others
lead. -/
theorem locate_cases {here directory target : Location} {p : Path}
    (above : t.locate here p.parent = .ok directory) (located : t.locate here p = .ok target) :
    target = directory ∨ target = directory.dropLast ∨ target = directory ++ [p.name] := by
  have start : t.walk (if p.anchor = .here then here else []) p.parts.dropLast = .ok directory :=
    walk_of_locate above
  have whole := walk_of_locate located
  rcases List.eq_nil_or_concat' p.parts with none | ⟨front, name, parts⟩
  · rw [none] at start whole
    left
    exact Except.ok.inj (whole.symm.trans start)
  · have last : p.name = name := by simp [Path.name, parts]
    rw [parts, List.dropLast_concat] at start
    rw [parts, walk_append, start] at whole
    simp only [Except.bind, walk, bind] at whole
    split at whole
    · cases whole
    · split at whole
      · cases whole
      · cases whole
        rw [last]
        right
        split
        · exact .inl rfl
        · exact .inr rfl

end FileTree

namespace Saving

variable {s : Saving} {trouble : SaveStep → Option FileError}
  {closeTrouble : Option (Nat × FileError)} {t t' : FileTree} {steps front : List SaveStep}
  {step : SaveStep} {e : FileError}

/-! ## What a prepared save works on -/

namespace Prepared

variable {here : Location} {p : Path} {content : List UInt8}

theorem below (h : s.Prepared t here p content) : s.scratch ≠ [] := by
  obtain ⟨directory, n, -, scratch⟩ := h.beside
  rw [scratch]
  exact List.append_ne_nil_of_right_ne_nil _ (List.cons_ne_nil _ _)

/-- The new file is not the target: its name is a longer one than that of the target. -/
theorem apart (h : s.Prepared t here p content) : s.scratch ≠ s.target := by
  obtain ⟨directory, n, above, scratch⟩ := h.beside
  rw [scratch, scratchAt]
  intro same
  rcases FileTree.locate_cases above h.located with target | target | target
  · have lengths := congrArg List.length (same.trans target)
    simp at lengths
  · have lengths := congrArg List.length (same.trans target)
    simp at lengths
    omega
  · have names := List.singleton_inj.1 (List.append_cancel_left (same.trans target))
    have lengths := congrArg String.length names
    have dot : ".".length = 1 := rfl
    simp only [toString, String.length_append] at lengths
    omega

end Prepared

/-! ## The steps before the last one -/

/-- A step before the replacement touches the scratch file only. -/
theorem apply_sameBut (early : step ≠ .replace) (applied : step.apply s t = .ok t') :
    t.SameBut s.scratch t' := by
  cases step with
  | create =>
    simp only [SaveStep.apply] at applied
    split at applied
    · cases applied
    · cases applied
      exact .put _
  | flush =>
    cases applied
    exact .put _
  | replace => exact absurd rfl early
  | _ =>
    cases applied
    exact .refl _ _

/-- So does a step that may fail. -/
theorem attempt_sameBut (early : step ≠ .replace) (taken : s.attempt trouble t step = .ok t') :
    t.SameBut s.scratch t' := by
  unfold attempt at taken
  split at taken
  · cases taken
  · exact apply_sameBut early taken

/-- Steps that have all been taken have met no trouble. -/
theorem untroubled_of_foldlM (taken : steps.foldlM (s.attempt trouble) t = .ok t') :
    ∀ step ∈ steps, trouble step = none := by
  induction steps generalizing t with
  | nil => simp
  | cons step rest ih =>
    rw [List.foldlM_cons] at taken
    cases one : s.attempt trouble t step with
    | error e =>
      rw [one] at taken
      cases taken
    | ok next =>
      rw [one] at taken
      refine List.forall_mem_cons.2 ⟨?_, ih taken⟩
      unfold attempt at one
      split at one
      · cases one
      · assumption

/-- So do several steps. -/
theorem foldlM_sameBut (early : .replace ∉ steps)
    (taken : steps.foldlM (s.attempt trouble) t = .ok t') :
    t.SameBut s.scratch t' := by
  induction steps generalizing t with
  | nil =>
    cases taken
    exact .refl _ _
  | cons step rest ih =>
    obtain ⟨first, later⟩ := not_or.1 (List.mem_cons.not.1 early)
    rw [List.foldlM_cons] at taken
    cases one : s.attempt trouble t step with
    | error e =>
      rw [one] at taken
      cases taken
    | ok next =>
      rw [one] at taken
      exact (attempt_sameBut (Ne.symm first) one).trans (ih later taken)

/-- Giving up touches the scratch file only. -/
theorem giveUp_sameBut (s : Saving) (closeTrouble : Option (Nat × FileError)) (t : FileTree)
    (step : SaveStep) (e : FileError) : t.SameBut s.scratch (s.giveUp closeTrouble t step e).1 := by
  unfold giveUp
  split
  · split
    · exact .put _
    · exact .unlink
  · exact .unlink

/-- However far a save gets that does not come to its last step, it leaves every place but the new
file alone. -/
theorem run_sameBut (early : .replace ∉ steps) :
    t.SameBut s.scratch (s.run trouble closeTrouble t steps).1 := by
  rcases s.run_cases trouble closeTrouble t steps with
    ⟨t', taken, ended⟩ | ⟨front, step, rest, between, e, split, taken, -, ended⟩
  · rw [ended]
    exact foldlM_sameBut early taken
  · rw [ended]
    have before : .replace ∉ front := fun inFront => early (split ▸ List.mem_append_left _ inFront)
    exact (foldlM_sameBut before taken).trans (s.giveUp_sameBut closeTrouble between step e)

/-- The last step comes once all others have been taken. -/
theorem replace_not_mem (some : front <+: SaveStep.all) (proper : front ≠ SaveStep.all) :
    .replace ∉ front := by
  have concat : SaveStep.all = [.create, .restrict, .write, .flush, .sync, .close] ++ [.replace] :=
    rfl
  rw [concat, List.prefix_concat_iff] at some
  rcases some with all | early
  · exact absurd (all.trans concat.symm) proper
  · intro inFront
    have := early.subset inFront
    simp at this

/-! ## How a save ends -/

/-- The troubles by which the new file of a save is left behind: it has been made, its text could
not be written, and closing it fails for the same reason once more. -/
structure Litters (s : Saving) (trouble : SaveStep → Option FileError)
    (closeTrouble : Option (Nat × FileError)) : Prop where
  named : s.scratchBytes ≤ FileTree.longestName
  created : trouble .create = none
  restricted : trouble .restrict = none
  heldBack : ∃ step : SaveStep, step.holdsBack = true ∧ trouble step ≠ none
  unclosed : closeTrouble ≠ none

/-- The ways in which a save can end. -/
inductive Ending (s : Saving) (trouble : SaveStep → Option FileError)
    (closeTrouble : Option (Nat × FileError)) (t : FileTree) :
    FileTree × Except FileError Unit → Prop
  /-- The target holds the content, and every other place is as it was. -/
  | whole {t' : FileTree} (clean : ¬ s.Litters trouble closeTrouble)
      (holds : t'.at? s.target = some (.file s.content SaveStep.ownerOnly))
      (others : t.SameBut s.target t') : Ending s trouble closeTrouble t (t', .ok ())
  /-- Every place is as it was. -/
  | undone {t' : FileTree} {e : FileError} (clean : ¬ s.Litters trouble closeTrouble)
      (same : ∀ l, t'.at? l = t.at? l) : Ending s trouble closeTrouble t (t', .error e)
  /-- The new file is left behind with the first bytes of the text, and every other place is as it
  was. -/
  | littered {t' : FileTree} {written : Nat} {e : FileError}
      (litters : s.Litters trouble closeTrouble) (again : closeTrouble = some (written, e))
      (left : t'.at? s.scratch = some (.file (s.content.take written) SaveStep.ownerOnly))
      (others : t.SameBut s.scratch t') : Ending s trouble closeTrouble t (t', .error e)

/-- Steps that are all taken leave the whole text in the target. -/
theorem whole_of_run (free : t.at? s.scratch = none) (below : s.scratch ≠ [])
    (apart : s.scratch ≠ s.target)
    (ran : s.run trouble closeTrouble t SaveStep.all = (t', .ok ())) :
    t'.at? s.target = some (.file s.content SaveStep.ownerOnly) ∧ t.SameBut s.target t' := by
  refine ⟨(saved_of_run free ran).1, fun l different => ?_⟩
  obtain ⟨_, _, -, -, -, gone, others⟩ := FileTree.at?_of_replace (moved_of_run ran)
  by_cases aside : l = s.scratch
  · rw [aside, gone below apart, free]
  · rw [others l different aside, FileTree.at?_put_of_ne aside, FileTree.at?_put_of_ne aside]

/-- A step at which the text is held back comes after the new file has been made and kept from other
users. -/
theorem litters_of_stopped (order : SaveStep.all = front ++ step :: steps)
    (holds : step.holdsBack = true) (taken : front.foldlM (s.attempt trouble) t = .ok t')
    (refused : s.attempt trouble t' step = .error e) (unclosed : closeTrouble ≠ none) :
    s.Litters trouble closeTrouble := by
  have started : ∃ later, front = .create :: .restrict :: later := by
    rcases front with _ | ⟨first, _ | ⟨second, later⟩⟩
    · cases order
      cases holds
    · cases order
      cases holds
    · injection order with create order
      injection order with restrict
      exact ⟨later, by rw [← create, ← restrict]⟩
  obtain ⟨later, rfl⟩ := started
  have untroubled := untroubled_of_foldlM taken
  refine ⟨?_, untroubled _ (by simp), untroubled _ (by simp), ⟨step, holds, ?_⟩, unclosed⟩
  · by_contra long
    simp [List.foldlM_cons, attempt, untroubled .create (by simp), SaveStep.apply,
      Nat.lt_of_not_le long, bind, Except.bind] at taken
  · intro untroubled
    cases step with
    | write => simp [attempt, untroubled, SaveStep.apply] at refused
    | flush => simp [attempt, untroubled, SaveStep.apply] at refused
    | _ => cases holds

theorem run_of_litters {written : Nat} (litters : s.Litters trouble closeTrouble)
    (again : closeTrouble = some (written, e)) :
    s.run trouble closeTrouble t SaveStep.all =
      ((t.put s.scratch (.file [] SaveStep.ownerOnly)).put s.scratch
        (.file (s.content.take written) SaveStep.ownerOnly), .error e) := by
  have named := Nat.not_lt.2 litters.named
  obtain ⟨step, holds, refusal⟩ := litters.heldBack
  obtain ⟨e', refused⟩ := Option.ne_none_iff_exists'.1 refusal
  have made : s.attempt trouble t .create =
      .ok (t.put s.scratch (.file [] SaveStep.ownerOnly)) := by
    simp [attempt, litters.created, SaveStep.apply, named]
  have restricted (t : FileTree) : s.attempt trouble t .restrict = .ok t := by
    simp [attempt, litters.restricted, SaveStep.apply]
  simp only [SaveStep.all, run, made, restricted]
  cases write : trouble .write with
  | some _ => simp [attempt, write, giveUp, again, SaveStep.holdsBack]
  | none =>
    have flush : trouble .flush = some e' := by
      cases step with
      | write => cases write.symm.trans refused
      | flush => exact refused
      | _ => cases holds
    simp [attempt, write, flush, SaveStep.apply, giveUp, again, SaveStep.holdsBack]

/-- However a save ends, nothing but its target has changed, or nothing at all, or the new file is
left behind. -/
theorem run_ending (free : t.at? s.scratch = none) (below : s.scratch ≠ [])
    (apart : s.scratch ≠ s.target) :
    s.Ending trouble closeTrouble t (s.run trouble closeTrouble t SaveStep.all) := by
  by_cases litters : s.Litters trouble closeTrouble
  · obtain ⟨⟨written, e⟩, again⟩ := Option.ne_none_iff_exists'.1 litters.unclosed
    rw [run_of_litters litters again]
    exact .littered litters again (FileTree.at?_put_self _ _ _)
      ((FileTree.SameBut.put _).trans (.put _))
  · rcases s.run_cases trouble closeTrouble t SaveStep.all with
      ⟨t', -, ended⟩ | ⟨front, step, rest, between, e, order, taken, refused, ended⟩
    · obtain ⟨holds, others⟩ := whole_of_run free below apart ended
      rw [ended]
      exact .whole litters holds others
    · rw [ended]
      -- the replacement comes last, so no step before the one refused is it
      have early : .replace ∉ front := by
        refine replace_not_mem ⟨step :: rest, order.symm⟩ fun whole => ?_
        rw [whole] at order
        simp at order
      have unlinked : (s.giveUp closeTrouble between step e).1 = between.unlink s.scratch := by
        unfold giveUp
        split
        · next again =>
          split
          · next holds =>
            exact absurd (litters_of_stopped order holds taken refused (Option.some_ne_none _))
              litters
          · rfl
        · rfl
      have others := (foldlM_sameBut early taken).trans
        (s.giveUp_sameBut closeTrouble between step e)
      refine .undone litters (others.same ?_)
      rw [unlinked, FileTree.at?_unlink_self below, free]

/-- At no time a place other than the new file holds anything but what it has held, or is the target
and holds all of the content. -/
theorem run_stages (free : t.at? s.scratch = none) (below : s.scratch ≠ [])
    (apart : s.scratch ≠ s.target) (some : steps <+: SaveStep.all) {l : Location}
    (aside : l ≠ s.scratch) :
    (s.run trouble closeTrouble t steps).1.at? l = t.at? l ∨ l = s.target ∧
      (s.run trouble closeTrouble t steps).1.at? l = Option.some
        (.file s.content SaveStep.ownerOnly) := by
  by_cases all : steps = SaveStep.all
  · have ending : s.Ending trouble closeTrouble t (s.run trouble closeTrouble t steps) :=
      all ▸ run_ending free below apart
    revert ending
    rcases s.run trouble closeTrouble t steps with ⟨t', result⟩
    intro ending
    cases ending with
    | whole _ holds others =>
      by_cases target : l = s.target
      · exact .inr ⟨target, target ▸ holds⟩
      · exact .inl (others l target)
    | undone _ same => exact .inl (same l)
    | littered _ _ _ others => exact .inl (others l aside)
  · exact .inl (run_sameBut (replace_not_mem some all) l aside)

end Saving

/-! ## Saved settings -/

namespace Action

variable {p : Path} {h : Host}

/-- Looking for the user's file makes directories at most. -/
theorem userFile_cases (h : Host) :
    ∃ t, h.tree.Grown t ∧
      ((∃ fault, userFile h = (.error fault, h.withTree t)) ∨
        ∃ p, userFile h = (.ok p, h.withTree t)) := by
  unfold userFile directory
  simp only [bind_assoc, pure_bind]
  rw [get_bind_run, bind_run]
  cases h.directory .config with
  | error fault => exact ⟨h.tree, .refl h.tree, .inl ⟨fault, rfl⟩⟩
  | ok p =>
    refine ⟨_, h.makeDirectories_grown p, ?_⟩
    simp only [ofExcept_run]
    rw [bind_run, makeDirectories_run]
    cases (h.makeDirectories p).2 with
    | error e => exact .inl ⟨_, rfl⟩
    | ok => exact .inr ⟨_, rfl⟩

/-- Writing settings makes directories at most, or takes all steps of a save. -/
theorem writeSettings_cases (s : Settings) (p : Path) (h : Host) :
    ∃ t, h.tree.Grown t ∧
      ((∃ fault, writeSettings s p h = (.error fault, h.withTree t)) ∨
        ∃ saving : Saving, saving.Prepared t h.here p (Utf8.encode s.fileText) ∧
          writeSettings s p h = (do takeSteps saving SaveStep.all; return p : Action Path)
            (h.withTree t)) := by
  unfold writeSettings
  split
  · exact ⟨h.tree, .refl h.tree, .inl ⟨_, rfl⟩⟩
  · obtain ⟨t, grown, ⟨fault, refused⟩ | ⟨saving, made, ready⟩⟩ :=
      prepareSave_cases p (Utf8.encode s.fileText) h
    · refine ⟨t, grown, .inl ⟨fault, ?_⟩⟩
      simp only [replaceFile, bind_assoc]
      rw [bind_run, refused]
    · refine ⟨t, grown, .inr ⟨saving, ready, ?_⟩⟩
      simp only [replaceFile, bind_assoc]
      rw [bind_run, made]

/-- So does saving them, to the path that is given if there is one. -/
theorem saveSettings_cases (s : Settings) (given : Option Path) (h : Host) :
    ∃ t, h.tree.Grown t ∧
      ((∃ fault, saveSettings s given h = (.error fault, h.withTree t)) ∨
        ∃ (p : Path) (saving : Saving), (∀ q ∈ given, p = q) ∧
          saving.Prepared t h.here p (Utf8.encode s.fileText) ∧
          saveSettings s given h = (do takeSteps saving SaveStep.all; return p : Action Path)
            (h.withTree t)) := by
  cases given with
  | some p =>
    obtain ⟨t, grown, refused | ⟨saving, ready, taken⟩⟩ := writeSettings_cases s p h
    · exact ⟨t, grown, .inl refused⟩
    · refine ⟨t, grown, .inr ⟨p, saving, ?_, ready, taken⟩⟩
      rintro _ ⟨⟩
      rfl
  | none =>
    simp only [saveSettings]
    rw [bind_run]
    obtain ⟨t, grown, ⟨fault, refused⟩ | ⟨p, found⟩⟩ := userFile_cases h
    · rw [refused]
      exact ⟨t, grown, .inl ⟨fault, rfl⟩⟩
    · rw [found]
      obtain ⟨t', grown', refused | ⟨saving, ready, taken⟩⟩ :=
        writeSettings_cases s p (h.withTree t)
      · exact ⟨t', grown.trans grown', .inl refused⟩
      · exact ⟨t', grown.trans grown', .inr ⟨p, saving, nofun, ready, taken⟩⟩

/-- Settings are saved whole or not at all, whatever the tree holds and whichever steps are refused.
A save that does not get under way makes directories at most. One that does leaves, at each of its
steps, in every place but that of the new file what was there, or in the target the whole text; and
it ends with the whole text in the target, or with nothing changed, or with the new file left
behind, which holds the part of the text that could be written. The last happens exactly if the text
could not be written and could not be written either when the new file was closed. -/
theorem saveSettings_whole_or_not (s : Settings) (given : Option Path) (h : Host) :
    ∃ between, h.tree.Grown between ∧
      ((∃ fault, saveSettings s given h = (.error fault, h.withTree between)) ∨
        ∃ (p : Path) (saving : Saving) (after : FileTree) (result : Except FileError Unit),
          (∀ q ∈ given, p = q) ∧ saving.Prepared between h.here p (Utf8.encode s.fileText) ∧
          saveSettings s given h = ((result.mapError .file).map fun _ => p, h.withTree after) ∧
          saving.Ending h.saveTrouble h.closeTrouble between (after, result) ∧
          ∀ steps, steps <+: SaveStep.all → ∀ l, l ≠ saving.scratch →
            (takeSteps saving steps (h.withTree between)).2.tree.at? l = between.at? l ∨
              l = saving.target ∧ (takeSteps saving steps (h.withTree between)).2.tree.at? l =
                some (.file (Utf8.encode s.fileText) SaveStep.ownerOnly)) := by
  obtain ⟨between, grown, refused | ⟨p, saving, same, ready, taken⟩⟩ := saveSettings_cases s given h
  · exact ⟨between, grown, .inl refused⟩
  · have ending : saving.Ending h.saveTrouble h.closeTrouble between
        (saving.run h.saveTrouble h.closeTrouble between SaveStep.all) :=
      Saving.run_ending ready.free ready.below ready.apart
    rcases ended : saving.run h.saveTrouble h.closeTrouble between SaveStep.all with ⟨after, result⟩
    rw [ended] at ending
    refine ⟨between, grown, .inr ⟨p, saving, after, result, same, ready, ?_, ending, ?_⟩⟩
    · rw [taken, bind_run, takeSteps_run]
      simp only [Host.withTree_tree, Host.withTree_saveTrouble, Host.withTree_closeTrouble,
        Host.withTree_withTree, ended]
      cases result <;> rfl
    · intro steps some l aside
      rw [takeSteps_run, ← ready.content_eq]
      exact Saving.run_stages ready.free ready.below ready.apart some aside

end Action

namespace FullDisk

/-- A disk with one directory. -/
def roomy : Host where
  tree := { nodes := [(["work"], .directory [])] }
  world :=
    { clock := default
      transport _ := { reply := .interrupted }
      shared := { store := .memory [] } }

def noSpace : FileError := .other "No space left on device"

/-- The disk is full: the text of a new file can be written neither when it is flushed nor when the
file is closed. -/
def host : Host :=
  { roomy with
    saveTrouble := fun step => if step = .flush then some noSpace else none
    closeTrouble := some (0, noSpace) }

def file : Path := ⟨.root, ["work", "a.json"]⟩

/-- A path that leads back to a directory which is made on the way. -/
def back : Path := ⟨.root, ["work", "new", "..", "new"]⟩

end FullDisk

namespace Action

open FullDisk in
/-- A save that is refused can leave its new file behind; and it can have made its target, as a
directory. -/
theorem full_disk_leaves_new_file :
    (saveSettings {} (some file) host).1 = .error (.file noSpace) ∧
      host.tree.at? ["work", ".a.json.0.tmp"] = none ∧
      (saveSettings {} (some file) host).2.tree.at? ["work", ".a.json.0.tmp"] = some
        (.file [] SaveStep.ownerOnly) ∧
      (saveSettings {} (some back) roomy).1 = .error (.file .isADirectory) ∧
      roomy.tree.at? ["work", "new"] = none ∧
      (saveSettings {} (some back) roomy).2.tree.at? ["work", "new"] = some (.directory []) :=
  ⟨rfl, rfl, rfl, rfl, rfl, rfl⟩

end Action

end TokenBroker
