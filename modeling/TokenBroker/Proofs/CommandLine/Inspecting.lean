import TokenBroker.CommandLine.Commands
import TokenBroker.Proofs.Host
import TokenBroker.Proofs.FileTree.Rewriting

/-!
# Inspecting registrations

The commands that list and show registrations read the settings and nothing of the secrets that the
settings name the sources of. A `Rekeying` gives a host other credentials: any contents of its files
and any values of its variables, except for the variables that the program reads for itself. Unless
it reaches the settings file, the inspecting commands write the same and end alike
(`CommandLine.invoke_rekey`).
-/

namespace TokenBroker

/-- The variables that the program reads for itself, whatever the settings name. -/
def programVariables : List String :=
  [fileVariable, Purpose.config.baseVariable, Purpose.data.baseVariable, "HOME", "NO_COLOR", "TERM",
    "TTY_COMPATIBLE", "FORCE_COLOR", "COLUMNS", "LINES"]

/-- Other credentials: other contents of files, and other variables apart from the program's own. -/
structure Rekeying where
  content : Location → List UInt8 → List UInt8
  environment : Environment → Environment
  kept : ∀ env, ∀ name ∈ programVariables, (environment env).get? name = env.get? name

/-- A host with other credentials. -/
def Host.rekey (k : Rekeying) (h : Host) : Host :=
  { h with tree := h.tree.rewrite k.content, environment := k.environment h.environment }

/-- A session on a host with other credentials. -/
def Session.rekey (k : Rekeying) (s : Session) : Session := { s with host := s.host.rekey k }

/-- Other credentials leave alone what stands at a path. -/
def Rekeying.Spares (k : Rekeying) (h : Host) (p : Path) : Prop :=
  ∀ l, h.tree.locate h.here p = .ok l → ∀ content, k.content l content = content

/-- Whether a fault that a command leaves to others ends in a crash report. -/
def Fault.crashes : Fault → Bool
  | .failure _ | .interrupted => false
  | _ => true

/-- Whether a command inspects registrations. -/
def Command.inspects : Command → Bool
  | .listRegistrations | .showRegistration _ => true
  | _ => false

variable (k : Rekeying)

/-! ## Variables -/

namespace Rekeying

/-- The program's own variables keep their values. -/
theorem given?_eq (env : Environment) {name : String} (own : name ∈ programVariables) :
    (k.environment env).given? name = env.given? name := by
  simp only [Environment.given?, k.kept env name own]

/-- Colour is refused before and after alike. -/
theorem refusesColor_eq (env : Environment) :
    (k.environment env).refusesColor = env.refusesColor := by
  simp only [Environment.refusesColor, k.kept env "NO_COLOR" (by decide),
    k.kept env "TERM" (by decide)]

/-- Things are shown in the same way. -/
theorem settle_eq (wanted : Preferences) (env : Environment) (screen : Screen) :
    Presentation.settle wanted (k.environment env) screen = .settle wanted env screen := by
  simp only [Presentation.settle, Environment.assumesTerminal, Environment.columns,
    k.refusesColor_eq, k.given?_eq env (show "COLUMNS" ∈ programVariables by decide),
    k.kept env "TTY_COMPATIBLE" (by decide), k.kept env "FORCE_COLOR" (by decide)]

/-- The homes of the users stay where they are. -/
theorem expandHome_eq (h : Host) (p : Path) :
    p.expandHome (h.rekey k).homes = p.expandHome h.homes := by
  have directory (account : String) :
      (h.rekey k).homes.directory? account = h.homes.directory? account := by
    simp only [Homes.directory?, Host.homes, Host.rekey, k.kept h.environment "HOME" (by decide)]
  have expanded (s : String) : (h.rekey k).homes.expand s = h.homes.expand s := by
    simp only [Homes.expand, directory]
  simp only [Path.expandHome, expanded]

/-- The program's directories stay where they are. -/
theorem directory_eq (h : Host) {purpose : Purpose}
    (own : purpose.baseVariable ∈ programVariables) :
    (h.rekey k).directory purpose = h.directory purpose := by
  have given : (h.rekey k).environment.given? purpose.baseVariable =
      h.environment.given? purpose.baseVariable := k.given?_eq h.environment own
  simp only [Host.directory, Path.home, expandHome_eq, given]
  rfl

/-- Directories are made in the same places, whatever the files hold. -/
theorem makeDirectories_eq (h : Host) (p : Path) :
    (h.rekey k).makeDirectories p = ((h.makeDirectories p).1.rewrite k.content,
      (h.makeDirectories p).2) := by
  have made (q : Path) : (h.rekey k).tree.makeDirectories (h.rekey k).here q =
      ((h.tree.makeDirectories h.here q).1.rewrite k.content,
        (h.tree.makeDirectories h.here q).2) :=
    FileTree.makeDirectories_rewrite k.content h.tree h.here q
  have trouble : (h.rekey k).directoryTrouble = h.directoryTrouble := rfl
  unfold Host.makeDirectories
  rw [trouble]
  cases h.directoryTrouble with
  | none => exact made p
  | some refusal => simp only [made]

end Rekeying

/-! ## Actions -/

namespace Action

variable {α : Type} {k}

theorem passes_ofExcept (r : Except Fault α) : Passes (Host.rekey k) (ofExcept r) := fun _ => rfl

theorem passes_expand (s : String) : Passes (Host.rekey k) (expand s) := by
  intro h
  unfold expand
  rw [get_bind_run, get_bind_run, k.expandHome_eq]
  exact passes_ofExcept _ h

theorem passes_isFile (p : Path) : Passes (Host.rekey k) (isFile p) := by
  intro h
  unfold isFile
  rw [get_bind_run, get_bind_run]
  have same : (h.rekey k).isFile p = h.isFile p := by
    unfold Host.isFile
    have seen : (h.rekey k).tree.isFile (h.rekey k).here p = h.tree.isFile h.here p :=
      FileTree.isFile_rewrite k.content h.tree h.here p
    rw [seen]
    rfl
  rw [same]
  rfl

theorem passes_makeDirectories (p : Path) : Passes (Host.rekey k) (makeDirectories p) := by
  intro h
  show (((h.rekey k).makeDirectories p).2.mapError Fault.file,
    { h.rekey k with tree := ((h.rekey k).makeDirectories p).1 }) = _
  rw [k.makeDirectories_eq]
  rfl

theorem passes_directory {purpose : Purpose} (own : purpose.baseVariable ∈ programVariables) :
    Passes (Host.rekey k) (directory purpose) := by
  intro h
  unfold directory
  rw [get_bind_run, get_bind_run, k.directory_eq h own]
  exact Passes.bind (passes_ofExcept _)
    (fun p => Passes.bind (passes_makeDirectories p) fun _ => .pure p) h

theorem passes_userFile : Passes (Host.rekey k) userFile :=
  Passes.bind (passes_directory (by decide)) fun _ => .pure _

/-- The settings file is found by the program's own variables and by what files there are. -/
theorem passes_settingsFile (given : Option String) :
    Passes (Host.rekey k) (settingsFile given) := by
  intro h
  have named : (h.rekey k).environment.given? fileVariable = h.environment.given? fileVariable :=
    k.given?_eq h.environment (by decide)
  have here : (h.rekey k).here = h.here := rfl
  unfold settingsFile
  rw [get_bind_run, get_bind_run, named, here]
  cases given.filter (· ≠ "") with
  | some s => exact (passes_expand s).map some h
  | none =>
    cases h.environment.given? fileVariable with
    | some s => exact (passes_expand s).map some h
    | none =>
      refine Passes.bind (passes_isFile _) (fun found => .ite (.pure _) ?_) h
      exact Passes.bind passes_userFile fun user =>
        Passes.bind (passes_isFile user) fun found => .ite (.pure _) (.pure _)

/-- A file that is spared reads as before. -/
theorem readText_rekey {h : Host} {p : Path} (spared : k.Spares h p) :
    readText p (h.rekey k) = ((readText p h).1, (readText p h).2.rekey k) := by
  have read : (h.rekey k).tree.read (h.rekey k).here p = h.tree.read h.here p :=
    FileTree.read_rewrite k.content spared
  have same : (h.rekey k).content p = h.content p := by
    unfold Host.content
    rw [read]
    rfl
  unfold readText
  rw [get_bind_run, get_bind_run, same]
  refine Passes.bind (fun _ => rfl) (fun content => ?_) h
  split
  · exact .pure _
  · exact .throw _

/-- Settings that are read from a file that is left alone are the same. -/
theorem loadSettings_rekey {h : Host} {p : Option Path} (spared : ∀ q, p = some q → k.Spares h q) :
    loadSettings p (h.rekey k) = ((loadSettings p h).1, (loadSettings p h).2.rekey k) := by
  cases p with
  | none => rfl
  | some p =>
    refine Passes.bind_at (passes_isFile p h) fun found h' ended => ?_
    have same : h = h' := congrArg Prod.snd ended
    subst same
    cases found with
    | false => rfl
    | true =>
      exact Passes.adapt_at (Settings.unusable p) (Passes.bind_at (readText_rekey (spared p rfl))
        fun text t _ => passes_ofExcept (Settings.ofText t.nesting.levels text) t)

theorem writeText_run (p : Path) (text : String) (h : Host) :
    writeText p text h = match h.tree.write h.here p (Utf8.encode text) with
      | .error e => (.error (.file e), h)
      | .ok tree => (.ok (), { h with tree }) := by
  unfold writeText
  rw [get_bind_run, bind_run]
  cases h.tree.write h.here p (Utf8.encode text) <;> rfl

/-- A file can be written, or cannot, whatever the files contain. -/
theorem writeText_rekey (p : Path) (text : String) (h : Host) :
    (writeText p text (h.rekey k)).1 = (writeText p text h).1 ∧
      (writeText p text (h.rekey k)).2.world = (writeText p text h).2.world := by
  have same : ((h.rekey k).tree.write (h.rekey k).here p (Utf8.encode text)).map (fun _ => ()) =
      (h.tree.write h.here p (Utf8.encode text)).map (fun _ => ()) :=
    FileTree.write_rewrite k.content h.tree h.here p (Utf8.encode text)
  rw [writeText_run, writeText_run]
  revert same
  generalize (h.rekey k).tree.write (h.rekey k).here p (Utf8.encode text) = x,
    h.tree.write h.here p (Utf8.encode text) = y
  intro same
  cases x <;> cases y <;> cases same <;> exact ⟨rfl, rfl⟩

/-- A report is written, or cannot be, whatever the files contain. -/
theorem leave_rekey (file : Path) (text : String) (h : Host) :
    ((writeText file text >>= fun _ => pure file : Action Path) (h.rekey k)).1 =
        ((writeText file text >>= fun _ => pure file : Action Path) h).1 ∧
      ((writeText file text >>= fun _ => pure file : Action Path) (h.rekey k)).2.world =
        ((writeText file text >>= fun _ => pure file : Action Path) h).2.world := by
  obtain ⟨result, world⟩ := writeText_rekey (k := k) file text h
  rw [bind_run, bind_run]
  revert result world
  rcases writeText file text (h.rekey k) with ⟨_ | _, t⟩ <;>
    rcases writeText file text h with ⟨_ | _, t'⟩ <;>
    intro result world <;> cases result <;> exact ⟨rfl, world⟩

/-- A crash is told in the same words, whatever the files hold. -/
theorem crashReport_rekey (fault : Fault) (h : Host) :
    (Session.crashReport fault (h.rekey k)).1 = (Session.crashReport fault h).1 ∧
      (Session.crashReport fault (h.rekey k)).2.world = (Session.crashReport fault h).2.world := by
  unfold Session.crashReport
  rw [bind_run, bind_run, passes_directory (by decide)]
  rcases directory .data h with ⟨_ | reports, h'⟩
  · exact ⟨rfl, rfl⟩
  · simp only []
    rw [bind_run, bind_run, passes_makeDirectories]
    rcases makeDirectories (reports.child Session.reportsName) h' with ⟨_ | made, h''⟩
    · exact ⟨rfl, rfl⟩
    · have world : (h''.rekey k).world = h''.world := rfl
      simp only []
      rw [get_bind_run, get_bind_run, world]
      exact leave_rekey _ _ h''

end Action

/-! ## Work -/

namespace Work

variable {α : Type} {k}

theorem passes_rendered (text : Presentation → Except Markup.Error String) :
    Passes (Session.rekey k) (rendered text) := by
  intro s
  have presentation : (s.rekey k).presentation = s.presentation := rfl
  unfold rendered
  rw [get_bind_run, get_bind_run, presentation]
  cases text s.presentation <;> rfl

theorem passes_write (text : Presentation → Except Markup.Error String) :
    Passes (Session.rekey k) (write text) :=
  Passes.bind (passes_rendered text) fun _ _ => rfl

theorem passes_report (text : Presentation → Except Markup.Error String) :
    Passes (Session.rekey k) (report text) :=
  Passes.bind (passes_rendered text) fun _ _ => rfl

theorem passes_failWith (f : Failure) : Passes (Session.rekey k) (failWith f : Work α) := by
  unfold failWith
  exact Passes.bind (passes_report _) fun _ =>
    Passes.ite (Passes.bind (passes_report _) fun _ => .throw _) (.throw _)

/-- An action that passes on one host passes in the session of that host. -/
theorem act_rekey {a : Action α} {s : Session}
    (same : a (s.host.rekey k) = ((a s.host).1, (a s.host).2.rekey k)) :
    act a (s.rekey k) = ((act a s).1, (act a s).2.rekey k) := by
  unfold act
  rw [get_bind_run, get_bind_run]
  have host : (s.rekey k).host = s.host.rekey k := rfl
  have ran : a.run (s.host.rekey k) = ((a.run s.host).1, (a.run s.host).2.rekey k) := same
  rw [host, ran]
  rcases a.run s.host with ⟨result, h⟩
  cases result with
  | ok x => rfl
  | error fault =>
    cases fault with
    | failure f => exact passes_failWith f { s with host := h }
    | _ => rfl

/-- The settings in force are the same unless their file is reached. -/
theorem activeSettings_rekey {given : Option String} {s : Session}
    (spared : ∀ p h, Action.settingsFile given s.host = (.ok (some p), h) → k.Spares h p) :
    activeSettings given (s.rekey k) = ((activeSettings given s).1,
      (activeSettings given s).2.rekey k) := by
  refine act_rekey (Passes.bind_at (Action.passes_settingsFile given s.host) fun p h found => ?_)
  exact Action.loadSettings_rekey fun q same => spared q h (by rw [found, same])

/-- A command that only inspects does the same, if the settings file is spared. -/
theorem command_rekey {given : Option String} {c : Command} {s : Session}
    (inspects : c.inspects = true)
    (spared : ∀ p h, Action.settingsFile given s.host = (.ok (some p), h) → k.Spares h p) :
    command given c (s.rekey k) = ((command given c s).1, (command given c s).2.rekey k) := by
  cases c with
  | listRegistrations =>
    refine Passes.bind_at (activeSettings_rekey spared) fun settings t _ => ?_
    refine Passes.ite ?_ ?_ t
    · exact Passes.bind (passes_report _) fun _ => passes_report _
    · exact passes_write _
  | showRegistration id =>
    refine Passes.bind_at (activeSettings_rekey spared) fun settings t _ => ?_
    cases Table.get? settings.registrations id with
    | none => exact passes_failWith _ t
    | some entry => exact passes_write _ t
  | resolve | forget => cases inspects

end Work

namespace Session

variable {k}

/-- The session after a crash, and the exit status. -/
def crashed (s : Session) (fault : Fault) : Session × Int :=
  match crashReport fault s.host with
  | (.ok file, host) =>
    ({ s with host }.reportError s!"Unexpected error. Debug log: {file.text}",
      ExitStatus.generalFailure.code)
  | (.error _, host) => ({ s with host }, ExitStatus.generalFailure.code)

theorem handle_of_crashes {fault : Fault} (crashes : fault.crashes = true) (s : Session) :
    s.handle fault = s.crashed fault := by
  have ran : (crashReport fault).run s.host = crashReport fault s.host := rfl
  cases fault with
  | failure | interrupted => cases crashes
  | _ =>
    simp only [handle, crashed, ran]
    rcases crashReport _ s.host with ⟨_ | _, host⟩ <;> rfl

/-- A command that crashes ends in the same way. -/
theorem ended_crashed_rekey (s : Session) (fault : Fault) (logged : Nat) :
    ((s.rekey k).crashed fault).1.ended logged ((s.rekey k).crashed fault).2 =
      (s.crashed fault).1.ended logged (s.crashed fault).2 := by
  obtain ⟨result, world⟩ := Action.crashReport_rekey (k := k) fault s.host
  have host : (s.rekey k).host = s.host.rekey k := rfl
  unfold crashed
  rw [host]
  revert result world
  rcases crashReport fault (s.host.rekey k) with ⟨_ | _, t⟩ <;>
    rcases crashReport fault s.host with ⟨_ | _, t'⟩ <;>
    intro result world <;> cases result <;>
    simp only [ended, reportError, rekey, show t.world = t'.world from world]

/-- What a command leaves does not tell of credentials, not even when it crashes. -/
theorem conclude_rekey (s : Session) (logged : Nat) (result : Except Ending Unit) :
    ((s.rekey k).conclude logged result).2 = (s.conclude logged result).2 := by
  cases result with
  | ok => rfl
  | error ending =>
    cases ending with
    | exit status => rfl
    | fault fault =>
      cases crashes : fault.crashes with
      | true =>
        simp only [conclude, handle_of_crashes crashes]
        exact ended_crashed_rekey s fault logged
      | false =>
        cases fault with
        | interrupted | failure => rfl
        | _ => cases crashes

end Session

/-! ## Commands -/

/-- An invocation that only inspects ends in the same way, if the settings file is spared. -/
theorem CommandLine.invoke_rekey {h : Host} {i : Invocation} (inspects : i.command.inspects = true)
    (spared : ∀ p h', Action.settingsFile i.settings h = (.ok (some p), h') → k.Spares h' p) :
    (invoke (h.rekey k) i).2 = (invoke h i).2 := by
  let s : Session := ⟨h, .settle i.preferences h.environment h.screen, "", ""⟩
  have same : ⟨h.rekey k, .settle i.preferences (h.rekey k).environment h.screen, "", ""⟩ =
      s.rekey k := by
    show Session.mk _ (.settle i.preferences (k.environment h.environment) h.screen) _ _ = _
    rw [k.settle_eq]
    rfl
  have ran := Work.command_rekey (s := s) inspects spared
  have screen : (h.rekey k).screen = h.screen := rfl
  show (Session.conclude ((Work.command i.settings i.command) ⟨h.rekey k, _, "", ""⟩).2 _
    ((Work.command i.settings i.command) ⟨h.rekey k, _, "", ""⟩).1).2 = _
  rw [screen, same, ran]
  exact Session.conclude_rekey _ _ _

end TokenBroker
