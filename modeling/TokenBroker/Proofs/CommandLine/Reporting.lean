import TokenBroker.CommandLine.Commands
import TokenBroker.Proofs.CommandLine.Inspecting
import TokenBroker.Proofs.FileTree.Entries
import TokenBroker.Proofs.Output.Markup

/-!
# How a fault is reported

A command whose work on the host ends with a fault reports it (`Ended.Reports`): it ends with the
exit status of the fault, has written nothing to standard output, and tells of the fault on standard
error, to quiet users too, in colour on lines that are folded at the columns of the screen; a crash
report that it leaves touches no store. `Work.reports_of_act` says so of any work on a host, and
`Work.reports_of_report` of a remark that cannot be shown.
-/

namespace TokenBroker

/-- A text is part of what a command has written to standard error. -/
def Ended.Tells (e : Ended) (text : String) : Prop :=
  ∃ before after, e.err = before ++ text ++ after

namespace Fault

/-- The exit status of a command that ends with a fault. A failure has its own, if its message can
be shown. -/
def status (p : Presentation) : Fault → Int
  | .failure f =>
    if (p.error f.message).isOk then f.exitCode else ExitStatus.generalFailure.code
  | .interrupted => ExitStatus.interrupted.code
  | _ => ExitStatus.generalFailure.code

/-- What is shown of a crash, if a report of it can be left on the host. The screen folds it, be it
within the path of the report. -/
def crashNotice? (p : Presentation) (h : Host) (fault : Fault) : Option String :=
  match (Session.crashReport fault h).1 with
  | .ok path => (p.error s!"Unexpected error. Debug log: {path.text}").toOption
  | .error _ => none

/-- What is shown of a fault. -/
def notice? (p : Presentation) (h : Host) (fault : Fault) : Option String :=
  match fault with
  | .failure f =>
    match p.error f.message with
    | .ok line => some line
    | .error e => crashNotice? p h (.markup e)
  | .interrupted => some "\nCancelled.\n"
  | fault => crashNotice? p h fault

end Fault

/-- A command that was at work on a host `h` has ended with a fault there, and left a host `h'`.
What it tells stands in its output as it is presented: folded, where the presentation folds. -/
structure Ended.Reports (p : Presentation) (h h' : Host) (fault : Fault) (e : Ended) : Prop where
  status : e.status = fault.status p
  out : e.out = ""
  kept : h.tree.SameEntries h'.tree
  told : ∀ text, fault.notice? p h = some text → e.Tells text

variable {α : Type}

/-! ## Crashes -/

namespace Session

/-- Making the program's directories leaves every file as it is. -/
theorem directory_sameEntries (purpose : Purpose) (h : Host) :
    h.tree.SameEntries (Action.directory purpose h).2.tree := by
  unfold Action.directory
  rw [get_bind_run, bind_run]
  have looked : Action.ofExcept (h.directory purpose) h = (h.directory purpose, h) := rfl
  rw [looked]
  cases h.directory purpose with
  | error fault => exact .refl _
  | ok p =>
    simp only []
    rw [bind_run]
    have made : (Action.makeDirectories p h).2.tree = (h.makeDirectories p).1 := rfl
    have kept := (h.makeDirectories_grown p).sameEntries
    rw [← made] at kept
    revert kept
    rcases Action.makeDirectories p h with ⟨_ | _, h'⟩ <;> exact id

/-- A crash report leaves all stores alone. -/
theorem crashReport_sameEntries (fault : Fault) (h : Host) :
    h.tree.SameEntries (crashReport fault h).2.tree := by
  unfold crashReport
  rw [bind_run]
  have first := directory_sameEntries .data h
  revert first
  rcases Action.directory .data h with ⟨_ | directory, h₁⟩
  · exact id
  intro first
  simp only []
  rw [bind_run]
  have second := (h₁.makeDirectories_grown (directory.child reportsName)).sameEntries
  have made : (Action.makeDirectories (directory.child reportsName) h₁).2.tree =
      (h₁.makeDirectories (directory.child reportsName)).1 := rfl
  rw [← made] at second
  revert second
  rcases Action.makeDirectories (directory.child reportsName) h₁ with ⟨_ | _, h₂⟩
  · exact first.trans
  intro second
  simp only []
  rw [get_bind_run, bind_run, Action.writeText_run]
  cases written : h₂.tree.write h₂.here _ _ with
  | error e => exact first.trans second
  | ok tree => exact (first.trans second).trans (FileTree.write_sameEntries written)

/-- A fault that crashes is told with the place of its report. -/
theorem reports_of_crash {s : Session} {fault : Fault} (silent : s.out = "")
    (crashes : fault.crashes = true) (logged : Nat) :
    Ended.Reports s.presentation s.host (s.conclude logged (.error (.fault fault))).1 fault
      (s.conclude logged (.error (.fault fault))).2 := by
  have kept := crashReport_sameEntries fault s.host
  have status : fault.status s.presentation = ExitStatus.generalFailure.code := by
    cases fault with
    | failure | interrupted => cases crashes
    | _ => rfl
  have notice : fault.notice? s.presentation s.host = fault.crashNotice? s.presentation s.host := by
    cases fault with
    | failure | interrupted => cases crashes
    | _ => rfl
  simp only [conclude, handle_of_crashes crashes, crashed]
  unfold Fault.crashNotice? at notice
  revert kept notice
  rcases crashReport fault s.host with ⟨e | file, h⟩
  · intro kept notice
    exact ⟨status.symm, silent, kept, fun text shown => by rw [notice] at shown; cases shown⟩
  · intro kept notice
    refine ⟨status.symm, silent, kept, fun text shown => ?_⟩
    simp only [notice] at shown
    refine ⟨s.err, "", ?_⟩
    simp only [ended, reportError, shown, Option.getD_some, String.append_empty]

/-- An interrupt is told as a cancelled command. -/
theorem reports_of_interrupt {s : Session} (silent : s.out = "") (logged : Nat) :
    Ended.Reports s.presentation s.host (s.conclude logged (.error (.fault .interrupted))).1
      .interrupted (s.conclude logged (.error (.fault .interrupted))).2 := by
  refine ⟨rfl, silent, .refl _, fun text shown => ?_⟩
  cases shown
  exact ⟨s.err, "", by simp [conclude, handle, ended]⟩

end Session

/-! ## Failures -/

namespace Work

/-- The one hint that a failure is reported with can be shown. -/
theorem exists_hint (p : Presentation) : ∃ hint,
    p.suggest "Complete the authorization flow for this registration, then retry." = .ok hint :=
  p.exists_suggest (by decide +kernel)

/-- A text that can be shown is rendered as it is shown. -/
theorem rendered_of_shown {text : Presentation → Except Markup.Error String} {s : Session}
    {line : String} (shown : text s.presentation = .ok line) : rendered text s = (.ok line, s) := by
  unfold rendered
  rw [get_bind_run]
  simp only [shown]
  rfl

/-- A text that can be shown goes to the output. -/
theorem write_of_shown {text : Presentation → Except Markup.Error String} {s : Session}
    {line : String} (shown : text s.presentation = .ok line) :
    write text s = (.ok (), { s with out := s.out ++ line }) := by
  unfold write
  rw [bind_run, rendered_of_shown shown]
  rfl

/-- A text that can be shown goes to the error stream. -/
theorem report_of_shown {text : Presentation → Except Markup.Error String} {s : Session}
    {line : String} (shown : text s.presentation = .ok line) :
    report text s = (.ok (), { s with err := s.err ++ line }) := by
  unfold report
  rw [bind_run, rendered_of_shown shown]
  rfl

/-- A text that cannot be shown is a fault of its markup. -/
theorem report_of_unshown {text : Presentation → Except Markup.Error String} {s : Session}
    {e : Markup.Error} (unshown : text s.presentation = .error e) :
    report text s = (.error (.fault (.markup e)), s) := by
  unfold report rendered
  rw [bind_run, get_bind_run]
  simp only [unshown]
  rfl

/-- A failure whose message can be shown ends the command with its own exit status. -/
theorem failWith_of_shown {f : Failure} {s : Session} {line : String}
    (shown : s.presentation.error f.message = .ok line) :
    ∃ hint, (failWith f : Work α) s = (.error (.exit f.exitCode),
      { s with err := s.err ++ line ++ hint }) := by
  unfold failWith
  rw [bind_run, report_of_shown shown]
  simp only []
  cases f.needsUser with
  | false => exact ⟨"", by rw [String.append_empty]; rfl⟩
  | true =>
    obtain ⟨hint, shown⟩ := exists_hint s.presentation
    refine ⟨hint, ?_⟩
    simp only [if_true]
    rw [bind_run, report_of_shown shown]
    rfl

/-- A failure whose message cannot be shown becomes a fault of the markup. -/
theorem failWith_of_unshown {f : Failure} {s : Session} {e : Markup.Error}
    (unshown : s.presentation.error f.message = .error e) :
    (failWith f : Work α) s = (.error (.fault (.markup e)), s) := by
  unfold failWith
  rw [bind_run, report_of_unshown unshown]

/-- An action that ends well leaves its host to the session. -/
theorem act_of_ok {a : Action α} {s : Session} {x : α} {h : Host} (ran : a s.host = (.ok x, h)) :
    act a s = (.ok x, { s with host := h }) := by
  unfold act
  rw [get_bind_run]
  have same : a.run s.host = (.ok x, h) := ran
  rw [same]
  rfl

/-- A failure of an action ends the command. -/
theorem act_of_failure {a : Action α} {s : Session} {f : Failure} {h : Host}
    (ran : a s.host = (.error (.failure f), h)) : act a s = failWith f { s with host := h } := by
  unfold act
  rw [get_bind_run]
  have same : a.run s.host = (.error (.failure f), h) := ran
  rw [same]
  rfl

/-- A fault of an action passes through the command. -/
theorem act_of_fault {a : Action α} {s : Session} {fault : Fault} {h : Host}
    (ran : a s.host = (.error fault, h)) (other : ∀ f, fault ≠ .failure f) :
    act a s = (.error (.fault fault), { s with host := h }) := by
  unfold act
  rw [get_bind_run]
  have same : a.run s.host = (.error fault, h) := ran
  rw [same]
  cases fault with
  | failure f => exact absurd rfl (other f)
  | _ => rfl

/-- What is left of a command whose work has ended in a session. -/
def concluded (logged : Nat) (ran : Except Ending Unit × Session) : Host × Ended :=
  ran.2.conclude logged ran.1

variable {a : Action α} {s : Session} {h : Host} {fault : Fault}

/-- A command that ends by a failure of its action reports it. -/
theorem reports_of_failWith {f : Failure} (silent : s.out = "")
    (ran : (act a : Work α) s = failWith f { s with host := h }) (logged : Nat)
    (rest : α → Work Unit) :
    Ended.Reports s.presentation h (concluded logged ((act a >>= rest) s)).1 (.failure f)
      (concluded logged ((act a >>= rest) s)).2 := by
  rw [bind_run, ran]
  cases shown : s.presentation.error f.message with
  | ok line =>
    obtain ⟨hint, failed⟩ := failWith_of_shown (α := α) (s := { s with host := h }) shown
    rw [failed]
    refine ⟨?_, silent, .refl _, fun text told => ?_⟩
    · simp only [Fault.status, shown, Except.isOk, Except.toBool, if_true]
      rfl
    · simp only [Fault.notice?, shown] at told
      cases told
      exact ⟨s.err, hint, rfl⟩
  | error e =>
    rw [failWith_of_unshown (s := { s with host := h }) shown]
    have crashes : (Fault.markup e).crashes = true := rfl
    obtain ⟨status, out, kept, told⟩ :=
      Session.reports_of_crash (s := { s with host := h }) silent crashes logged
    refine ⟨?_, out, kept, fun text notice => told text ?_⟩
    · simp only [Fault.status, shown, Except.isOk, Except.toBool, Bool.false_eq_true, if_false]
      exact status
    · simp only [Fault.notice?, shown] at notice
      exact notice

/-- A command that ends by a failure reports it. -/
theorem reports_of_failing {f : Failure} (silent : s.out = "") (logged : Nat) :
    Ended.Reports s.presentation s.host (concluded logged (failWith f s)).1 (.failure f)
      (concluded logged (failWith f s)).2 := by
  have ran : (act (Action.fail f) : Work Unit) s = failWith f s := act_of_failure rfl
  have reports := reports_of_failWith (a := Action.fail f) (h := s.host) silent ran logged pure
  rwa [bind_pure, ran] at reports

/-- A fault that ends the work on a host is reported, whatever was to come after. -/
theorem reports_of_act (silent : s.out = "") (ran : a s.host = (.error fault, h)) (logged : Nat)
    (rest : α → Work Unit) :
    Ended.Reports s.presentation h (concluded logged ((act a >>= rest) s)).1 fault
      (concluded logged ((act a >>= rest) s)).2 := by
  by_cases failure : ∃ f, fault = .failure f
  · obtain ⟨f, rfl⟩ := failure
    exact reports_of_failWith silent (act_of_failure ran) logged rest
  · have other : ∀ f, fault ≠ .failure f := fun f same => failure ⟨f, same⟩
    rw [bind_run, act_of_fault ran other]
    cases fault with
    | failure f => exact absurd rfl (other f)
    | interrupted => exact Session.reports_of_interrupt (s := { s with host := h }) silent logged
    | _ => exact Session.reports_of_crash (s := { s with host := h }) silent rfl logged

/-- A remark that cannot be shown crashes the command. -/
theorem reports_of_report {text : Presentation → Except Markup.Error String} {e : Markup.Error}
    {rest : Unit → Work Unit} (silent : s.out = "") (unshown : text s.presentation = .error e)
    (logged : Nat) :
    Ended.Reports s.presentation s.host (concluded logged ((report text >>= rest) s)).1 (.markup e)
      (concluded logged ((report text >>= rest) s)).2 := by
  rw [bind_run, report_of_unshown unshown]
  exact Session.reports_of_crash silent rfl logged

end Work

end TokenBroker
