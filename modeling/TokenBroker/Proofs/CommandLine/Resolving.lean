import TokenBroker.Proofs.CommandLine.Reporting
import TokenBroker.Proofs.Startup

/-!
# Resolving a client on the command line

What `resolve` writes and how it ends, for every host and every way of asking
(`CommandLine.resolve_reports_outcome`): an engine is prepared from the settings in force, a remark
is made, and the engine is asked. Each of these can end the command, and what the engine gives is
what is shown. In between stands that diagnostics are shown as marked-up text where colour is
allowed, so that a message which quotes a closing tag crashes the command and takes away its exit
status: `CommandLine.bracketed_id_crashes` is such a run.
-/

namespace TokenBroker

open TokenBroker.Action (prepare Ready)

variable {p : Presentation} {h h' : Host} {fault : Fault}

/-- A fault does not count as success, unless it is a failure that does. -/
theorem Fault.status_ne_success (nonzero : ∀ f, fault = .failure f →
    f.exitCode ≠ ExitStatus.success.code) :
    fault.status p ≠ ExitStatus.success.code := by
  have general : ExitStatus.generalFailure.code ≠ ExitStatus.success.code := by decide
  cases fault with
  | failure f =>
    simp only [status]
    split
    · exact nonzero f rfl
    · exact general
  | interrupted =>
    have interrupted : ExitStatus.interrupted.code ≠ ExitStatus.success.code := by decide
    exact interrupted
  | _ => exact general

/-- A command that reports a fault does not end with success. -/
theorem Ended.Reports.status_ne_success {e : Ended} (reports : e.Reports p h h' fault)
    (nonzero : ∀ f, fault = .failure f → f.exitCode ≠ ExitStatus.success.code) :
    e.status ≠ ExitStatus.success.code := by
  rw [reports.status]
  exact Fault.status_ne_success nonzero

namespace Failure

/-- No failure of starting has the exit code of success. -/
theorem OfStarting.exitCode_ne {f : Failure} (starting : f.OfStarting) :
    f.exitCode ≠ ExitStatus.success.code := by
  have cases := starting.exitCode_cases
  intro zero
  rw [zero] at cases
  revert cases
  decide

end Failure

namespace Engine

/-- No foreseen failure of a call has the exit code of success. -/
theorem Foreseen.exitCode_ne {e : Engine} {key : Key} {f : Failure}
    (foreseen : e.Foreseen key (.failure f)) :
    f.exitCode ≠ ExitStatus.success.code := by
  have cases := foreseen.exitCode_cases
  intro zero
  rw [zero] at cases
  revert cases
  decide

end Engine

namespace Action

variable {started : Started} {key : Key} {w : World} {o : Outcome}

/-- An action to resolve a client gives what the engine gives, and keeps the engine's store. -/
theorem resolve_run (resolved : h.world.resolve started.engine key = (w, some o)) :
    ∃ h', resolve started key h = (o, h') ∧
      ∀ l, h'.tree.entries l =
        if started.place = some l then w.shared.store.values else h.tree.entries l := by
  unfold resolve
  rw [get_bind_run]
  simp only [resolved]
  cases place : started.place with
  | none => exact ⟨_, rfl, fun l => rfl⟩
  | some l =>
    refine ⟨_, rfl, fun l' => ?_⟩
    by_cases same : l' = l
    · subst same
      rw [if_pos rfl]
      exact FileTree.entries_put_self h.tree l' _
    · rw [if_neg fun equal => same (Option.some.inj equal).symm]
      exact FileTree.entries_put_of_ne same h.tree _

end Action

/-- A command has asked an engine on a host `h`, which has left a host `h₂`, and it leaves a host
`h'`. -/
structure Ended.Answers (p : Presentation) (started : Started) (key : Key) (showToken : Bool)
    (h h₂ h' : Host) (w : World) (o : Outcome) (e : Ended) : Prop where
  /-- The engine, running alone, has come to an outcome. -/
  resolved : h.world.resolve started.engine key = (w, some o)
  ran : Action.resolve started key h = (o, h₂)
  /-- Its store is kept as the engine has left it, and all others as they were. -/
  entries : ∀ l, h'.tree.entries l = if started.place = some l then w.shared.store.values else
    h.tree.entries l
  shown : ∀ c, o = .ok c →
    e.status = ExitStatus.success.code ∧ e.out = p.response (c.describe showToken)
  reported : ∀ fault, o = .error fault → e.Reports p h₂ h' fault
  foreseen : ∀ f, o = .error (.failure f) → started.engine.Foreseen key (.failure f)

namespace Work

variable {given : Option String} {key : Key} {showToken : Bool} {s : Session} {started : Started}

/-- The remark that `resolve` makes before it asks the engine. -/
def remarkOf (key : Key) : String :=
  s!"Resolving '{key.registrationId}' for principal '{key.principalName}'"

/-- What `resolve` does with an engine. -/
def resolveWith (started : Started) (key : Key) (showToken : Bool) : Work Unit := do
  report (·.debug (remarkOf key))
  let client ← act (Action.resolve started key)
  showValue (client.describe showToken)

/-- Once the engine is ready, the command asks it for the client. -/
theorem resolve_of_prepared (ran : prepare given s.host = (.ok started, h)) :
    resolve given key showToken s = resolveWith started key showToken { s with host := h } := by
  obtain ⟨path, h₁, found, ran⟩ := Action.exists_of_bind ran
  obtain ⟨settings, h₂, loaded, ran⟩ := Action.exists_of_bind ran
  have active : activeSettings given s = (.ok settings, { s with host := h₂ }) := by
    apply act_of_ok
    rw [bind_run, found]
    exact loaded
  unfold resolve
  rw [bind_run, active]
  simp only []
  rw [bind_run, act_of_ok (s := { s with host := h₂ }) ran]
  rfl

/-- A fault on the way to the engine is reported. -/
theorem reports_of_unprepared (silent : s.out = "") (ran : prepare given s.host = (.error fault, h))
    (logged : Nat) :
    Ended.Reports s.presentation h (concluded logged (resolve given key showToken s)).1 fault
      (concluded logged (resolve given key showToken s)).2 := by
  have unloaded : (∃ h₁, (do Action.loadSettings (← Action.settingsFile given) : Action Settings)
      s.host =
        (.error fault, h₁) ∧ h₁ = h) ∨
      ∃ settings between, (do Action.loadSettings (← Action.settingsFile given) : Action Settings)
        s.host =
        (.ok settings, between) ∧ Action.start settings true between = (.error fault, h) := by
    rcases Action.cases_of_bind_error ran with ran | ⟨path, h₁, found, ran⟩
    · exact .inl ⟨h, by rw [bind_run, ran], rfl⟩
    rcases Action.cases_of_bind_error ran with ran | ⟨settings, h₂, loaded, ran⟩
    · exact .inl ⟨h, by rw [bind_run, found]; exact ran, rfl⟩
    · exact .inr ⟨settings, h₂, by rw [bind_run, found]; exact loaded, ran⟩
  unfold resolve
  rcases unloaded with ⟨_, failed, rfl⟩ | ⟨settings, between, loaded, failed⟩
  · exact reports_of_act silent failed logged _
  · rw [bind_run]
    have active : activeSettings given s = (.ok settings, { s with host := between }) :=
      act_of_ok loaded
    rw [active]
    exact reports_of_act (s := { s with host := between }) silent failed logged _

variable {w : World} {o : Outcome} {shown : String}

/-- The remark comes before the call. -/
theorem resolveWith_of_shown (made : s.presentation.debug (remarkOf key) = .ok shown) :
    resolveWith started key showToken s =
      (act (Action.resolve started key) >>= fun client => showValue (client.describe showToken))
        { s with err := s.err ++ shown } := by
  unfold resolveWith
  rw [bind_run, report_of_shown made]

/-- A client that the call returns is shown. -/
theorem resolveWith_of_ok {c : AuthorizedClient}
    (made : s.presentation.debug (remarkOf key) = .ok shown)
    (ran : Action.resolve started key s.host = (.ok c, h)) :
    resolveWith started key showToken s =
      (.ok (), { s with
        host := h
        err := s.err ++ shown
        out := s.out ++ s.presentation.response (c.describe showToken) }) := by
  rw [resolveWith_of_shown made, bind_run, act_of_ok (s := { s with err := s.err ++ shown }) ran]
  rfl

/-- Whatever the engine comes to is shown or reported. -/
theorem answers_of_ready (silent : s.out = "") (ready : Ready started s.host)
    (foreign : s.host.world.trouble.IsForeign)
    (made : s.presentation.debug (remarkOf key) = .ok shown) (logged : Nat) :
    ∃ w o h₂, (concluded logged (resolveWith started key showToken s)).2.Answers s.presentation
      started key
      showToken s.host h₂ (concluded logged (resolveWith started key showToken s)).1 w o := by
  obtain ⟨w, o, resolved, foreseen⟩ :=
    World.resolve_fails_as_foreseen foreign ready.idle ready.served ready.builtIn key
  obtain ⟨h₂, ran, entries⟩ := Action.resolve_run resolved
  refine ⟨w, o, h₂, ?_⟩
  cases o with
  | ok c =>
    rw [resolveWith_of_ok made ran]
    refine ⟨resolved, ran, entries, ?_, nofun, nofun⟩
    rintro _ ⟨⟩
    refine ⟨rfl, ?_⟩
    simp only [concluded, Session.conclude, Session.ended, silent, String.empty_append]
  | error fault =>
    rw [resolveWith_of_shown made]
    have reports := reports_of_act (s :=
      { s with err := s.err ++ shown }) silent ran logged fun client =>
      showValue (client.describe showToken)
    refine ⟨resolved, ran, fun l => (reports.kept l).trans (entries l), ?_, ?_, foreseen⟩
    · intro c same
      cases same
    · rintro _ ⟨⟩
      exact reports

end Work

namespace CommandLine

variable {words : List String} {i : Invocation} {id principal : String} {showToken : Bool}

/-- The session with which an invocation begins. -/
def opening (h : Host) (i : Invocation) : Session :=
  { host := h, presentation := .settle i.preferences h.environment h.screen }

/-- Words that make an invocation run its command. -/
theorem run_of_invocation (read : Wish.ofWords words = .ok (.run i)) :
    run h words = Work.concluded h.world.log.length
      (Work.command i.settings i.command (opening h i)) := by
  unfold run
  rw [read]
  rfl

/-- Words that ask for a client run the command that resolves it. -/
theorem run_eq (read : Wish.ofWords words = .ok (.run i))
    (command : i.command = .resolve id principal showToken) :
    run h words = Work.concluded h.world.log.length
      (Work.resolve i.settings ⟨id, principal⟩ showToken (opening h i)) := by
  rw [run_of_invocation read, command]
  rfl

/-- If no engine can be prepared, the fault is reported. -/
theorem reports_of_unprepared {fault : Fault} {h₁ : Host} (read : Wish.ofWords words = .ok (.run i))
    (command : i.command = .resolve id principal showToken)
    (failed : prepare i.settings h = (.error fault, h₁)) :
    (run h words).2.Reports (opening h i).presentation h₁ (run h words).1 fault := by
  rw [run_eq read command]
  exact Work.reports_of_unprepared (s := opening h i) rfl failed _

/-- If the remark before the resolution cannot be shown, that is reported. -/
theorem reports_of_unremarked {started : Started} {h₁ : Host} {e : Markup.Error}
    (read : Wish.ofWords words = .ok (.run i))
    (command : i.command = .resolve id principal showToken)
    (prepared : prepare i.settings h = (.ok started, h₁))
    (unshown : (opening h i).presentation.debug (Work.remarkOf ⟨id, principal⟩) = .error e) :
    (run h words).2.Reports (opening h i).presentation h₁ (run h words).1 (.markup e) := by
  rw [run_eq read command, Work.resolve_of_prepared (s := opening h i) prepared]
  exact Work.reports_of_report (s := { opening h i with host := h₁ }) rfl unshown _

/-- An engine that has been prepared is asked, if the remark before it can be shown. -/
theorem answers_of_prepared {started : Started} {h₁ : Host} {shown : String}
    (read : Wish.ofWords words = .ok (.run i))
    (command : i.command = .resolve id principal showToken) (foreign : h.world.trouble.IsForeign)
    (prepared : prepare i.settings h = (.ok started, h₁))
    (made : (opening h i).presentation.debug (Work.remarkOf ⟨id, principal⟩) = .ok shown) :
    ∃ w o h₂, (run h words).2.Answers (opening h i).presentation started ⟨id, principal⟩
      showToken h₁ h₂ (run h words).1 w o := by
  have kept := (Action.failsOnly_prepare i.settings h).trouble
  rw [prepared] at kept
  rw [run_eq read command, Work.resolve_of_prepared (s := opening h i) prepared]
  exact Work.answers_of_ready (s := { opening h i with host := h₁ }) rfl
    (Action.ready_of_prepare prepared) (by rw [kept]; exact foreign) made _

/-- A command that succeeds has prepared an engine, shown the remark and got a client: each other
way to end has an exit status of its own. -/
theorem resolved_of_success (read : Wish.ofWords words = .ok (.run i))
    (command : i.command = .resolve id principal showToken) (foreign : h.world.trouble.IsForeign)
    (succeeded : (run h words).2.status = ExitStatus.success.code) :
    ∃ started h₁ shown c h₂, prepare i.settings h = (.ok started, h₁) ∧
      (opening h i).presentation.debug (Work.remarkOf ⟨id, principal⟩) = .ok shown ∧
        Action.resolve started ⟨id, principal⟩ h₁ = (.ok c, h₂) := by
  rcases prepared : prepare i.settings h with ⟨fault | started, h₁⟩
  · refine absurd succeeded ((reports_of_unprepared read command prepared).status_ne_success ?_)
    rintro f rfl
    exact ((Action.failsOnly_prepare i.settings h).failure f h₁ prepared).exitCode_ne
  · cases remarked : (opening h i).presentation.debug (Work.remarkOf ⟨id, principal⟩) with
    | error e =>
      have reports := reports_of_unremarked read command prepared remarked
      refine absurd succeeded (reports.status_ne_success ?_)
      intro f same
      cases same
    | ok shown =>
      obtain ⟨w, o, h₂, answers⟩ := answers_of_prepared read command foreign prepared remarked
      cases o with
      | ok c => exact ⟨started, h₁, shown, c, h₂, rfl, rfl, answers.ran⟩
      | error fault =>
        refine absurd succeeded ((answers.reported fault rfl).status_ne_success ?_)
        rintro f rfl
        exact (answers.foreseen f rfl).exitCode_ne

/-- **The command reports the outcome of the engine.** Let an invocation ask to resolve a client,
with standard output no terminal, on any host whose store raises no failures of the broker's own.
Then data is shown as JSON if that is asked for, and else as plain lines, and

* if no engine can be prepared from the settings in force, the fault is reported;
* if the remark about the id and the principal is to be shown and cannot be, that is reported as a
  crash;
* else the engine is asked, as one that runs alone, and comes to an outcome. The entries of its
  store are afterwards those that the engine has left, and those of other stores are left alone. A
  client is shown, as its summary and nothing else; a fault is reported, and a failure of the
  broker's own among them is a foreseen one, with the exit status of its kind.

So the command succeeds exactly if all of these do. A failure is reported with its own exit status
if its message can be shown; any message can without colour, and any plain text always. -/
theorem resolve_reports_outcome (read : Wish.ofWords words = .ok (.run i))
    (command : i.command = .resolve id principal showToken) (piped : h.screen.output = false)
    (foreign : h.world.trouble.IsForeign) :
    let p := Presentation.settle i.preferences h.environment h.screen
    let remark := p.debug (Work.remarkOf ⟨id, principal⟩)
    let ran := run h words
    p.format = i.preferences.format.getD .plain ∧
      (∀ s : String, p.color = false ∨ Markup.isPlainText s.toList = true →
        (∃ shown, p.error s = .ok shown) ∧ ∃ shown, p.debug s = .ok shown) ∧
      (∀ fault h₁, prepare i.settings h = (.error fault, h₁) → ran.2.Reports p h₁ ran.1 fault) ∧
      (∀ started h₁ e, prepare i.settings h = (.ok started, h₁) → remark = .error e →
        ran.2.Reports p h₁ ran.1 (.markup e)) ∧
      (∀ started h₁ shown, prepare i.settings h = (.ok started, h₁) → remark = .ok shown →
        ∃ w o h₂, ran.2.Answers p started ⟨id, principal⟩ showToken h₁ h₂ ran.1 w o) ∧
      (ran.2.status = ExitStatus.success.code ↔ ∃ started h₁ shown c h₂,
        prepare i.settings h = (.ok started, h₁) ∧ remark = .ok shown ∧
          Action.resolve started ⟨id, principal⟩ h₁ = (.ok c, h₂)) := by
  intro p remark ran
  refine ⟨?_, ?_, ?_, ?_, ?_, resolved_of_success read command foreign, ?_⟩
  · simp only [p, Presentation.settle, piped, Bool.false_and, Bool.false_eq_true, if_false]
  · rintro s (colorless | plain)
    · exact Presentation.exists_of_colorless colorless s
    · exact ⟨p.exists_error plain, p.exists_debug plain⟩
  · exact fun fault h₁ failed => reports_of_unprepared read command failed
  · exact fun started h₁ e prepared unshown => reports_of_unremarked read command prepared unshown
  · exact fun started h₁ shown prepared made =>
      answers_of_prepared read command foreign prepared made
  · -- the engine answers once, so the answer that is shown is that client
    rintro ⟨started, h₁, shown, c, h₂, prepared, remarked, action⟩
    obtain ⟨w, o, h₃, answers⟩ := answers_of_prepared read command foreign prepared remarked
    have same := answers.ran
    rw [action] at same
    cases same
    exact (answers.shown c rfl).1

/-! ## Runs -/

namespace Asking

def settings : String :=
  "\x7b\"registrations\": \x7b\"svc\": \x7b\"client_id\": \"app\", " ++
    "\"client_secret_source\": \"env:S\", \"token_uri\": \"/token\"\x7d\x7d\x7d"

def answer : HttpAnswer where
  status := 200
  headers := []
  body := Utf8.encode "\x7b\"access_token\": \"tok-123456\", \"expires_in\": 300\x7d"

def world : World where
  clock := default
  transport _ := { reply := .answer answer }
  shared := { store := .disk [] }

/-- A host with one registration, on which nothing refuses colour. -/
def host : Host where
  tree :=
    { nodes := [(["work"], .directory []),
        (["work", projectFileName], .file (Utf8.encode settings) 0o600)] }
  here := ["work"]
  environment := [("S", "secret"), ("HOME", "/home")]
  world := world

def wordsFor (id : String) : List String := ["resolve", id]

def invocation (id : String) : Invocation := { command := .resolve id Principal.systemName false }

theorem foreign : host.world.trouble.IsForeign := fun _ => ⟨nofun, nofun, nofun⟩

end Asking

open Asking in
/-- A host whose server answers shows the client and ends with success. -/
theorem answered_client_shown :
    Wish.ofWords (wordsFor "svc") = .ok (.run (invocation "svc")) ∧ host.screen.output = false ∧
      host.world.trouble.IsForeign ∧ (run host (wordsFor "svc")).2.status =
        ExitStatus.success.code ∧
      ∃ c : AuthorizedClient, (run host (wordsFor "svc")).2.out =
        String.join ((Presentation.plainLines (c.describe false)).map Presentation.line) := by
  have read : Wish.ofWords (wordsFor "svc") = .ok (.run (invocation "svc")) := by decide +kernel
  have succeeded : (run host (wordsFor "svc")).2.status = ExitStatus.success.code := by
    decide +kernel
  obtain ⟨-, -, -, -, asked, success⟩ := resolve_reports_outcome read rfl rfl foreign
  obtain ⟨started, h₁, shown, c, h₂, prepared, remarked, action⟩ := success.1 succeeded
  obtain ⟨w, o, h₃, answers⟩ := asked started h₁ shown prepared remarked
  have same := answers.ran
  rw [action] at same
  cases same
  exact ⟨read, rfl, foreign, succeeded, c, (answers.shown c rfl).2⟩

open Asking in
/-- The engine does not find a registration, and the command ends as if something unexpected had
happened. -/
theorem bracketed_id_crashes :
    Wish.ofWords (wordsFor "[/x]") = .ok (.run (invocation "[/x]")) ∧ host.screen.output = false ∧
      host.world.trouble.IsForeign ∧
      (∃ started h₁ w, prepare none host = (.ok started, h₁) ∧
        h₁.world.resolve started.engine ⟨"[/x]", Principal.systemName⟩ =
          (w, some (.error (.failure (.unknownRegistration "[/x]"))))) ∧
      (run host (wordsFor "[/x]")).2.status = ExitStatus.generalFailure.code ∧
      (Failure.unknownRegistration "[/x]").exitCode = ExitStatus.notFound.code := by
  have read : Wish.ofWords (wordsFor "[/x]") = .ok (.run (invocation "[/x]")) := by decide +kernel
  have unlisted : (prepare none host).1.toOption.map
      (fun x => (x.engine.source.find? "[/x]").isNone) = some true := by decide +kernel
  rcases prepared : prepare none host with ⟨fault | started, h₁⟩
  · rw [prepared] at unlisted
    cases unlisted
  · rw [prepared] at unlisted
    have unknown : started.engine.source.find? "[/x]" = none := by
      simpa [Except.toOption] using unlisted
    have resolved : h₁.world.resolve started.engine ⟨"[/x]", Principal.systemName⟩ =
        (h₁.world, some (.error (.failure (.unknownRegistration "[/x]")))) :=
        World.resolve_unknown h₁.world unknown
    have silent : (opening host (invocation "[/x]")).presentation.debug
        (Work.remarkOf ⟨"[/x]", Principal.systemName⟩) = .ok "" := rfl
    obtain ⟨w, o, h₂, answers⟩ := answers_of_prepared read rfl foreign prepared silent
    have same := answers.resolved
    rw [resolved] at same
    cases same
    have reports := answers.reported _ rfl
    have quoted : (Failure.unknownRegistration "[/x]").message.toList =
        "Client registration '".toList ++ (Markup.closing ['x'] ++ "' not found".toList) := by
        decide
    have colored : (opening host (invocation "[/x]")).presentation.color = true := rfl
    obtain ⟨e, unshown⟩ := Presentation.error_of_closing colored (by decide) (by simp)
      (by simp) quoted
    refine ⟨read, rfl, foreign, ⟨started, h₁, _, rfl, resolved⟩, ?_, rfl⟩
    rw [reports.status]
    simp only [Fault.status, unshown, Except.isOk, Except.toBool, Bool.false_eq_true, if_false]

end CommandLine

end TokenBroker
