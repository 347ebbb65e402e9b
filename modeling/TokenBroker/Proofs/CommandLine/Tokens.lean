import TokenBroker.Proofs.CommandLine.Resolving
import TokenBroker.Proofs.Endpoint.Classification
import TokenBroker.Proofs.Startup.Tokens

/-!
# Tokens on the command line

`resolve` shows no token unless it is asked to. From hosts that differ in tokens at most, a session
of it writes the same to standard output and standard error, shows the same of the log and ends with
the same status, whatever way it ends (`CommandLine.resolve_shows_no_token`). What it leaves are
again hosts that differ in tokens at most, so no number of such runs can tell them apart.
-/

namespace TokenBroker

/-- Two sessions that differ in tokens of their hosts at most. -/
def Session.SameButTokens (s s' : Session) : Prop :=
  ∃ host, s.host.SameButTokens host ∧ s' = { s with host }

/-! ## Work -/

namespace Work

variable {α β : Type} {R : α → β → Prop}

/-- From sessions that differ in tokens at most, work ends alike and leaves such sessions. -/
abbrev BlindToTokens (a : Work α) : Prop := Lockstep Session.SameButTokens Eq a a

/-- What is written depends on no token of the session. -/
theorem blind_rendered (text : Presentation → Except Markup.Error String) :
    BlindToTokens (rendered text) := by
  refine .get_bind fun s s' alike => ?_
  obtain ⟨host, hosts, rfl⟩ := alike
  cases text s.presentation with
  | ok shown => exact Lockstep.pure rfl ⟨host, hosts, rfl⟩
  | error e => exact Lockstep.throw _ ⟨host, hosts, rfl⟩

theorem blind_write (text : Presentation → Except Markup.Error String) :
    BlindToTokens (write text) := by
  refine (blind_rendered text).bind_eq fun shown => .modifyState fun s s' alike => ?_
  obtain ⟨host, hosts, rfl⟩ := alike
  exact ⟨host, hosts, rfl⟩

theorem blind_report (text : Presentation → Except Markup.Error String) :
    BlindToTokens (report text) := by
  refine (blind_rendered text).bind_eq fun shown => .modifyState fun s s' alike => ?_
  obtain ⟨host, hosts, rfl⟩ := alike
  exact ⟨host, hosts, rfl⟩

/-- A failure ends both commands in the same way. -/
theorem lockstep_failWith (f : Failure) :
    Lockstep Session.SameButTokens R (failWith f : Work α) (failWith f : Work β) :=
  (blind_report _).bind_eq fun _ => .ite ((blind_report _).bind_eq fun _ => .throw _) (.throw _)

/-- Work on hosts in lockstep is in lockstep. -/
theorem lockstep_act {a : Action α} {a' : Action β} (h : Lockstep Host.SameButTokens R a a') :
    Lockstep Session.SameButTokens R (act a) (act a') := by
  refine .get_bind fun s s' alike => ?_
  obtain ⟨host, hosts, rfl⟩ := alike
  have left : s.SameButTokens { s with host } := ⟨host, hosts, rfl⟩
  have ran : a.run s.host = a s.host := rfl
  have ran' : a'.run host = a' host := rfl
  simp only [ran, ran']
  rcases (h hosts).cases with ⟨fault, t, t', ended, ended', hosts⟩ | ⟨r, r', t, t', ended, ended',
    related, hosts⟩ <;> rw [ended, ended']
  · refine Lockstep.bind_eq (.setState ⟨t', hosts, rfl⟩) (fun _ => ?_) left
    cases fault with
    | failure f => exact lockstep_failWith f
    | _ => exact .throw _
  · exact Lockstep.bind_eq (.setState ⟨t', hosts, rfl⟩) (fun _ => .pure related) left

theorem blind_activeSettings (given : Option String) : BlindToTokens (activeSettings given) :=
  lockstep_act ((Action.blind_settingsFile given).bind_eq Action.blind_loadSettings)

/-- The summary of a client is the same for every token of one mask. -/
theorem blind_resolve (given : Option String) (key : Key) :
    BlindToTokens (resolve given key false) := by
  refine (blind_activeSettings given).bind_eq fun settings => ?_
  refine (lockstep_act (Action.blind_start settings true)).bind_eq fun started => ?_
  refine (blind_report _).bind_eq fun _ => ?_
  refine (lockstep_act (Action.lockstep_resolve started key)).bind fun client client' clients => ?_
  rw [clients.describe]
  exact blind_write _

end Work

/-! ## Sessions -/

namespace Session

variable {s s' : Session}

theorem blind_crashReport (fault : Fault) : Action.BlindToTokens (crashReport fault) := by
  refine (Action.blind_directory .data).bind_eq fun reports => ?_
  refine (Action.blind_makeDirectories _).bind_eq fun _ => .get_bind fun h h' alike => ?_
  rw [alike.world.clock]
  exact (Action.blind_writeText _ _).bind_eq (fun _ => .pure rfl) alike

/-- What a command leaves behind is the same for both sessions. -/
theorem SameButTokens.ended (alike : s.SameButTokens s') (logged : Nat) (status : Int) :
    s'.ended logged status = s.ended logged status := by
  obtain ⟨host, hosts, rfl⟩ := alike
  simp only [Session.ended, hosts.world.log]

/-- A fault that is left to others is handled alike, also when a crash report is left. -/
theorem SameButTokens.handle (alike : s.SameButTokens s') (fault : Fault) :
    (s.handle fault).1.SameButTokens (s'.handle fault).1 ∧
    (s'.handle fault).2 = (s.handle fault).2 := by
  cases crashes : fault.crashes with
  | false =>
    obtain ⟨host, hosts, rfl⟩ := alike
    cases fault with
    | failure | interrupted => exact ⟨⟨host, hosts, rfl⟩, rfl⟩
    | _ => cases crashes
  | true =>
    obtain ⟨host, hosts, rfl⟩ := alike
    rw [handle_of_crashes crashes, handle_of_crashes crashes]
    unfold crashed
    rcases (blind_crashReport fault hosts).cases with
      ⟨_, t, t', ended, ended', hosts⟩ | ⟨file, _, t, t', ended, ended', rfl, hosts⟩
    · simp only [ended, ended']
      exact ⟨⟨t', hosts, rfl⟩, trivial⟩
    · simp only [ended, ended']
      exact ⟨⟨t', hosts, rfl⟩, trivial⟩

/-- Sessions that differ in tokens at most are concluded alike. -/
theorem SameButTokens.conclude (alike : s.SameButTokens s') (logged : Nat)
    (result : Except Ending Unit) :
    (s.conclude logged result).1.SameButTokens (s'.conclude logged result).1 ∧
      (s'.conclude logged result).2 = (s.conclude logged result).2 := by
  have left {t t' : Session} (alike : t.SameButTokens t') (status : Int) :
      t.host.SameButTokens t'.host ∧ t'.ended logged status = t.ended logged status := by
    refine ⟨?_, alike.ended logged status⟩
    obtain ⟨host, hosts, rfl⟩ := alike
    exact hosts
  cases result with
  | ok => exact left alike _
  | error ending =>
    cases ending with
    | exit status => exact left alike status
    | fault fault =>
      obtain ⟨handled, status⟩ := alike.handle fault
      simp only [Session.conclude, status]
      exact left handled _

end Session

/-! ## Commands -/

namespace CommandLine

variable {h h' : Host} {words : List String} {i : Invocation} {id principal : String}

/-- **No token is shown unless it is asked for.** Let two hosts differ in tokens at most: their
stores hold clients under the same keys, and their transports give the same replies, but for

* the access tokens, which in each pair are both longer than eight characters with the same first
  four, or both have from one to eight characters, and
* the refresh tokens, of which a pair may be any two texts.

Then `resolve` without `--show-token` writes the same to standard output and to standard error,
shows the same entries of the log and ends with the same status, for any settings, store, clock and
flags, whether it succeeds or fails. The hosts that it leaves differ in tokens at most. -/
theorem resolve_shows_no_token (alike : h.SameButTokens h')
    (read : Wish.ofWords words = .ok (.run i)) (command : i.command = .resolve id principal false) :
    (run h' words).2 = (run h words).2 ∧ (run h words).1.SameButTokens (run h' words).1 := by
  rw [run_eq read command, run_eq read command]
  have opened : (opening h i).SameButTokens (opening h' i) := by
    refine ⟨h', alike, ?_⟩
    simp only [opening, alike.environment, alike.screen]
  unfold Work.concluded
  rw [alike.world.log]
  rcases (Work.blind_resolve i.settings ⟨id, principal⟩ opened).cases with
    ⟨_, s, s', ended, ended', sessions⟩ | ⟨_, _, s, s', ended, ended', -, sessions⟩ <;>
      rw [ended, ended']
  · exact (sessions.conclude h.world.log.length _).symm
  · exact (sessions.conclude h.world.log.length _).symm

namespace Masked

/-- The members of an answer that gives a refresh token as well. -/
def members (access refresh : String) : List (String × Json) :=
  [("access_token", .str access), ("refresh_token", .str refresh)]

def answer (access refresh : String) : HttpAnswer where
  body := Utf8.encode ((Json.obj (members access refresh)).render .compact)

def world (access refresh : String) : World :=
  { Asking.world with transport _ := { reply := .answer (answer access refresh) } }

/-- A host whose token endpoint always gives the same tokens. -/
def host (access refresh : String) : Host := { Asking.host with world := world access refresh }

def wordsFor (showToken : Bool) : List String :=
  ["--verbose", "resolve", "svc"] ++ if showToken then ["--show-token"] else []

def invocation : Invocation where
  preferences := { verbose := true }
  command := .resolve "svc" Principal.systemName false

/-- The body of the server's answer reads as its members. -/
theorem body_answer {access refresh : String}
    (chars : Json.charsOfBytes? (answer access refresh).body = some
      ((Json.obj (members access refresh)).render .compact)) :
    Json.ofBytes? (answer access refresh).body = some (.obj (members access refresh)) :=
  Json.ofBytes?_of_render ⟨by simp [members], trivial, trivial, trivial⟩ rfl chars

/-- Both access tokens begin with the same four characters. -/
theorem answers_alike : (answer "tok-123456" "r-1").SameButTokens
    (answer "tok-98765432" "r-22") := by
  refine ⟨rfl, rfl, _, _, body_answer (by decide +kernel), body_answer (by decide +kernel), ?_⟩
  exact .cons (.access (.long (by decide) (by decide) (by decide))) (.cons (.refresh _ _) .nil)

theorem hosts_alike : (host "tok-123456" "r-1").SameButTokens (host "tok-98765432" "r-22") := by
  have delivers (n : Nat) : ((world "tok-123456" "r-1").transport n).SameButTokens
      ((world "tok-98765432" "r-22").transport n) := ⟨.answer answers_alike, rfl⟩
  have shares : Engine.Shared.SameButTokens Asking.world.shared Asking.world.shared :=
    ⟨.refl _, rfl, .nil⟩
  exact ⟨Asking.host.tree, world "tok-98765432" "r-22", .refl _,
    ⟨_, _, [], delivers, shares, rfl, rfl⟩, rfl⟩

end Masked

open Masked in
/-- Two access tokens that differ are shown alike, when they arrive and when they are loaded, unless
they are asked for. -/
theorem arriving_and_stored_token_masked :
    (host "tok-123456" "r-1").SameButTokens (host "tok-98765432" "r-22") ∧
      Wish.ofWords (wordsFor false) = .ok (.run invocation) ∧
      (run (host "tok-123456" "r-1") (wordsFor false)).2.status = ExitStatus.success.code ∧
      (run (host "tok-98765432" "r-22") (wordsFor true)).2.out ≠
        (run (host "tok-123456" "r-1") (wordsFor true)).2.out ∧
      (run (host "tok-98765432" "r-22") (wordsFor false)).2 =
        (run (host "tok-123456" "r-1") (wordsFor false)).2 ∧
      (run (run (host "tok-98765432" "r-22") (wordsFor false)).1 (wordsFor false)).2 =
        (run (run (host "tok-123456" "r-1") (wordsFor false)).1 (wordsFor false)).2 := by
  have read : Wish.ofWords (wordsFor false) = .ok (.run invocation) := by decide +kernel
  obtain ⟨arriving, left⟩ := resolve_shows_no_token hosts_alike read rfl
  exact ⟨hosts_alike, read,
    by decide +kernel, by decide +kernel, arriving, (resolve_shows_no_token left read rfl).1⟩

end CommandLine

end TokenBroker
