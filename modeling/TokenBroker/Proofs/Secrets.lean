import TokenBroker.Proofs.Assembly.Secrets
import TokenBroker.Proofs.CommandLine.Inspecting
import TokenBroker.Proofs.Interleaving.Secrets
import TokenBroker.Proofs.Service.Secrets
import TokenBroker.Proofs.Settings.Configuring

/-!
# Where secrets go

The secret of a registration leaves the program in one way: as the credential of a request to the
token endpoint of that registration. Two installations that differ in the values of secrets are told
apart by nothing else: not by the build of their engines (`Assembly.builtAlike_of_twins`), by no
operations (`Service.seenAlike_of_twins`), by no interleaving of calls
(`Engine.Interleaving.seenAlike_of_twins`) and not by the commands that inspect registrations
(`CommandLine.run_rekey`). `secrets_leave_as_credentials_only` is all of it.
-/

namespace TokenBroker

/-! ## What is shown -/

/-- What is shown of an outcome: its fault, or its client in summary. -/
def Outcome.shown (showToken : Bool) (o : Outcome) : Except Fault Json :=
  o.map (AuthorizedClient.describe · showToken)

/-- What is shown of an answer. -/
def Answer.shown (showToken : Bool) : Answer → Option (Except Fault Json)
  | .outcome o => o.map (Outcome.shown showToken)
  | .written result => some (result.map fun _ => .null)
  | .done => none

/-- What is shown of a call that has ended. -/
def Engine.Call.shown (showToken : Bool) (c : Call) : Option (Except Fault Json) :=
  c.phase.outcome?.map (Outcome.shown showToken)

variable {e e' : Engine}

theorem Outcome.shown_twins {o o' : Outcome} (h : Outcome.Twins e e' o o') (showToken : Bool) :
    Outcome.shown showToken o' = Outcome.shown showToken o := by
  cases h with
  | error fault => rfl
  | ok clients => exact congrArg Except.ok (clients.describe showToken)

theorem Answer.shown_twins {x x' : Answer} (h : Answer.Twins e e' x x') (showToken : Bool) :
    x'.shown showToken = x.shown showToken := by
  cases h with
  | outcome same =>
    cases same with
    | none => rfl
    | some same => exact congrArg some (Outcome.shown_twins same showToken)
  | written | done => rfl

theorem Engine.Call.shown_twins {c c' : Call} (h : Call.Twins e e' c c') (showToken : Bool) :
    c'.shown showToken = c.shown showToken := by
  obtain ⟨-, phases⟩ := h
  unfold shown
  revert phases
  generalize c.phase = p, c'.phase = p'
  intro phases
  cases phases with
  | finished same => exact congrArg some (Outcome.shown_twins same showToken)
  | _ => rfl

/-! ## What is seen -/

/-- Two builds log the same, and are refused with the same failure or give engines that differ in
secrets at most, with the same store. -/
def Assembly.BuiltAlike (a a' : Assembly) : Prop :=
  a'.build.1 = a.build.1 ∧
    ((∃ fault, a.build.2 = .error fault ∧ a'.build.2 = .error fault) ∨
      ∃ made made', a.build.2 = .ok made ∧ a'.build.2 = .ok made' ∧
        made.engine.Twins made'.engine ∧ made'.store = made.store)

/-- A service on a store on disk with the given entries, before anything has been sent. -/
def Service.opened (e : Engine) (w : World) (values : Table Key Json) : Service :=
  ⟨e, { w with shared := { store := .disk values }, sent := [] }⟩

/-- Two services after operations, and the answers that they have given. All that can be seen is the
same, but for the credentials in the requests. -/
structure Service.SeenAlike (e e' : Engine) (x x' : Service × List Answer) : Prop where
  store : x'.1.world.shared.store = x.1.world.shared.store
  answers : ∀ showToken, x'.2.map (Answer.shown showToken) = x.2.map (Answer.shown showToken)
  log : x'.1.world.log = x.1.world.log
  clock : x'.1.world.clock = x.1.world.clock
  asked : x'.1.world.asked = x.1.world.asked
  sent : List.Forall₂ (HttpRequest.SameButCredential e e') x.1.world.sent x'.1.world.sent

namespace Engine.Interleaving

/-- An interleaving on a store on disk with the given entries. -/
def opened (e : Engine) (clock : DateTime) (values : Table Key Json) (event : Nat → Event) :
    Interleaving :=
  ⟨e, clock, .disk values, event⟩

/-- Two interleavings of which all that can be seen is the same after `n` events, but for the
credentials in the requests. -/
structure SeenAlike (r r' : Interleaving) (n : Nat) : Prop where
  store : (r'.scene n).shared.store = (r.scene n).shared.store
  calls : ∀ showToken,
    (r'.scene n).calls.map (Call.shown showToken) = (r.scene n).calls.map (Call.shown showToken)
  log : (r'.observed n).log = (r.observed n).log
  readings : (r'.observed n).readings = (r.observed n).readings
  asked : (r'.observed n).asked = (r.observed n).asked
  sent : List.Forall₂ (HttpRequest.SameButCredential r.engine r'.engine)
    (r.observed n).sent (r'.observed n).sent

end Engine.Interleaving

/-! ## The parts -/

/-- A build does not tell apart assemblies that differ in the values of secrets. -/
theorem Assembly.builtAlike_of_twins {a a' : Assembly} (assemblies : a.Twins a') :
    a.BuiltAlike a' := by
  obtain ⟨log, ended⟩ := Assembly.build_twins assemblies
  refine ⟨log, ?_⟩
  rcases ended with failed | ⟨made, made', built, built', engines, -, store⟩
  · exact .inl failed
  · exact .inr ⟨made, made', built, built', engines, store⟩

/-- No operations tell twin engines apart. -/
theorem Service.seenAlike_of_twins (engines : e.Twins e') (w : World) (values : Table Key Json)
    {ops : List Operation} (keep : ∀ op ∈ ops, op.isRebuild = false) :
    SeenAlike e e' ((opened e w values).performAll ops) ((opened e' w values).performAll ops) := by
  have twins : Service.Twins e e' (opened e w values) (opened e' w values) :=
    ⟨rfl, rfl, _, _, ⟨rfl, rfl, rfl, .nil⟩, .nil, rfl⟩
  obtain ⟨⟨-, -, shared, sent, shares, sends, world⟩, answers⟩ :=
    Service.performAll_twins engines twins keep
  constructor
  case answers =>
    exact fun showToken => answers.map_eq fun same => Answer.shown_twins same showToken
  all_goals rw [world]
  case store => exact shares.store
  case sent => exact sends

/-- No calls side by side tell twin engines apart. -/
theorem Engine.Interleaving.seenAlike_of_twins (engines : e.Twins e') (clock : DateTime)
    (values : Table Key Json) (event : Nat → Event) (n : Nat) :
    SeenAlike (opened e clock values event) (opened e' clock values event) n := by
  have scenes := Engine.scene_twins engines clock values event n
  have seen := Engine.observed_twins engines clock values event n
  exact
    { store := scenes.shared.store
      calls := fun showToken => scenes.calls.map_eq fun same => Call.shown_twins same showToken
      log := seen.log
      readings := seen.readings
      asked := seen.asked
      sent := seen.sent }

/-- The commands that inspect registrations do not depend on the files and the variables that hold
secrets. -/
theorem CommandLine.run_rekey (k : Rekeying) (h : Host) {words : List String} {i : Invocation}
    (read : Wish.ofWords words = .ok (.run i)) (inspects : i.command.inspects = true)
    (spared : ∀ p h', Action.settingsFile i.settings h = (.ok (some p), h') → k.Spares h' p) :
    (CommandLine.run (h.rekey k) words).2 = (CommandLine.run h words).2 := by
  unfold CommandLine.run
  rw [read]
  exact CommandLine.invoke_rekey k inspects spared

/-! ## The result -/

/-- **Secrets leave as credentials only.** Let registrations differ in the values of secrets at
most. Then an engine is refused with the same failure, or built with the same store and the same
log. Two such engines on stores on disk with the same entries are told apart by no operations, and
by no calls side by side: the entries, the faults, the summaries of clients, the log, the readings
of the clock and the calls to plug-ins are the same, and each request is the same as its counterpart
but for the `Authorization` header or the field `client_secret`, whichever carries the secret of its
registration, if any does. And the commands that inspect registrations write the same and end alike
whatever the files and variables contain that the settings can name as sources of secrets, as long
as these are not the settings file itself or variables of the program's own. -/
theorem secrets_leave_as_credentials_only :
    (∀ a a' : Assembly, a.Twins a' → a.BuiltAlike a') ∧
      (∀ e e' : Engine, e.Twins e' → ∀ (w : World) (values : Table Key Json) (ops : List Operation),
        (∀ op ∈ ops, op.isRebuild = false) →
        Service.SeenAlike e e' ((Service.opened e w values).performAll ops)
          ((Service.opened e' w values).performAll ops)) ∧
      (∀ e e' : Engine, e.Twins e' →
        ∀ (clock : DateTime) (values : Table Key Json) (event : Nat → Engine.Event) (n : Nat),
        Engine.Interleaving.SeenAlike (.opened e clock values event)
          (.opened e' clock values event) n) ∧
      ∀ (k : Rekeying) (h : Host) (words : List String) (i : Invocation),
        Wish.ofWords words = .ok (.run i) → i.command.inspects = true →
        (∀ p h', Action.settingsFile i.settings h = (.ok (some p), h') → k.Spares h' p) →
        (CommandLine.run (h.rekey k) words).2 = (CommandLine.run h words).2 :=
  ⟨fun _ _ assemblies => Assembly.builtAlike_of_twins assemblies,
    fun _ _ engines w values _ keep => Service.seenAlike_of_twins engines w values keep,
    fun _ _ engines clock values event n =>
      Engine.Interleaving.seenAlike_of_twins engines clock values event n,
    fun k h _ _ read inspects spared => CommandLine.run_rekey k h read inspects spared⟩

namespace Rotated

/-- The registration that the settings of the host give, with its secret. -/
def registration (secret : String) : ClientRegistration :=
  { registrationId := "svc-a", clientId := "svc-client", clientSecret := some secret,
    grantType := .clientCredentials, tokenUri := "https://auth/token" }

def engine (secret : String) : Engine := ⟨.unlisted [registration secret], .builtIn {}, {}⟩

theorem engines : (engine "old").Twins (engine "new") where
  registrations :=
    RegistrationSource.Twins.find? (.unlisted (.cons ⟨rfl, by decide⟩ .nil))
  clients := rfl
  policy := rfl

def answer : HttpAnswer where
  status := 200
  headers := []
  body := Utf8.encode "\x7b\"access_token\": \"tok-123456\"\x7d"

/-- The authorization server gives a token. -/
def world : World where
  clock := default
  transport _ := { reply := .answer answer }
  shared := { store := .disk [] }

def run (secret : String) : Service × List Answer :=
  (Service.opened (engine secret) world []).performAll [.resolve "svc-a" .nobody]

/-- A host whose settings name the variable that holds the secret. -/
def host (secret : String) : Host :=
  OneSecret.host "env:APP_SECRET" [("APP_SECRET", secret), ("HOME", "/home/app")]

/-- The variable that holds the secret gets another value. -/
def rekeying : Rekeying where
  content _ content := content
  environment env := env.put "APP_SECRET" "new"
  kept env name own := by
    refine Table.get?_put_of_ne ?_ env "new"
    rintro rfl
    revert own
    decide

def words : List String := ["--config", "/a.json", "registrations", "list"]

end Rotated

open Rotated in
/-- A secret is rotated by its variable. The settings give the one registration or the other, a
client is acquired and stored for either, and the requests differ. The rest is the same, also the
list of the registrations. -/
theorem rotated_secret_changes_header_only :
    (engine "old").Twins (engine "new") ∧
      (host "old").RegistersAll (OneSecret.settings "env:APP_SECRET").registrations
        [registration "old"] ∧
      ((host "old").rekey rekeying).RegistersAll (OneSecret.settings "env:APP_SECRET").registrations
        [registration "new"] ∧
      ((run "old").1.world.shared.store.entry ⟨"svc-a", Requester.nobody.principalName⟩).isSome =
        true ∧
      (run "old").1.world.sent ≠ (run "new").1.world.sent ∧
      Service.SeenAlike (engine "old") (engine "new") (run "old") (run "new") ∧
      (CommandLine.run ((host "old").rekey rekeying) words).2 =
        (CommandLine.run (host "old") words).2 := by
  obtain ⟨-, operations, -, commands⟩ := secrets_leave_as_credentials_only
  refine ⟨engines, ?_, ?_, by decide +kernel, by decide +kernel, ?_, ?_⟩
  · exact .cons (.secret rfl (.variable rfl rfl)) .nil
  · exact .cons (.secret rfl (.variable rfl rfl)) .nil
  · exact operations _ _ engines world [] _ (by decide)
  · exact commands rekeying (host "old") words ⟨{}, some "/a.json", .listRegistrations⟩
      (by decide +kernel) rfl fun _ _ _ _ _ _ => rfl

end TokenBroker
