import TokenBroker.Proofs.Assembly
import TokenBroker.Proofs.Endpoint.Classification
import TokenBroker.Proofs.Engine.Lifetime
import TokenBroker.Proofs.Interleaving.Raised

/-!
# How calls fail

The failures that a caller has to expect are few (`Foreseen`): the registration is not known, an end
user is needed, or an exchange has failed, by the transport, by a refusal or by a malformed answer.
An engine that `Assembly.build` gives of the built-in clients fails in no other way, as long as the
store does not raise and the transport fails only as transports do (`Ordinary`), with two exceptions
(`Interleaving.foreseen_of_raises`). Times may leave the calendar (`Interleaving.UndatedFor`); and
an answer that is not accepted and names no error is quoted, which raises an error of its own if the
answer names a charset in which its body cannot be read (`Interleaving.UnreadableFor`).

`fails_as_foreseen_unless_unreadable` says so of every call in every reachable state, and that a
call which has not ended goes on. `unreadable_refusal_escapes` is a run in which a refusal cannot be
quoted.
-/

namespace TokenBroker

/-- A client of the program itself. -/
def ExchangeClient.isBuiltIn : ExchangeClient → Bool
  | .plugin .. => false
  | _ => true

/-- An answer, or a failure of the transport that HTTP knows. -/
def Reply.isOrdinary : Reply → Bool
  | .answer _ | .failed _ => true
  | _ => false

namespace Engine

/-- The failures that a call for a key may end with. -/
inductive Foreseen (e : Engine) (k : Key) : Fault → Prop
  | unknown (unregistered : e.source.find? k.registrationId = none) :
      Foreseen e k (.failure (.unknownRegistration k.registrationId))
  | needsUser {reg} (registered : e.source.find? k.registrationId = some reg)
      (attended : reg.grantType.isUnattended = false) :
      Foreseen e k (.failure (.interactionRequired k.registrationId k.principalName
        reg.grantType.name))
  /-- The failure has the exit code of its cause. -/
  | failed {cause} (exchange : cause.OfExchange)
      (exit : (Failure.acquisitionFailed k.registrationId cause true).exitCode = cause.exitCode) :
      Foreseen e k (.failure (.acquisitionFailed k.registrationId cause true))

/-- The clients that get the requests of an engine are built in. -/
def AsksBuiltIn (e : Engine) : Prop :=
  ∀ (request : GrantRequest) (c : ExchangeClient),
    e.clients.find? request.grantType = some c → c.isBuiltIn = true

/-- What else a step may raise: what the store or the transport raises, an answer that cannot be
quoted, and a time that leaves the calendar. -/
inductive Unforeseen (e : Engine) (env : Surroundings) : Phase → Fault → Prop
  | store {p fault} (asks : p.asksStore = true) (raised : env.storeFault = some fault) :
      Unforeseen e env p fault
  | broke {a pl issuedAt sent ticket label text} (reply : env.reply = .broke label text) :
      Unforeseen e env (.receiving a pl issuedAt sent ticket) (.raised label text)
  | interrupted {a pl issuedAt sent ticket} (reply : env.reply = .interrupted) :
      Unforeseen e env (.receiving a pl issuedAt sent ticket) .interrupted
  | unreadable {a pl issuedAt sent ticket answer error} (reply : env.reply = .answer answer)
      (refused : answer.isSuccess = false) (unnamed : answer.member? "error" = none)
      (unread : answer.text = .error error) :
      Unforeseen e env (.receiving a pl issuedAt sent ticket) (.charset error)
  | stored {p c expiresAt} (judges : p.judges? = some c)
      (expires : c.accessToken.expiresAt = some expiresAt)
      (undated : expiresAt.shift? (-e.skew) = none) : Unforeseen e env p .dateOutOfRange
  | new {a pl issuedAt sent ticket response} (answered : env.result sent = .ok response)
      (undated : issuedAt.shift? (e.lifetimeOf response * 1000000) = none) :
      Unforeseen e env (.receiving a pl issuedAt sent ticket) .dateOutOfRange

/-- How the exchange of a built-in client fails. -/
theorem result_error_cases {e : Engine} {env : Surroundings} {a ticket : Nat} {pl : Plan}
    {issuedAt : DateTime} {sent : Transmission} {fault : Fault} (builtIn : e.AsksBuiltIn)
    (dispatched : (Phase.receiving a pl issuedAt sent ticket).Dispatched e)
    (failed : env.result sent = .error fault) :
    (∃ f, fault = .failure f ∧ f.OfExchange) ∨
      (∃ answer error, env.reply = .answer answer ∧ fault = .charset error ∧
        answer.isSuccess = false ∧
        answer.member? "error" = none ∧ answer.text = .error error) ∨
      (∃ label text, env.reply = .broke label text ∧ fault = .raised label text) ∨
      env.reply = .interrupted ∧ fault = .interrupted := by
  cases sent with
  | post http scopes => exact ExchangeClient.conclude_error_cases failed
  | ask number =>
    -- only a plug-in is asked, and the engine has none
    obtain ⟨label, grant, asked⟩ := ExchangeClient.eq_plugin_of_begin dispatched.2
    have native := builtIn pl.request pl.client dispatched.1
    rw [asked] at native
    cases native

/-- Of all the ways in which a step can fail these are the only ones where all clients are built
in. -/
theorem foreseen_or_unforeseen {e : Engine} {key : Key} {env : Surroundings} {s : Shared}
    {p : Phase} {fault : Fault} (served : e.ServesUnattended) (builtIn : e.AsksBuiltIn)
    (belongs : p.BelongsTo e key) (dispatched : p.Dispatched e) (h : Raises e key env s p fault) :
    e.Foreseen key fault ∨ e.Unforeseen env p fault := by
  cases h with
  | store asks raised => exact .inr (.store asks raised)
  | unjudged judges unjudged =>
    obtain ⟨rfl, expiresAt, expires, undated⟩ := undated_of_isUsable unjudged
    exact .inr (.stored judges expires undated)
  | unplanned _ unplanned | replanned _ unplanned =>
    obtain ⟨attended, rfl⟩ := served.plan_eq_error belongs unplanned
    exact .inl (.needsUser belongs attended)
  | mismatched refused =>
    obtain ⟨sent, begun⟩ := Plan.Dispatched.exists_begin dispatched
    rw [refused] at begun
    cases begun
  | exchange failed =>
    rcases result_error_cases builtIn dispatched failed with
      ⟨f, rfl, exchange⟩ | ⟨answer, error, answered, rfl, refused, unnamed, unread⟩ |
        ⟨label, text, broke, rfl⟩ | ⟨interrupted, rfl⟩
    · simp only [Fault.ofExchange, exchange.isExchangeFailure, if_true]
      exact .inl (.failed exchange rfl)
    · exact .inr (.unreadable answered refused unnamed unread)
    · exact .inr (.broke broke)
    · exact .inr (.interrupted interrupted)
  | unmade answered unmade =>
    obtain ⟨rfl, undated⟩ := endless_of_clientOf unmade
    exact .inr (.new answered undated)

namespace Interleaving

/-- All clients are built in, the store does not raise, and requests are answered or fail as HTTP
requests do. -/
structure Ordinary (r : Interleaving) : Prop where
  builtIn : ∀ c ∈ r.engine.clients.clients, c.isBuiltIn = true
  store : ∀ {n i env}, r.event n = .step i env → env.storeFault = none
  transport : ∀ {n i env k a pl issuedAt sent ticket}, r.event n = .step i env →
    (r.scene n).calls[i]? = some ⟨k, .receiving a pl issuedAt sent ticket⟩ →
      env.reply.isOrdinary = true

/-- Event `m` brings call `i` of a key, or the leader of an attempt that the call waits for, an
answer that is not accepted, names no error and cannot be read. -/
inductive UnreadableFor (r : Interleaving) (m i : Nat) (k : Key) (error : Text.CharsetError) : Prop
  | mk {j env a pl issuedAt sent ticket answer} (event : r.event m = .step j env)
      (at_j : (r.scene m).calls[j]? = some ⟨k, .receiving a pl issuedAt sent ticket⟩)
      (acts : r.ActsFor j (.receiving a pl issuedAt sent ticket) i k)
      (reply : env.reply = .answer answer) (refused : answer.isSuccess = false)
      (unnamed : answer.member? "error" = none) (unread : answer.text = .error error)

/-- With event `m` a time leaves the calendar in a step of call `i` of a key, or of the leader of an
attempt that the call waits for: the end of a stored client less the margin, or the end of a new
one. -/
inductive UndatedFor (r : Interleaving) (m i : Nat) (k : Key) : Prop
  | stored {j env p c expiresAt} (event : r.event m = .step j env)
      (at_j : (r.scene m).calls[j]? = some ⟨k, p⟩) (acts : r.ActsFor j p i k)
      (judges : p.judges? = some c) (expires : c.accessToken.expiresAt = some expiresAt)
      (undated : expiresAt.shift? (-r.engine.skew) = none)
  | new {j env a pl issuedAt sent ticket response} (event : r.event m = .step j env)
      (at_j : (r.scene m).calls[j]? = some ⟨k, .receiving a pl issuedAt sent ticket⟩)
      (acts : r.ActsFor j (.receiving a pl issuedAt sent ticket) i k)
      (answered : env.result sent = .ok response)
      (undated : issuedAt.shift? (r.engine.lifetimeOf response * 1000000) = none)

variable {r : Interleaving} {k : Key} {i j m n : Nat} {p : Phase} {env : Surroundings}
  {fault : Fault}

theorem Ordinary.asksBuiltIn (ordinary : r.Ordinary) : r.engine.AsksBuiltIn :=
  fun _ c found => ordinary.builtIn c (List.mem_of_find?_eq_some found)

/-- A step raises what is foreseen, or a refusal cannot be quoted, or a time leaves the calendar. -/
theorem foreseen_of_raises (ordinary : r.Ordinary) (served : r.engine.ServesUnattended)
    (h : r.RaisesFor m i k fault) :
    r.engine.Foreseen k fault ∨ (∃ error, fault = .charset error ∧ r.UnreadableFor m i k error) ∨
      fault = .dateOutOfRange ∧ r.UndatedFor m i k := by
  obtain ⟨j, env, p, event, at_j, acts, raises⟩ := h
  rcases foreseen_or_unforeseen served ordinary.asksBuiltIn (r.belongsTo at_j)
    (r.dispatched at_j) raises with foreseen | other
  · exact .inl foreseen
  right
  cases other with
  | store asks raised =>
    have sound := ordinary.store event
    rw [show env.storeFault = some _ from raised] at sound
    cases sound
  | broke reply =>
    have sound := ordinary.transport event at_j
    rw [show env.reply = .broke _ _ from reply] at sound
    cases sound
  | interrupted reply =>
    have sound := ordinary.transport event at_j
    rw [show env.reply = .interrupted from reply] at sound
    cases sound
  | unreadable reply refused unnamed unread =>
    exact .inl ⟨_, rfl, .mk event at_j acts reply refused unnamed unread⟩
  | stored judges expires undated =>
    exact .inr ⟨rfl, .stored event at_j acts judges expires undated⟩
  | @new a pl issuedAt sent ticket response answered undated =>
    -- the clock that the step reads has no part in the reply
    have same : env.result sent = .ok response := by
      cases sent <;> exact answered
    exact .inr ⟨rfl, .new event at_j acts same undated⟩

/-- A call that has not ended has a next step, or waits for a leader that has one. -/
theorem goes_on (at_i : (r.scene n).calls[i]? = some ⟨k, p⟩) (running : p.outcome? = none) :
    (∀ env, ∃ next, r.engine.step k env (r.scene n).shared p = some next ∧
      next.phase.rank < p.rank) ∨
      ∃ a, p = .waiting a ∧ ∃ (j : Nat) (p' : Phase), (r.scene n).calls[j]? = some ⟨k, p'⟩ ∧
        p'.leads? = some a ∧ ∀ env, (r.engine.step k env (r.scene n).shared p').isSome := by
  by_cases waits : ∃ a, p = .waiting a
  · obtain ⟨a, rfl⟩ := waits
    -- the attempt had a leader when the call joined it: that one still leads, or has left its
    -- outcome
    obtain ⟨m, hm, j, led⟩ := waits_leader (Scene.stands_waits_iff.2 at_i)
    rcases leads_or_answered (Nat.le_of_lt hm) led with ⟨p', at_j, leads⟩ | ⟨⟨o, -, outcome⟩, -⟩
    · refine .inr ⟨a, rfl, j, p', at_j, leads, fun env => ?_⟩
      apply step_isSome
      · cases p' <;> first | rfl | cases leads
      · rintro b rfl
        cases leads
    · left
      intro env
      refine ⟨⟨(r.scene n).shared, .finished o, []⟩, ?_, Nat.zero_lt_one⟩
      simp only [step, outcome]
  · left
    intro env
    obtain ⟨next, taken⟩ := Option.isSome_iff_exists.1
      (step_isSome r.engine k env (r.scene n).shared running fun a same => waits ⟨a, same⟩)
    exact ⟨next, taken, (move_of_step taken).rank_lt⟩

/-- A call is where its step has led it. -/
theorem call_succ {q : Phase} {t : Shared} {log : List LogEntry} (event : r.event n = .step i env)
    (at_i : (r.scene n).calls[i]? = some ⟨k, p⟩)
    (taken : r.engine.step k { env with now := (r.scene n).clock } (r.scene n).shared p =
      some ⟨t, q, log⟩) : (r.scene (n + 1)).calls[i]? = some ⟨k, q⟩ := by
  show ((r.scene n).after r.engine (r.event n)).calls[i]? = _
  rw [event]
  simp only [Scene.after, at_i, taken]
  rw [getElem?_set_call at_i, if_pos rfl]

end Interleaving

/-- **Calls fail as foreseen, unless a refusal cannot be quoted.** An assembly of the built-in
clients whose registrations can be listed has been built. In every run of its engine in which the
store does not raise and the transport gives any answers or fails, and in every state of the run:

* a call that has ended with a fault has ended with one that is foreseen; or an answer to its
  request, or to that of the leader it has waited for, was not accepted, named no error and could
  not be read in the charset that it named, and the call has ended with the error of the charset; or
  a time has left the calendar in a step of the call or of that leader;
* a call that has not ended has a next step that brings it nearer to its end, or waits for a leader
  of its key that has a next step. -/
theorem fails_as_foreseen_unless_unreadable {a : Assembly} {made : Assembled} {r : Interleaving}
    (built : a.build.2 = .ok made) (listed : made.engine.source.listed?.isSome)
    (engine : r.engine = made.engine) (ordinary : r.Ordinary) (n i : Nat) (k : Key) :
    (∀ fault, (r.scene n).calls[i]? = some ⟨k, .finished (.error fault)⟩ →
      r.engine.Foreseen k fault ∨ ∃ m < n,
        (∃ error, fault = .charset error ∧ r.UnreadableFor m i k error) ∨
          fault = .dateOutOfRange ∧ r.UndatedFor m i k) ∧
      ∀ p, (r.scene n).calls[i]? = some ⟨k, p⟩ → p.outcome? = none →
        (∀ env, ∃ next, r.engine.step k env (r.scene n).shared p = some next ∧
          next.phase.rank < p.rank) ∨
          ∃ a, p = .waiting a ∧ ∃ (j : Nat) (p' : Phase), (r.scene n).calls[j]? = some ⟨k, p'⟩ ∧
            p'.leads? = some a ∧ ∀ env, (r.engine.step k env (r.scene n).shared p').isSome := by
  have served : r.engine.ServesUnattended := by
    rw [engine]
    exact Assembly.servesUnattended_of_build built listed
  refine ⟨fun fault failed => ?_, fun p at_i running => Interleaving.goes_on at_i running⟩
  rcases Interleaving.raised_of_failed failed with ⟨unregistered, rfl⟩ | ⟨m, hm, raised⟩
  · exact .inl (.unknown unregistered)
  · rcases Interleaving.foreseen_of_raises ordinary served raised with foreseen | exception
    · exact .inl foreseen
    · exact .inr ⟨m, hm, exception⟩

/-! ## A refusal that cannot be quoted -/

namespace UnreadableRefusal

def registration : ClientRegistration :=
  { registrationId := "svc", clientId := "app", clientSecret := some "s",
    grantType := .clientCredentials, tokenUri := "/token" }

def catalog : Catalog := ⟨[registration], by decide⟩

def assembly : Assembly where
  components :=
    [("registrations", .registrations (.catalog catalog)), ("store", .store (.memory [])),
      ("requester", .client (.clientCredentials {})), ("refresher", .client (.refreshToken {}))]

def made : Assembled :=
  ⟨⟨.catalog catalog, ⟨[.clientCredentials {}, .refreshToken {}]⟩, {}⟩, "store", .memory []⟩

def system : Key := ⟨"svc", "system"⟩

/-- Two letters in UTF-16, of which nothing tells the order of the bytes. -/
def answer : HttpAnswer where
  status := 500
  headers := [("Content-Type", "text/plain; charset=utf-16")]
  body := [0x61, 0x00, 0x62, 0x00]

def calm : Surroundings := { now := default, reply := .answer answer }

def script : List Event := .begin system :: List.replicate 8 (.step 0 calm)

/-- One call, alone, on an empty store. -/
def run : Interleaving where
  engine := made.engine
  clock := default
  store := made.store
  event n := script.getD n .pause

theorem built : assembly.build.2 = .ok made := by
  rfl

/-- The steps of the run are those of its one call. -/
theorem event_eq {n i : Nat} {env : Surroundings} (event : run.event n = .step i env) :
    n < 9 ∧ i = 0 ∧ env = calm := by
  have listed : script[n]? = some (.step i env) := Event.getElem?_of_getD event nofun
  have member := List.mem_of_getElem? listed
  simp only [script, List.mem_cons, List.mem_replicate, reduceCtorEq, false_or,
    Event.step.injEq] at member
  obtain ⟨within, -⟩ := List.getElem?_eq_some_iff.1 listed
  exact ⟨within, member.2⟩

theorem ordinary : run.Ordinary where
  builtIn := by decide
  store event := by rw [(event_eq event).2.2]; rfl
  transport event _ := by rw [(event_eq event).2.2]; rfl

/-- The text of the answer has no byte order, so it cannot be read. -/
theorem unread : answer.text = .error (.noByteOrder 16) := HttpAnswer.text_unmarked

def plan : Plan := ⟨.clientCredentials {}, .clientCredentials registration, none⟩

theorem receiving : ∃ http, (run.scene 6).calls[0]? =
    some ⟨system, .receiving 0 plan default (.post http []) 0⟩ := ⟨_, rfl⟩

/-- What the call raises. -/
def fault : Fault := .charset (.noByteOrder 16)

/-- The answer makes the exchange end in the fault of reading it. -/
theorem failed (http : HttpRequest) (scopes : List String) :
    calm.result (.post http scopes) = .error fault := by
  have unnamed : Json.ofBytes? answer.body = none := by
    have : (Json.ofBytes? answer.body).isNone := by decide +kernel
    exact Option.isNone_iff_eq_none.1 this
  have refused : answer.isSuccess = false := by decide
  show TokenResponse.ofAnswer answer scopes = _
  simp [TokenResponse.ofAnswer, TokenResponse.refusal, refused, unnamed, unread, fault]

theorem published : (run.scene 7).calls[0]? = some ⟨system, .publishing 0 (.error fault)⟩ := by
  obtain ⟨http, receiving⟩ := receiving
  have settled : run.engine.step system calm (run.scene 6).shared
      (.receiving 0 plan default (.post http []) 0) =
      some ⟨(run.scene 6).shared, .publishing 0 (.error fault), []⟩ := by
    simp only [step, failed]
    rfl
  exact Interleaving.call_succ rfl receiving settled

theorem released : (run.scene 8).calls[0]? = some ⟨system, .releasing 0 (.error fault)⟩ :=
  Interleaving.call_succ rfl published rfl

/-- The call ends in that fault, and not in a failure of the program's own. -/
theorem ended : (run.scene 9).calls[0]? = some ⟨system, .finished (.error fault)⟩ :=
  Interleaving.call_succ rfl released rfl

/-- Nothing is stored, so nothing is judged. -/
theorem judges?_eq_none {m : Nat} {p : Phase} (early : m < 9)
    (at_0 : (run.scene m).calls[0]? = some ⟨system, p⟩) : p.judges? = none := by
  have sending : ∀ m < 7, ∀ call ∈ (run.scene m).calls, call.phase.judges?.isNone := by
    decide +kernel
  rcases Nat.lt_or_ge m 7 with before | after
  · exact Option.isNone_iff_eq_none.1 (sending m before _ (List.mem_of_getElem? at_0))
  · obtain rfl | rfl : m = 7 ∨ m = 8 := by omega
    · rw [published] at at_0
      cases at_0
      rfl
    · rw [released] at at_0
      cases at_0
      rfl

/-- All times of the run are within the calendar. -/
theorem dated (m i : Nat) : ¬ run.UndatedFor m i system := by
  intro undated
  cases undated with
  | stored event at_j _ judges =>
    obtain ⟨early, rfl, -⟩ := event_eq event
    rw [judges?_eq_none early at_j] at judges
    cases judges
  | @new j env a pl issuedAt sent ticket response event at_j _ answered =>
    obtain ⟨-, rfl, rfl⟩ := event_eq event
    cases sent with
    | post http scopes => cases (failed http scopes).symm.trans answered
    | ask number => cases answered

/-- The fault is none of those the engine foresees. -/
theorem unforeseen : ¬ run.engine.Foreseen system fault := by
  intro foreseen
  cases foreseen

end UnreadableRefusal

open UnreadableRefusal in
/-- The call ends with the error of the charset, and an answer to its request is why. -/
theorem failed_on_unreadable_answer :
    (assembly.build.2 = .ok made ∧ made.engine.source.listed?.isSome ∧ run.engine = made.engine ∧
        run.Ordinary) ∧
      (run.scene 9).calls[0]? = some ⟨system, .finished (.error (.charset (.noByteOrder 16)))⟩ ∧
      ∃ m < 9, run.UnreadableFor m 0 system (.noByteOrder 16) := by
  refine ⟨⟨built, rfl, rfl, ordinary⟩, ended, ?_⟩
  obtain ⟨explains, -⟩ := fails_as_foreseen_unless_unreadable built rfl rfl ordinary 9 0 system
  rcases explains _ ended with foreseen | ⟨m, hm, ⟨error, same, unreadable⟩ | ⟨same, -⟩⟩
  · exact absurd foreseen unforeseen
  · cases same
    exact ⟨m, hm, unreadable⟩
  · cases same

open UnreadableRefusal in
/-- The engine of an assembly of the built-in clients, a store that does not raise, answers to all
requests and times within the calendar: a call ends with a failure that is not foreseen. -/
theorem unreadable_refusal_escapes :
    assembly.build.2 = .ok made ∧ made.engine.source.listed?.isSome ∧ run.engine = made.engine ∧
      run.Ordinary ∧ (∀ m i, ¬ run.UndatedFor m i system) ∧
      (run.scene 9).calls[0]? = some ⟨system, .finished (.error (.charset (.noByteOrder 16)))⟩ ∧
      ¬ run.engine.Foreseen system (.charset (.noByteOrder 16)) :=
  ⟨built, rfl, rfl, ordinary, dated, ended, unforeseen⟩

end Engine

end TokenBroker
