import TokenBroker.Proofs.Interleaving.Failures

/-!
# When an end user is needed

An engine sends a caller to the end user only from one place: the leader of an attempt has looked
into the store again and has found no client, or one that is not usable and cannot be renewed
(`Interleaving.NeedsUserFor`). The registration is then an attended one. Of the three readings of a
grant type two agree, that of the engine which plans an exchange
(`Engine.plan_eq_interactionRequired_iff`) and that of the assembly which demands a client for a
registration (`Assembly.registrationIssues_unserved_iff`); the third,
`GrantType.requiresInteraction`, differs from them for one grant type, that of refreshing: a first
token of it takes no end user, and nevertheless the engine asks for one.

`interaction_only_if_attended` says all this of every call in every run of a built engine.
`refreshing_asks_for_user` is a call for a registration whose grant takes no end user, and that ends
with the demand for one.
-/

namespace TokenBroker

namespace Engine

namespace Interleaving

/-- As `Ordinary`; and the store does not hide what it holds. -/
structure Reliable (r : Interleaving) : Prop extends r.Ordinary where
  visible : ∀ {n i env}, r.event n = .step i env → env.hidden = false

/-- At event `m` call `i` of a key, or the leader of an attempt that the call waits for, has loaded
the stored client once more. There is none, or one that is not usable by now, and that cannot be
renewed for want of a refresh token or of a client that takes it. -/
inductive NeedsUserFor (r : Interleaving) (m i : Nat) (k : Key) : Prop
  | missing {j env reg a} (event : r.event m = .step j env)
      (at_j : (r.scene m).calls[j]? = some ⟨k, .reloading reg a⟩)
      (acts : r.ActsFor j (.reloading reg a) i k) (missing : (r.scene m).entry k = none)
  | unrenewable {j env reg a c q} (event : r.event m = .step j env)
      (at_j : (r.scene m).calls[j]? = some ⟨k, .rejudging reg a c⟩)
      (acts : r.ActsFor j (.rejudging reg a c) i k) (earlier : q < m)
      (loading : (r.scene q).calls[j]? = some ⟨k, .reloading reg a⟩)
      (stored : (r.scene q).entry k = some c)
      (unusable : r.engine.isUsable c (r.scene m).clock = .ok false)
      (unrenewable : c.refreshToken = none ∨ r.engine.clients.find? .refreshToken = none)

variable {r : Interleaving} {k : Key} {reg : ClientRegistration} {m i : Nat}

/-- A demand for the end user is raised where one is needed. -/
theorem needsUserFor_of_raises (reliable : r.Reliable)
    (registered : r.engine.source.find? k.registrationId = some reg)
    (h : r.RaisesFor m i k
      (.failure (.interactionRequired k.registrationId k.principalName reg.grantType.name))) :
    r.NeedsUserFor m i k := by
  obtain ⟨j, env, p, event, at_j, acts, raises⟩ := h
  have belongs := r.belongsTo at_j
  have dispatched := r.dispatched at_j
  generalize hf : Fault.failure _ = fault at raises
  cases raises with
  | store asks raised =>
    rw [show env.storeFault = none from reliable.store event] at raised
    cases raised
  | unjudged _ unjudged =>
    obtain ⟨rfl, -⟩ := undated_of_isUsable unjudged
    cases hf
  | unplanned loads unplanned =>
    refine .missing event at_j acts ?_
    rcases loads.client with none | ⟨hidden, -⟩
    · exact none.symm
    · rw [show env.hidden = false from reliable.visible event] at hidden
      cases hidden
  | @replanned reg' a c f judged unplanned =>
    cases hf
    have same : reg' = reg := Option.some.inj (belongs.symm.trans registered)
    rw [same] at unplanned
    obtain ⟨q, earlier, moves, stored⟩ := rejudging_from at_j
    exact .unrenewable event at_j acts earlier moves.at_p stored judged
      ((plan_eq_interactionRequired_iff.1 unplanned).2 c rfl)
  | mismatched refused =>
    obtain ⟨sent, begun⟩ := Plan.Dispatched.exists_begin dispatched
    rw [refused] at begun
    cases begun
  | exchange failed =>
    -- what an exchange fails with is no demand for a user, whether or not it is wrapped
    rcases result_error_cases reliable.asksBuiltIn dispatched failed with
      ⟨f, rfl, exchange⟩ | ⟨_, _, _, rfl, _⟩ | ⟨_, _, _, rfl⟩ | ⟨_, rfl⟩
    · simp only [Fault.ofExchange, exchange.isExchangeFailure, if_true] at hf
      cases hf
    all_goals cases hf
  | unmade _ unmade =>
    rw [(endless_of_clientOf unmade).1] at hf
    cases hf

end Interleaving

/-- **A user is asked for only where the grant is attended.** An assembly of built-in clients has
been built, and its registrations can be listed or it has the client that serves the unattended
ones. In every run of its engine in which the store neither raises nor hides what it holds and the
transport gives any answers or fails, and for every call of a configured registration:

* a call that has ended with a fault has demanded an end user, whom the grant of its registration
  requires unless the grant is that of refreshing, and the call, or the leader that it has waited
  for, has found nothing that could be used or renewed; or its acquisition has failed, with an
  exchange failure as the cause; or there was an answer that could not be quoted or a time that has
  left the calendar, and it has ended with that;
* a call that has not ended has a next step that brings it nearer to its end, or waits for a leader
  of its key that has a next step.

For every registration the engine, with nothing stored, demands an end user, and the assembly
demands no client, exactly if the grant requires a user or is that of refreshing. -/
theorem interaction_only_if_attended {a : Assembly} {made : Assembled} {r : Interleaving} {k : Key}
    {reg : ClientRegistration} (built : a.build.2 = .ok made)
    (served : made.engine.source.listed?.isSome ∨
      (made.engine.clients.find? .clientCredentials).isSome)
    (engine : r.engine = made.engine) (reliable : r.Reliable)
    (registered : r.engine.source.find? k.registrationId = some reg) :
    (∀ (n i : Nat) fault, (r.scene n).calls[i]? = some ⟨k, .finished (.error fault)⟩ →
      (fault = .failure (.interactionRequired k.registrationId k.principalName reg.grantType.name) ∧
          (reg.grantType.requiresInteraction = true ∨ reg.grantType = .refreshToken) ∧
          ∃ m < n, r.NeedsUserFor m i k) ∨
        (∃ cause, fault = .failure (.acquisitionFailed k.registrationId cause true) ∧
          cause.OfExchange) ∨
        ∃ m < n, (∃ error, fault = .charset error ∧ r.UnreadableFor m i k error) ∨
          fault = .dateOutOfRange ∧ r.UndatedFor m i k) ∧
      (∀ (n i : Nat) p, (r.scene n).calls[i]? = some ⟨k, p⟩ → p.outcome? = none →
        (∀ env, ∃ next, r.engine.step k env (r.scene n).shared p = some next ∧
          next.phase.rank < p.rank) ∨
          ∃ a, p = .waiting a ∧ ∃ (j : Nat) (p' : Phase), (r.scene n).calls[j]? = some ⟨k, p'⟩ ∧
            p'.leads? = some a ∧ ∀ env, (r.engine.step k env (r.scene n).shared p').isSome) ∧
      ∀ reg' : ClientRegistration,
        (r.engine.plan k reg' none =
            .error (.interactionRequired k.registrationId k.principalName reg'.grantType.name) ↔
          reg'.grantType.requiresInteraction = true ∨ reg'.grantType = .refreshToken) ∧
        ∀ registry : Registry, registry.find? reg'.grantType = none →
          (Assembly.registrationIssues ExchangeClient.validate registry reg' = [] ↔
            reg'.grantType.requiresInteraction = true ∨ reg'.grantType = .refreshToken) := by
  -- either way the engine has a client for each unattended grant it is asked for
  have serves : r.engine.ServesUnattended := by
    rw [engine]
    rcases served with listed | client
    · exact Assembly.servesUnattended_of_build built listed
    · exact servesUnattended_of_client client
  refine ⟨fun n i fault failed => ?_, fun n i p at_i running => Interleaving.goes_on at_i running,
    fun reg' => ⟨?_, fun registry unserved => ?_⟩⟩
  · rcases Interleaving.raised_of_failed failed with ⟨unregistered, -⟩ | ⟨m, hm, raised⟩
    · rw [registered] at unregistered
      cases unregistered
    rcases Interleaving.foreseen_of_raises reliable.toOrdinary serves raised with foreseen
      | exception
    · cases foreseen with
      | unknown unregistered =>
        rw [registered] at unregistered
        cases unregistered
      | @needsUser reg' registered' attended =>
        obtain rfl : reg' = reg := Option.some.inj (registered'.symm.trans registered)
        exact .inl ⟨rfl, GrantType.isUnattended_eq_false_iff.1 attended, m, hm,
          Interleaving.needsUserFor_of_raises reliable registered raised⟩
      | @failed cause exchange => exact .inr (.inl ⟨cause, rfl, exchange⟩)
    · exact .inr (.inr ⟨m, hm, exception⟩)
  · rw [plan_eq_interactionRequired_iff, GrantType.isUnattended_eq_false_iff]
    refine and_iff_left fun c none => ?_
    cases none
  · rw [Assembly.registrationIssues_unserved_iff unserved, GrantType.isUnattended_eq_false_iff]

/-! ## One call, with nothing stored -/

namespace UserDemand

def registration (grant : GrantType) : ClientRegistration :=
  { registrationId := "svc", clientId := "app", clientSecret := some "s", grantType := grant,
    tokenUri := "/token" }

def catalog (grant : GrantType) : Catalog := ⟨[registration grant], List.nodup_singleton _⟩

def assembly (grant : GrantType) : Assembly where
  components :=
    [("registrations", .registrations (.catalog (catalog grant))), ("store", .store (.memory [])),
      ("requester", .client (.clientCredentials {})), ("refresher", .client (.refreshToken {}))]

def made (grant : GrantType) : Assembled :=
  ⟨⟨.catalog (catalog grant), ⟨[.clientCredentials {}, .refreshToken {}]⟩, {}⟩, "store", .memory []⟩

def alice : Key := ⟨"svc", "alice"⟩

def calm : Surroundings := { now := default, reply := .failed ⟨"ConnectError", "refused"⟩ }

def script : List Event := .begin alice :: List.replicate 5 (.step 0 calm)

/-- One call, alone, on an empty store. -/
def run (grant : GrantType) : Interleaving where
  engine := (made grant).engine
  clock := default
  store := (made grant).store
  event n := script.getD n .pause

theorem built (grant : GrantType) : (assembly grant).build.2 = .ok (made grant) := by
  cases grant <;> rfl

theorem env_eq {grant : GrantType} {n i : Nat} {env : Surroundings}
    (event : (run grant).event n = .step i env) : env = calm := by
  have listed : script[n]? = some (.step i env) := Event.getElem?_of_getD event nofun
  have member := List.mem_of_getElem? listed
  simp only [script, List.mem_cons, List.mem_replicate, reduceCtorEq, false_or,
    Event.step.injEq] at member
  exact member.2.2

/-- The run is reliable: its clients are built in and nothing fails. -/
theorem reliable (grant : GrantType) : (run grant).Reliable where
  builtIn := by simp [run, made, ExchangeClient.isBuiltIn]
  store event := by rw [env_eq event]; rfl
  transport event _ := by rw [env_eq event]; rfl
  visible event := by rw [env_eq event]; rfl

/-- Without a grant that is run again at any time, the call ends with the demand for the user. -/
theorem ended {grant : GrantType} (attended : grant.isUnattended = false) :
    ((run grant).scene 6).calls[0]? =
      some ⟨alice, .finished
        (.error (.failure (.interactionRequired "svc" "alice" grant.name)))⟩ := by
  cases grant with
  | clientCredentials => cases attended
  | authorizationCode => rfl
  | refreshToken => rfl

end UserDemand

open UserDemand in
/-- The user of a login is asked for, since the leader finds nothing stored. -/
theorem user_asked_for_login :
    ((assembly .authorizationCode).build.2 = .ok (made .authorizationCode) ∧
        ((made .authorizationCode).engine.source.listed?.isSome ∨
          ((made .authorizationCode).engine.clients.find? .clientCredentials).isSome) ∧
        (run .authorizationCode).engine = (made .authorizationCode).engine ∧
        (run .authorizationCode).Reliable ∧
        (run .authorizationCode).engine.source.find? "svc" = some
          (registration .authorizationCode)) ∧
      ((run .authorizationCode).scene 6).calls[0]? = some ⟨alice,
        .finished (.error (.failure (.interactionRequired "svc" "alice" "authorization_code")))⟩ ∧
      ∃ m < 6, (run .authorizationCode).NeedsUserFor m 0 alice := by
  have failed : ((run .authorizationCode).scene 6).calls[0]? = _ := ended rfl
  refine ⟨⟨built _, .inl rfl, rfl, reliable _, rfl⟩, failed, ?_⟩
  obtain ⟨explains, -⟩ := interaction_only_if_attended (built _) (.inl rfl) rfl (reliable _)
    (show (run .authorizationCode).engine.source.find? alice.registrationId =
      some (registration .authorizationCode) from rfl)
  rcases explains 6 0 _ failed with
    ⟨-, -, needed⟩ | ⟨cause, same, -⟩ | ⟨m, -, ⟨error, same, -⟩ | ⟨same, -⟩⟩
  · exact needed
  all_goals cases same

open UserDemand in
/-- The grant of a registration requires no end user, and a call for it ends with the demand for
one. -/
theorem refreshing_asks_for_user :
    (assembly .refreshToken).build.2 = .ok (made .refreshToken) ∧
      (made .refreshToken).engine.source.listed?.isSome ∧
      (run .refreshToken).engine = (made .refreshToken).engine ∧ (run .refreshToken).Reliable ∧
      (run .refreshToken).engine.source.find? "svc" = some (registration .refreshToken) ∧
      (registration .refreshToken).grantType.requiresInteraction = false ∧
      ((run .refreshToken).scene 6).calls[0]? = some ⟨alice,
        .finished (.error (.failure (.interactionRequired "svc" "alice" "refresh_token")))⟩ :=
  ⟨built _, rfl, rfl, reliable _, rfl, rfl, ended rfl⟩

end Engine

end TokenBroker
