import TokenBroker.Proofs.Interleaving.Installation
import TokenBroker.Proofs.Interleaving.Origins

/-!
# Whose client it is

A call ends with a client under the registration that its engine has for the id, and the rest of it
was stored under the key of the call before, whichever way the call has come by it
(`Interleaving.finished_from_entry`). What other engines have left in the store under older
registrations comes out bound to the newer ones.

`returned_client_belongs_to_caller` says so for any engines on one store that was empty at the
start: no key has two entries, each entry is a client of its key, and a client that is returned is
one of the id and of the principal that it was asked for, under the registration configured for the
id, secret included.
-/

namespace TokenBroker

@[simp] theorem Store.bind_kept (kind : StoreKind) (c : AuthorizedClient) :
    (Store.kept kind c).bind c.registration = c := by
  cases kind <;> rfl

namespace Engine

variable {r : Interleaving} {k : Key} {i n : Nat} {c : AuthorizedClient}

/-- A call ends with what was stored for its key, under the registration that is configured. -/
theorem Interleaving.finished_from_entry
    (given : (r.scene n).calls[i]? = some ⟨k, .finished (.ok c)⟩) :
    r.engine.source.find? k.registrationId = some c.registration ∧
      ∃ m ≤ n, ∃ d, (r.scene m).entry k = some d ∧ c = d.bind c.registration := by
  cases origin given with
  | @judged m reg old before moves _ bound =>
    obtain ⟨m', hm', -, stored⟩ := judging_from moves.at_p
    subst bound
    exact ⟨r.belongsTo moves.at_p, m', by omega, old, stored, rfl⟩
  | @rejudged m j a reg old before moves _ bound =>
    obtain ⟨m', hm', -, stored⟩ := rejudging_from moves.at_p
    subst bound
    exact ⟨r.belongsTo moves.at_p, m', by omega, old, stored, rfl⟩
  | @saved m j a g before moves =>
    have own := r.belongsTo moves.at_p
    obtain ⟨env, -, move⟩ := moves.move
    refine ⟨own.1, m + 1, before, Store.kept r.store.kind c, ?_, by simp⟩
    rw [← Store.retrieve_eq, ← own.key_eq, ← r.kind m]
    -- the save did not raise, since the client is published
    generalize hs : (r.scene (m + 1)).shared = t at move
    cases move with
    | saves =>
      show (r.scene (m + 1)).shared.store.entry c.key = _
      rw [hs]
      exact Store.entry_save_self _ c

end Engine

namespace Installation

/-- The engine of a number. -/
def engine? (s : Installation) (i : Nat) : Option Engine := s.engines[i]?.map (·.engine)

/-- A call of an installation is a call of one of its engines. -/
theorem call?_eq_some {s : Installation} {i j : Nat} {call : Engine.Call}
    (h : s.call? i j = some call) : ∃ x, s.engines[i]? = some x ∧ x.calls[j]? = some call :=
  Option.bind_eq_some_iff.1 h

theorem call?_of_engine {s : Installation} {i : Nat} {x : Engine.Running}
    (at_i : s.engines[i]? = some x) (j : Nat) : s.call? i j = x.calls[j]? := by
  unfold call?
  rw [at_i]
  rfl

namespace History

variable {h : History} {m n i j : Nat} {x : Engine.Running} {id : String} {requester : Requester}

/-- An engine's calls have got where they are by an interleaving on the store that all engines
share. -/
theorem exists_view_of_engine (at_i : (h.state n).engines[i]? = some x) :
    ∃ (r : Engine.Interleaving) (m q : Nat), m + q = n ∧ r.engine = x.engine ∧
      ∀ p, ∃ y, (h.state (m + p)).engines[i]? = some y ∧
        r.scene p = y.scene (h.state (m + p)).clock (h.state (m + p)).store := by
  obtain ⟨m, hm, begun⟩ := built at_i
  obtain ⟨r, same, view⟩ := exists_view begun
  refine ⟨r, m + 1, n - (m + 1), by omega, same, fun p => ?_⟩
  obtain ⟨y, at_p, -, scene⟩ := view p
  exact ⟨y, at_p, scene⟩

/-- A call that has begun stays, and with it its key. -/
theorem call_later {k : Key} {p : Engine.Phase} (hmn : m ≤ n)
    (before : (h.state m).call? i j = some ⟨k, p⟩) : ∃ q, (h.state n).call? i j = some ⟨k, q⟩ := by
  obtain ⟨x, at_i, at_j⟩ := call?_eq_some before
  obtain ⟨r, start, q, rfl, -, view⟩ := exists_view_of_engine at_i
  obtain ⟨y, at_q, scene⟩ := view q
  cases at_i.symm.trans at_q
  have begun : (r.scene q).calls[j]? = some ⟨k, p⟩ := by
    rw [scene]
    exact at_j
  obtain ⟨z, at_n, later⟩ := view (n - start)
  rw [Nat.add_sub_cancel' (by omega : start ≤ n)] at at_n later
  obtain ⟨p', kept, -⟩ := r.phase_later (by omega : q ≤ n - start) begun
  rw [later] at kept
  exact ⟨p', (call?_of_engine at_n j).trans kept⟩

/-- With event `m` a client is asked of an engine, in its call of a number. -/
structure Asks (h : History) (m i j : Nat) (id : String) (requester : Requester) : Prop where
  asked : h.event m = .resolve i id requester
  number : ∃ x, (h.state m).engines[i]? = some x ∧ x.calls.length = j

/-- The call is one for the id and the name of the principal. -/
theorem Asks.key_eq {k : Key} {p : Engine.Phase} (asks : h.Asks m i j id requester)
    (at_n : (h.state n).call? i j = some ⟨k, p⟩) : k = ⟨id, requester.principalName⟩ := by
  obtain ⟨x, at_i, last⟩ := asks.number
  rcases Nat.lt_or_ge m n with hmn | hnm
  · obtain ⟨y, at_succ, -, scene⟩ := scene_act at_i (.begin ⟨id, requester.principalName⟩)
    have begins : h.state (m + 1) = (h.state m).act i (.begin ⟨id, requester.principalName⟩) := by
      show (h.state m).after (h.event m) = _
      rw [asks.asked]
      rfl
    rw [← begins] at at_succ scene
    have begun : (h.state (m + 1)).call? i j =
        some ⟨⟨id, requester.principalName⟩, x.engine.start ⟨id, requester.principalName⟩⟩ := by
      have calls : y.calls = x.calls ++ [⟨_, x.engine.start ⟨id, requester.principalName⟩⟩] :=
        congrArg Engine.Scene.calls scene
      rw [call?_of_engine at_succ, calls, ← last]
      simp
    obtain ⟨q, later⟩ := call_later hmn begun
    rw [at_n] at later
    cases later
    rfl
  · -- the number was given to no call before
    obtain ⟨q, later⟩ := call_later hnm at_n
    rw [call?_of_engine at_i] at later
    have := (List.getElem?_eq_some_iff.1 later).1
    omega

/-- What a call returns was stored for its key, and is bound to what its engine is configured
with. -/
theorem returned_from_entry {k : Key} {c : AuthorizedClient}
    (returned : (h.state n).call? i j = some ⟨k, .finished (.ok c)⟩) :
    (∃ e, (h.state n).engine? i = some e ∧ e.source.find? k.registrationId = some c.registration) ∧
      ∃ m ≤ n, ∃ d, (h.state m).store.entry k = some d ∧ c = d.bind c.registration := by
  obtain ⟨x, at_i, at_j⟩ := call?_eq_some returned
  obtain ⟨r, start, q, rfl, same, view⟩ := exists_view_of_engine at_i
  obtain ⟨y, at_q, scene⟩ := view q
  cases at_i.symm.trans at_q
  have finished : (r.scene q).calls[j]? = some ⟨k, .finished (.ok c)⟩ := by
    rw [scene]
    exact at_j
  obtain ⟨configured, m, hm, d, stored, bound⟩ := Engine.Interleaving.finished_from_entry finished
  rw [same] at configured
  refine ⟨⟨x.engine, ?_, configured⟩, start + m, by omega, d, ?_, bound⟩
  · unfold engine?
    rw [at_i]
    rfl
  · obtain ⟨z, -, earlier⟩ := view m
    rw [earlier] at stored
    exact stored

end History

/-- **A client that is returned belongs to the caller.** Engines with any registrations, exchange
clients and policies are built on one store of either kind that is empty at the start; they are
asked for clients, their calls take their steps in any order and with any replies, and clients are
saved and evicted. At every moment

* no key has two entries, and each entry is a client of its key;
* a client that a call returns, which was asked for an id and a requester, has the id and the name
  of the requester for its key; its registration is the one that the call's engine has for the id;
  and all else of it was stored under that very key before.

So nobody is given what was stored for another principal, and no registration that is out of date or
lacks its secret. -/
theorem returned_client_belongs_to_caller (h : History) :
    (∀ n, (h.state n).store.keys.Nodup ∧
      ∀ k ∈ (h.state n).store.keys, ∃ c, (h.state n).store.entry k = some c ∧ c.key = k) ∧
      ∀ m i j id requester, h.Asks m i j id requester →
        ∀ n c, (h.state n).outcome? i j = some (.ok c) →
          c.key = ⟨id, requester.principalName⟩ ∧
            (∃ e, (h.state n).engine? i = some e ∧ e.source.find? id = some c.registration) ∧
            ∃ q ≤ n, ∃ d, (h.state q).store.entry ⟨id, requester.principalName⟩ = some d ∧
              c = d.bind c.registration := by
  refine ⟨fun n => ⟨(h.orderly n).keys_nodup, (h.orderly n).own⟩, ?_⟩
  intro m i j id requester asks n c outcome
  obtain ⟨⟨k, p⟩, at_n, ended⟩ := Option.bind_eq_some_iff.1 outcome
  cases p with
  | finished o =>
    cases ended
    obtain rfl := asks.key_eq at_n
    obtain ⟨⟨e, engine, configured⟩, q, hq, d, stored, bound⟩ := History.returned_from_entry at_n
    refine ⟨?_, ⟨e, engine, configured⟩, q, hq, d, stored, bound⟩
    have own := (h.orderly q).key_eq stored
    have registered := RegistrationSource.registrationId_of_find? configured
    have name : c.principalName = d.principalName := by rw [bound]; rfl
    have principal : d.principalName = requester.principalName := congrArg Key.principalName own
    unfold AuthorizedClient.key
    rw [registered, name, principal]
  | _ => cases ended

/-! ## A secret that has been changed -/

namespace ChangedSecret

def web (secret : String) : ClientRegistration :=
  { registrationId := "web", clientId := "app", clientSecret := some secret,
    grantType := .authorizationCode, tokenUri := "/token" }

def alice : Requester := .named "alice"

/-- The client of a token, under a registration. -/
def client (registration : ClientRegistration) : AuthorizedClient :=
  { registration, principalName := "alice", accessToken := { value := "a1" } }

def engine (secret : String) : Engine := ⟨.unlisted [web secret], ⟨[]⟩, {}⟩

def calm : Engine.Surroundings := { now := default }

/-- The client is saved under the old secret, and asked of the engine with the new one. -/
def history : History where
  kind := .disk
  clock := default
  event n :=
    [.build (engine "old"), .save (client (web "old")), .build (engine "new"),
      .resolve 1 "web" alice, .step 1 0 calm, .step 1 0 calm].getD n (.tick default)

/-- The call is of an engine built with the new registration. -/
theorem asks : history.Asks 3 1 0 "web" alice := ⟨rfl, { engine := engine "new" }, rfl, rfl⟩

theorem outcome : (history.state 6).outcome? 1 0 = some (.ok (client (web "new"))) := by
  have returned : ((history.state 6).outcome? 1 0).bind Except.toOption =
      some (client (web "new")) := by
    decide +kernel
  obtain ⟨o, ended, ok⟩ := Option.bind_eq_some_iff.1 returned
  cases o with
  | ok c =>
    cases ok
    exact ended
  | error fault => cases ok

end ChangedSecret

open ChangedSecret in
/-- The stored client has no secret; the one that is returned has the new one. -/
theorem changed_secret_returned :
    history.Asks 3 1 0 "web" alice ∧
      (history.state 6).outcome? 1 0 = some (.ok (client (web "new"))) ∧
      (client (web "new")).key = ⟨"web", "alice"⟩ ∧
      ∃ q ≤ 6, ∃ d, (history.state q).store.entry ⟨"web", "alice"⟩ = some d ∧
        client (web "new") = d.bind (web "new") := by
  obtain ⟨-, returned⟩ := returned_client_belongs_to_caller history
  obtain ⟨key, -, stored⟩ := returned 3 1 0 "web" alice asks 6 _ outcome
  exact ⟨asks, outcome, key, stored⟩

end Installation

end TokenBroker
