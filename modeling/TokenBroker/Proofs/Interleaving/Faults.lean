import TokenBroker.Proofs.Engine.Alone
import TokenBroker.Proofs.Interleaving.Sharing

/-!
# Calls that a fault strikes

A fault may strike a call wherever it has to do with something else: a call of the store raises, a
stored client cannot be judged, the exchange ends in an error, or no client can be made of the
response (`Trouble.Strikes`). Until it publishes, a call has changed nothing but that it may have
taken its key for a new attempt (`Intact`); from the fault on it only publishes and gives the key
back.

`fault_leaves_engine_as_it_was` is what comes of this for a call from any reachable state: the fault
is raised, the entries and the keys in flight are those before the call, and so is what the next
call does. The one exception is a refused refresh token, whose client is removed.
-/

namespace TokenBroker

/-- What a call raises for a fault of its exchange: a failure of a token exchange is wrapped, and
any other fault is raised as it is. -/
def Fault.ofExchange (key : Key) : Fault → Fault
  | .failure f =>
    if f.isExchangeFailure then .failure (.acquisitionFailed key.registrationId f true)
    else .failure f
  | fault => fault

namespace Engine

variable {e : Engine} {key : Key} {env : Surroundings} {s t t' : Shared} {p q : Phase} {n : Nat}

/-! ## Where a fault strikes -/

/-- The next step of a phase calls the store. -/
def Phase.asksStore : Phase → Bool
  | .loading _ | .reloading .. | .dropping .. | .saving .. => true
  | _ => false

/-- What goes wrong in a call. -/
inductive Trouble
  /-- A load, a save or a removal raises. -/
  | store (fault : Fault)
  /-- The exchange ends in a fault. -/
  | exchange (fault : Fault)
  /-- The exchange ends with a refresh token that is refused for good. -/
  | refused (f : Failure)
  /-- A stored client cannot be judged, or none can be made of a response. -/
  | client (fault : Fault)

namespace Trouble

/-- The next step of a phase, in its surroundings, meets with a trouble. -/
inductive Strikes (e : Engine) (key : Key) (env : Surroundings) : Phase → Trouble → Prop
  | store {p fault} (asks : p.asksStore = true) (raised : env.storeFault = some fault) :
      Strikes e key env p (.store fault)
  | judging {r c fault} (unjudged : e.isUsable c env.now = .error fault) :
      Strikes e key env (.judging r c) (.client fault)
  | rejudging {r a c fault} (unjudged : e.isUsable c env.now = .error fault) :
      Strikes e key env (.rejudging r a c) (.client fault)
  | sending {a p issuedAt f} (mismatched : p.client.begin p.request = .error f) :
      Strikes e key env (.sending a p issuedAt) (.exchange (.failure f))
  | exchange {a p issuedAt sent ticket fault} (failed : env.result sent = .error fault)
      (other : ∀ f, fault = .failure f → (p.previous.isSome && f.isInvalidGrant) = false) :
      Strikes e key env (.receiving a p issuedAt sent ticket) (.exchange fault)
  | refused {a p issuedAt sent ticket f} (failed : env.result sent = .error (.failure f))
      (refreshing : p.previous.isSome = true) (refused : f.isInvalidGrant = true) :
      Strikes e key env (.receiving a p issuedAt sent ticket) (.refused f)
  | making {a p issuedAt sent ticket response fault} (answered : env.result sent = .ok response)
      (unmade : e.clientOf key p issuedAt response = .error fault) :
      Strikes e key env (.receiving a p issuedAt sent ticket) (.client fault)

/-- What the call raises, `env` being the surroundings of the step after the one in trouble. -/
def raised (key : Key) (env : Surroundings) : Trouble → Fault
  | .store fault | .client fault => fault
  | .exchange fault => fault.ofExchange key
  | .refused f => env.storeFault.getD (.failure (.acquisitionFailed key.registrationId f true))

/-- A client is removed: its refresh token has been refused, and the removal does not raise. -/
def removes (env : Surroundings) : Trouble → Bool
  | .refused _ => env.storeFault.isNone
  | _ => false

end Trouble

/-- An exchange that fails, other than by a refused refresh token, has its fault published. -/
theorem settle_error {a : Nat} {pl : Plan} {issuedAt : DateTime} {fault : Fault}
    (other : ∀ f, fault = .failure f → (pl.previous.isSome && f.isInvalidGrant) = false) :
    (e.settle key a pl issuedAt (.error fault)).1 = .publishing a
      (.error (fault.ofExchange key)) := by
  cases fault with
  | failure f =>
    simp only [settle, Fault.ofExchange, other f rfl]
    split <;> rfl
  | _ => rfl

/-- A call in trouble ends at once if it leads no attempt, and else goes on to publish what it
raises; a refused refresh token is dropped first. Nothing shared changes by it. -/
theorem Trouble.Strikes.next {trouble : Trouble} (struck : trouble.Strikes e key env p) (t : Shared)
    (after : Surroundings) :
    ∃ q log, e.step key env t p = some ⟨t, q, log⟩ ∧
      ((p.leads? = none ∧ trouble.removes after = false ∧
          q = .finished (.error (trouble.raised key after))) ∨
        ∃ a, p.leads? = some a ∧
          ((trouble.removes after = false ∧ q = .publishing a (.error (trouble.raised key after))) ∨
            ∃ f, trouble = .refused f ∧ q = .dropping a f)) := by
  cases struck with
  | @store p fault asks raised =>
    cases p with
    | loading r => exact ⟨_, _, by simp only [step, load, raised]; rfl, .inl ⟨rfl, rfl, rfl⟩⟩
    | reloading r a =>
      exact ⟨_, _, by simp only [step, load, raised]; rfl, .inr ⟨a, rfl, .inl ⟨rfl, rfl⟩⟩⟩
    | dropping a | saving a =>
      exact ⟨_, _, by simp only [step, raised]; rfl, .inr ⟨a, rfl, .inl ⟨rfl, rfl⟩⟩⟩
    | _ => cases asks
  | judging unjudged =>
    exact ⟨_, _, by simp only [step, unjudged]; rfl, .inl ⟨rfl, rfl, rfl⟩⟩
  | @rejudging r a c fault unjudged =>
    exact ⟨_, _, by simp only [step, unjudged]; rfl, .inr ⟨a, rfl, .inl ⟨rfl, rfl⟩⟩⟩
  | @sending a pl issuedAt f mismatched =>
    -- a mismatch is no failure of an exchange, so it is not wrapped
    have asRaised : (Fault.failure f).ofExchange key = .failure f := by
      simp [Fault.ofExchange, begin_eq_error mismatched]
    refine ⟨_, _, by simp only [step, mismatched, settle_of_begin mismatched]; rfl, ?_⟩
    exact .inr ⟨a, rfl, .inl ⟨rfl, by rw [Trouble.raised, asRaised]⟩⟩
  | @exchange a pl issuedAt sent ticket fault failed other =>
    refine ⟨_, _, by simp only [step]; rfl, .inr ⟨a, rfl, .inl ⟨rfl, ?_⟩⟩⟩
    rw [failed]
    exact settle_error other
  | @refused a pl issuedAt sent ticket f failed refreshing refused =>
    refine ⟨_, _, by simp only [step]; rfl, .inr ⟨a, rfl, .inr ⟨f, rfl, ?_⟩⟩⟩
    rw [failed]
    simp [settle, Failure.isExchangeFailure_of_isInvalidGrant refused, refreshing, refused]
  | @making a pl issuedAt sent ticket response fault answered unmade =>
    refine ⟨_, _, by simp only [step]; rfl, .inr ⟨a, rfl, .inl ⟨rfl, ?_⟩⟩⟩
    rw [answered]
    simp [settle, unmade, Trouble.raised]

/-! ## What a call has changed before it publishes -/

/-- A call has changed no entry, and of the rest at most that its key is taken for a new attempt,
the one that it leads. -/
inductive Intact (key : Key) (s : Shared) : Shared → Option Nat → Prop
  | apart {u : Store} (same : u.Same s.store) : Intact key s { s with store := u } none
  | leads {u : Store} (same : u.Same s.store) (free : s.inFlight.get? key = none) :
      Intact key s
        { store := u
          inFlight := s.inFlight.put key s.outcomes.length
          outcomes := s.outcomes ++ [none] }
        (some s.outcomes.length)

theorem Intact.refl (key : Key) (s : Shared) : Intact key s s none :=
  .apart ⟨fun _ => rfl, rfl⟩

/-- Loading a client leaves the key as the call found it. -/
theorem Intact.loads {c : Option AuthorizedClient} {a : Option Nat} (h : Intact key s t a)
    (loads : Loads env key t c t') : Intact key s t' a := by
  obtain ⟨v, inFlight, outcomes⟩ := t'
  obtain rfl : inFlight = t.inFlight := loads.inFlight
  obtain rfl : outcomes = t.outcomes := loads.outcomes
  cases h with
  | apart same =>
    exact .apart ⟨fun k => (loads.entry k).trans (same.entry k), loads.kind.trans same.kind⟩
  | leads same free =>
    exact .leads ⟨fun k => (loads.entry k).trans (same.entry k), loads.kind.trans same.kind⟩ free

/-- Going on to an attempt leaves the key as the call found it. -/
theorem Intact.proceeds {r : ClientRegistration} {a : Nat} {existing : Option AuthorizedClient}
    (h : Intact key s t (some a)) :
    (e.proceed key r a existing).settled? = none →
      Intact key s t (e.proceed key r a existing).leads? := by
  rcases proceed_cases e key r a existing with ⟨pl, -, hp⟩ | ⟨f, -, hp⟩
  · rw [hp]
    exact fun _ => h
  · rw [hp]
    intro publishing
    cases publishing

/-- What a call does before it has its outcome leaves its key as it was. -/
theorem Move.intact (move : Move e key env t p t' q)
    (h : p.settled? = none → Intact key s t p.leads?) :
    q.settled? = none → Intact key s t' q.leads? := by
  cases move with
  | loadsNone loads | loadsSome loads | reloadsSome loads => exact fun _ => (h rfl).loads loads
  | reloadsNone loads => exact ((h rfl).loads loads).proceeds
  | rejudgesExpired => exact (h rfl).proceeds
  | judgesExpired | joins | stamps | sends | obtains | isRefused => exact fun _ => h rfl
  | leads free =>
    intro _
    cases h rfl with
    | apart same => exact .leads same free
  | _ => intro settled; cases settled

/-- A call that runs alone leaves its key as it was until it has its outcome. -/
theorem alone_intact {env : Nat → Surroundings} (n : Nat)
    (unsettled : (e.alone key env s n).2.settled? = none) :
    Intact key s (e.alone key env s n).1 (e.alone key env s n).2.leads? := by
  refine alone_induction (P := fun t p => p.settled? = none → Intact key s t p.leads?) ?_
    (fun move h => move.intact h) n unsettled
  unfold start
  cases e.source.find? key.registrationId with
  | none => intro settled; cases settled
  | some r => exact fun _ => .refl key s

/-! ## How a call in trouble ends -/

/-- Trouble strikes only a call that has no outcome yet. -/
theorem Trouble.Strikes.unsettled {trouble : Trouble} (struck : trouble.Strikes e key env p) :
    p.settled? = none := by
  cases struck with
  | store asks =>
    cases p with
    | loading | reloading | dropping | saving => rfl
    | _ => cases asks
  | _ => rfl

section

variable {env : Nat → Surroundings} {m : Nat}

/-- A call that has taken its key for a new attempt leaves no trace but the outcome of the
attempt. -/
theorem alone_of_publishing_new {u : Store} {o : Outcome} (free : s.inFlight.get? key = none)
    (publishing : e.alone key env s n =
      ({ store := u
         inFlight := s.inFlight.put key s.outcomes.length
         outcomes := s.outcomes ++ [none] },
        .publishing s.outcomes.length o))
    (hnm : n + 2 ≤ m) :
    e.alone key env s m =
      ({ store := u, inFlight := s.inFlight, outcomes := s.outcomes ++ [some o] },
        .finished o) := by
  refine alone_of_finished ?_ hnm
  rw [alone_of_publishing publishing]
  simp [Table.erase_put_of_get? free]

/-- A call in trouble ends with what it raises, the entries as they were or less a refused client,
the keys in flight as they were, and one attempt more at most. -/
theorem Trouble.Strikes.ends {trouble : Trouble}
    (struck : trouble.Strikes e key (env n) (e.alone key env s n).2) :
    ∃ u outcomes,
      u.Same (if trouble.removes (env (n + 1)) then s.store.remove key else s.store) ∧
        s.outcomes <+: outcomes ∧
        ∀ m, n + 4 ≤ m → e.alone key env s m =
          ({ store := u, inFlight := s.inFlight, outcomes },
            .finished (.error (trouble.raised key (env (n + 1))))) := by
  have intact := alone_intact n struck.unsettled
  obtain ⟨q, log, step_n, next⟩ := struck.next (e.alone key env s n).1 (env (n + 1))
  have at_succ := alone_succ_of_step rfl step_n
  generalize (e.alone key env s n).1 = t at intact at_succ
  generalize (e.alone key env s n).2 = p at struck intact next
  let published := s.outcomes ++ [some (.error (trouble.raised key (env (n + 1))))]
  rcases next with ⟨apart, kept, rfl⟩ | ⟨a, leads, ⟨kept, rfl⟩ | ⟨f, rfl, rfl⟩⟩
  · rw [apart] at intact
    cases intact with
    | @apart u same =>
      refine ⟨u, s.outcomes, by rw [kept]; exact same, List.prefix_rfl, ?_⟩
      intro m hm
      exact alone_of_finished at_succ (by omega)
  · rw [leads] at intact
    cases intact with
    | @leads u same free =>
      refine ⟨u, published, by rw [kept]; exact same, List.prefix_append _ _, ?_⟩
      intro m hm
      exact alone_of_publishing_new free at_succ (by omega)
  · rw [leads] at intact
    cases intact with
    | @leads u same free =>
      -- the removal of the refused client may raise in its turn
      cases raised : (env (n + 1)).storeFault with
      | some fault =>
        have publishing := alone_succ_of_step at_succ (by simp only [step, raised]; rfl)
        refine ⟨u, published,
          by simpa [Trouble.removes, raised] using same, List.prefix_append _ _, ?_⟩
        intro m hm
        unfold published
        rw [Trouble.raised, raised]
        exact alone_of_publishing_new free publishing (by omega)
      | none =>
        have publishing := alone_succ_of_step at_succ (by simp only [step, raised]; rfl)
        refine ⟨u.remove key, published, by simpa [Trouble.removes, raised] using same.remove key,
          List.prefix_append _ _, ?_⟩
        intro m hm
        unfold published
        rw [Trouble.raised, raised]
        exact alone_of_publishing_new free publishing (by omega)

end

/-! ## Afterwards -/

/-- **A fault leaves the engine as it was.** A call is made from any reachable state and takes its
steps in any surroundings, and one of them meets with a trouble. Then the call ends with the fault
of the trouble: that of the store or of the engine as it is, also where it strikes the removal of a
refused client or the save after the exchange, and that of the exchange wrapped if it is a failure
of a token exchange. The entries and the keys in flight are those before the call, except that a
client whose refresh token was refused is gone if its removal did not raise; and the next call for
the key, in any surroundings, runs as it would have from the state that is left, but for the numbers
of attempts. -/
theorem fault_leaves_engine_as_it_was (r : Interleaving) (m : Nat) (key : Key)
    (env : Nat → Surroundings) (n : Nat) (trouble : Trouble)
    (struck : trouble.Strikes r.engine key (env n)
      (r.engine.alone key env (r.scene m).shared n).2) :
    let e := r.engine
    let s := (r.scene m).shared
    let removed := trouble.removes (env (n + 1))
    let left : Shared := if removed then { s with store := s.store.remove key } else s
    ∃ t : Shared,
      (∀ q, n + 4 ≤ q →
        e.alone key env s q = (t, .finished (.error (trouble.raised key (env (n + 1)))))) ∧
      (∀ l, t.store.entry l = if removed ∧ l = key then none else s.store.entry l) ∧
      t.inFlight = s.inFlight ∧
      ∀ next q, ∃ f, (e.alone key next t q).2 = (e.alone key next left q).2.renumber f ∧
        ∀ l, (e.alone key next t q).1.store.entry l =
          (e.alone key next left q).1.store.entry l := by
  intro e s removed left
  obtain ⟨u, outcomes, same, earlier, ends⟩ := struck.ends
  have left_eq : left =
      { s with store := if removed then s.store.remove key else s.store } := by
    unfold left
    cases removed <;> rfl
  -- an attempt that holds the key is one of those made so far
  have made : ∀ a, left.inFlight.get? key = some a → a < left.outcomes.length := by
    rw [left_eq]
    intro a taken
    obtain ⟨i, leads⟩ := (r.coordinated m).holder taken
    exact (r.coordinated m).attempt_lt leads
  refine ⟨_, ends, ?_, rfl, ?_⟩
  · intro l
    rw [same.entry l]
    by_cases removing : removed = true
    · by_cases hl : l = key
      · rw [if_pos removing, if_pos ⟨removing, hl⟩, hl, Store.entry_remove_self]
      · rw [if_pos removing, if_neg fun h => hl h.2, Store.entry_remove_of_ne hl]
    · rw [if_neg removing, if_neg fun h => removing h.1]
  · intro next q
    -- for the key the two states differ only by the attempt that came to nothing
    have alike : Alike key id { store := u, inFlight := s.inFlight, outcomes } left := by
      refine .of_earlier made ?_ ?_ ?_ <;> rw [left_eq]
      · exact same
      · exact earlier
    obtain ⟨f, alike_q, phase, -⟩ := alone_alike e next alike q
    refine ⟨f, phase, ?_⟩
    intro l
    by_cases hl : l = key
    · rw [hl]
      exact alike_q.entry.symm
    · rw [alone_entry_of_ne hl, alone_entry_of_ne hl, left_eq]
      exact same.entry l

/-! ## A removal that raises -/

namespace FailedRemoval

def now : DateTime := default

def web : ClientRegistration :=
  { registrationId := "web", clientId := "app", grantType := .authorizationCode,
    tokenUri := "/token" }

def service : ClientRegistration :=
  { registrationId := "svc", clientId := "svc", grantType := .clientCredentials,
    tokenUri := "/token" }

def alice : Key := ⟨"web", "alice"⟩

def system : Key := ⟨"svc", "system"⟩

/-- The client that is stored. -/
def stale : AuthorizedClient where
  registration := web
  principalName := "alice"
  accessToken := { value := "a1", expiresAt := some now }
  refreshToken := some ⟨"r1", none⟩

def refusal : Failure := .rejected "invalid_grant" .null .null .null

def diskGone : Fault := .raised "OSError" "disk gone"

def calm : Surroundings := { now }

/-- A call for the service is inside its exchange. -/
def run : Interleaving where
  engine :=
    ⟨.unlisted [web, service],
      ⟨[.plugin "Refresher" .refreshToken 0, .plugin "Requester" .clientCredentials 1]⟩, {}⟩
  clock := now
  store := .memory [(alice, stale)]
  event n :=
    [.begin system, .step 0 calm, .step 0 calm, .step 0 calm, .step 0 calm, .step 0 calm].getD
      n .pause

/-- The server refuses the refresh token, and then the disk is gone. -/
def surroundings : Nat → Surroundings
  | 7 => { calm with response := .error (.failure refusal) }
  | 8 => { calm with storeFault := some diskGone }
  | _ => calm

set_option maxRecDepth 20000 in
/-- The refusal of the store strikes the call when it removes the rejected client. -/
theorem struck :
    (Trouble.refused refusal).Strikes run.engine alice (surroundings 7)
      (run.engine.alone alice surroundings (run.scene 6).shared 7).2 :=
  .refused (p := ⟨.plugin "Refresher" .refreshToken 0,
    .refreshToken web stale.accessToken ⟨"r1", none⟩, some stale⟩) rfl rfl rfl

end FailedRemoval

open FailedRemoval in
/-- The user's call raises what the store has raised; the client is still stored, and of the two
calls the other one still holds its key. -/
theorem failed_removal_raised :
    ((Trouble.refused refusal).Strikes run.engine alice (surroundings 7)
        (run.engine.alone alice surroundings (run.scene 6).shared 7).2) ∧
      ∃ t, (∀ q, 11 ≤ q → run.engine.alone alice surroundings (run.scene 6).shared q =
          (t, .finished (.error diskGone))) ∧
        t.store.entry alice = some stale ∧ t.inFlight = [(system, 0)] := by
  obtain ⟨t, ends, entries, inFlight, -⟩ :=
    fault_leaves_engine_as_it_was run 6 alice surroundings 7 (.refused refusal) struck
  refine ⟨struck, t, ends, ?_, ?_⟩
  · rw [entries alice]
    rfl
  · rw [inFlight]
    rfl

end Engine

end TokenBroker
