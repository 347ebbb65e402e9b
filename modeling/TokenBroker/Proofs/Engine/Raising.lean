import TokenBroker.Proofs.Engine.Arrival
import TokenBroker.Proofs.Interleaving.Faults

/-!
# Where a fault is raised

`Raises` lists the steps that end a call with a fault of their own: a call of the store raises, a
stored client cannot be judged, no exchange can be planned or begun, the exchange fails, or no
client can be made of its response. A refused refresh token is raised where the reply comes in,
before the stored client is dropped. All other steps towards a fault only hand it on:
`Move.to_failed` and its companions read `Move` backwards, as `Move.to_finished` does for clients.
-/

namespace TokenBroker

namespace Engine

/-- The stored client that a phase is about to judge. -/
def Phase.judges? : Phase → Option AuthorizedClient
  | .judging _ c | .rejudging _ _ c => some c
  | _ => none

/-- With its next step, in its surroundings and a shared state, a phase raises a fault. -/
inductive Raises (e : Engine) (key : Key) (env : Surroundings) (s : Shared) : Phase → Fault → Prop
  | store {p fault} (asks : p.asksStore = true) (raised : env.storeFault = some fault) :
      Raises e key env s p fault
  | unjudged {p c fault} (judges : p.judges? = some c)
      (unjudged : e.isUsable c env.now = .error fault) :
      Raises e key env s p fault
  | unplanned {r a f t} (loads : Loads env key s none t)
      (unplanned : e.plan key r none = .error f) :
      Raises e key env s (.reloading r a) (.failure f)
  | replanned {r a c f} (judged : e.isUsable c env.now = .ok false)
      (unplanned : e.plan key r (some c) = .error f) : Raises e key env s (.rejudging r a c)
      (.failure f)
  | mismatched {a p issuedAt f} (refused : p.client.begin p.request = .error f) :
      Raises e key env s (.sending a p issuedAt) (.failure f)
  | exchange {a p issuedAt sent ticket fault} (failed : env.result sent = .error fault) :
      Raises e key env s (.receiving a p issuedAt sent ticket) (fault.ofExchange key)
  | unmade {a p issuedAt sent ticket response fault} (answered : env.result sent = .ok response)
      (unmade : e.clientOf key p issuedAt response = .error fault) :
      Raises e key env s (.receiving a p issuedAt sent ticket) fault

variable {e : Engine} {key : Key} {env : Surroundings} {s t : Shared} {p q : Phase} {fault : Fault}
  {r : ClientRegistration} {c : AuthorizedClient} {f : Failure} {a : Nat}

/-- A refusal that ends a refresh is that of a failed acquisition. -/
theorem ofExchange_of_isInvalidGrant (key : Key) (refused : f.isInvalidGrant = true) :
    (Fault.failure f).ofExchange key = .failure (.acquisitionFailed key.registrationId f true) := by
  simp only [Fault.ofExchange, Failure.isExchangeFailure_of_isInvalidGrant refused, if_true]

/-- An exchange whose fault is published raises it. -/
theorem raises_of_settle {pl : Plan} {issuedAt : DateTime} {sent : Transmission} {ticket : Nat}
    (settled : (e.settle key a pl issuedAt (env.result sent)).1 = .publishing a (.error fault)) :
    Raises e key env s (.receiving a pl issuedAt sent ticket) fault := by
  cases result : env.result sent with
  | ok response =>
    rw [result] at settled
    cases made : e.clientOf key pl issuedAt response with
    | ok c =>
      simp only [settle, made] at settled
      cases settled
    | error fault' =>
      simp only [settle, made] at settled
      cases settled
      exact .unmade result made
  | error fault' =>
    rw [result] at settled
    -- a refused refresh does not publish, but drops the stored client first
    by_cases refused : ∃ f, fault' = .failure f ∧ (pl.previous.isSome && f.isInvalidGrant) = true
    · obtain ⟨f, rfl, refused⟩ := refused
      have invalid : f.isInvalidGrant = true := by
        rw [Bool.and_eq_true] at refused
        exact refused.2
      simp only [settle, Failure.isExchangeFailure_of_isInvalidGrant invalid, refused,
        if_true] at settled
      cases settled
    · have other : ∀ f, fault' = .failure f → (pl.previous.isSome && f.isInvalidGrant) = false :=
        fun f same => Bool.eq_false_iff.2 fun h => refused ⟨f, same, h⟩
      rw [settle_error other] at settled
      cases settled
      exact .exchange result

namespace Move

/-- A call ends with a fault that it raises, or that an attempt has ended with. -/
theorem to_failed (h : Move e key env s p t (.finished (.error fault))) :
    Raises e key env s p fault ∨
    (∃ a, p = .waiting a ∧ s.outcomes[a]? = some (some (.error fault))) ∨
      ∃ a, p = .releasing a (.error fault) := by
  generalize hq : Phase.finished (.error fault) = q at h
  cases h with
  | loadFails raised =>
    cases hq
    exact .inl (.store rfl raised)
  | judgeFails unjudged =>
    cases hq
    exact .inl (.unjudged rfl unjudged)
  | hears published =>
    cases hq
    exact .inr (.inl ⟨_, rfl, published⟩)
  | releases =>
    cases hq
    exact .inr (.inr ⟨_, rfl⟩)
  | reloadsNone | rejudgesExpired => exact absurd hq (proceed_ne _ (fun _ => nofun) fun _ => nofun)
  | _ => cases hq

/-- A call that goes on to publish a fault could make no plan. -/
theorem eq_of_proceed_publishing {b : Nat} {existing : Option AuthorizedClient}
    (h : Phase.publishing a (.error fault) = e.proceed key r b existing) :
    a = b ∧ ∃ f, e.plan key r existing = .error f ∧ fault = .failure f := by
  rcases proceed_cases e key r b existing with ⟨pl, -, hp⟩ | ⟨f, unplanned, hp⟩
  · rw [hp] at h
    cases h
  · rw [hp] at h
    cases h
    exact ⟨rfl, f, unplanned, rfl⟩

/-- A leader publishes a fault that it raises, or a refusal whose client it has dropped. -/
theorem to_publishing_error (h : Move e key env s p t (.publishing a (.error fault))) :
    Raises e key env s p fault ∨ ∃ f, p = .dropping a f ∧
      fault = .failure (.acquisitionFailed key.registrationId f true) := by
  generalize hq : Phase.publishing a (.error fault) = q at h
  cases h with
  | reloadFails raised | dropFails raised | saveFails raised =>
    cases hq
    exact .inl (.store rfl raised)
  | rejudgeFails unjudged =>
    cases hq
    exact .inl (.unjudged rfl unjudged)
  | reloadsNone loads =>
    obtain ⟨rfl, f, unplanned, rfl⟩ := eq_of_proceed_publishing hq
    exact .inl (.unplanned loads unplanned)
  | rejudgesExpired judged =>
    obtain ⟨rfl, f, unplanned, rfl⟩ := eq_of_proceed_publishing hq
    exact .inl (.replanned judged unplanned)
  | mismatches refused =>
    cases hq
    exact .inl (.mismatched refused)
  | fails settled =>
    cases hq
    exact .inl (raises_of_settle settled)
  | drops =>
    cases hq
    exact .inr ⟨_, rfl, rfl⟩
  | _ => cases hq

/-- Whoever publishes an outcome has led the attempt. -/
theorem leads_of_publishing {o : Outcome} (h : Move e key env s p t (.publishing a o)) :
    p.leads? = some a := by
  generalize hq : Phase.publishing a o = q at h
  cases h with
  | reloadsNone | rejudgesExpired =>
    have standing := standing_proceed e key
    have leads := congrArg (·.standing) hq
    simp only [standing] at leads
    cases leads
    rfl
  | reloadFails | rejudgeFails | rejudgesUsable | mismatches | fails | dropFails | drops | saveFails
    | saves =>
    cases hq
    rfl
  | _ => cases hq

/-- A refusal is raised where the reply comes in. -/
theorem to_dropping (h : Move e key env s p t (.dropping a f)) :
    Raises e key env s p (.failure (.acquisitionFailed key.registrationId f true)) := by
  generalize hq : Phase.dropping a f = q at h
  cases h with
  | isRefused failed refreshing refused =>
    cases hq
    rw [← ofExchange_of_isInvalidGrant key refused]
    exact .exchange failed
  | reloadsNone | rejudgesExpired => exact absurd hq (proceed_ne _ (fun _ => nofun) fun _ => nofun)
  | _ => cases hq

/-- Only a leader removes a refused client. -/
theorem leads_of_dropping (h : Move e key env s p t (.dropping a f)) : p.leads? = some a := by
  generalize hq : Phase.dropping a f = q at h
  cases h with
  | isRefused =>
    cases hq
    rfl
  | reloadsNone | rejudgesExpired => exact absurd hq (proceed_ne _ (fun _ => nofun) fun _ => nofun)
  | _ => cases hq

end Move

end Engine

end TokenBroker
