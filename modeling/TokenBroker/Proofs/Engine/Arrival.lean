import TokenBroker.Proofs.Engine.Move

/-!
# How a call arrives at a phase

`Move` read backwards: for the phases in which a call holds a client, the moves that lead there.
Each phase on the way of an exchange has one kind of move into it. A client is published after it
has been judged usable or saved (`Move.to_publishing`), and a call that ends with a client has
judged it usable, heard it or published it (`Move.to_finished`).
-/

namespace TokenBroker

namespace Engine

variable {e : Engine} {key : Key} {env : Surroundings} {s t : Shared} {p q : Phase}
  {reg : ClientRegistration} {c : AuthorizedClient} {pl : Plan} {issuedAt : DateTime} {a : Nat}
  {o : Outcome}

theorem proceed_ne (existing : Option AuthorizedClient) (stamping : ∀ pl, q ≠ .stamping a pl)
    (publishing : ∀ fault, q ≠ .publishing a (.error fault)) :
    q ≠ e.proceed key reg a existing := by
  rcases proceed_cases e key reg a existing with ⟨pl, -, h⟩ | ⟨f, -, h⟩
  · rw [h]
    exact stamping pl
  · rw [h]
    exact publishing _

theorem start_ne (loading : ∀ reg, q ≠ .loading reg)
    (ended : ∀ fault, q ≠ .finished (.error fault)) :
    e.start key ≠ q := by
  unfold start
  cases e.source.find? key.registrationId with
  | none => exact (ended _).symm
  | some reg => exact (loading reg).symm

namespace Move

/-- A client is judged after it was loaded. -/
theorem to_judging (h : Move e key env s p t (.judging reg c)) :
    p = .loading reg ∧ Loads env key s (some c) t := by
  generalize hq : Phase.judging reg c = q at h
  cases h with
  | loadsSome loads =>
    cases hq
    exact ⟨rfl, loads⟩
  | reloadsNone | rejudgesExpired => exact absurd hq (proceed_ne _ (fun _ => nofun) fun _ => nofun)
  | _ => cases hq

/-- A client is judged again after it was loaded again. -/
theorem to_rejudging (h : Move e key env s p t (.rejudging reg a c)) :
    p = .reloading reg a ∧ Loads env key s (some c) t := by
  generalize hq : Phase.rejudging reg a c = q at h
  cases h with
  | reloadsSome loads =>
    cases hq
    exact ⟨rfl, loads⟩
  | reloadsNone | rejudgesExpired => exact absurd hq (proceed_ne _ (fun _ => nofun) fun _ => nofun)
  | _ => cases hq

/-- A request is sent at the time that was stamped on it. -/
theorem to_sending (h : Move e key env s p t (.sending a pl issuedAt)) :
    p = .stamping a pl ∧ issuedAt = env.now := by
  generalize hq : Phase.sending a pl issuedAt = q at h
  cases h with
  | stamps =>
    cases hq
    exact ⟨rfl, rfl⟩
  | reloadsNone | rejudgesExpired => exact absurd hq (proceed_ne _ (fun _ => nofun) fun _ => nofun)
  | _ => cases hq

/-- An answer is received to a request that was sent. -/
theorem to_receiving {sent : Transmission} {ticket : Nat}
    (h : Move e key env s p t (.receiving a pl issuedAt sent ticket)) :
    p = .sending a pl issuedAt := by
  generalize hq : Phase.receiving a pl issuedAt sent ticket = q at h
  cases h with
  | sends =>
    cases hq
    rfl
  | reloadsNone | rejudgesExpired => exact absurd hq (proceed_ne _ (fun _ => nofun) fun _ => nofun)
  | _ => cases hq

/-- A client is saved that was made of the answer. -/
theorem to_saving {g : GrantType} (h : Move e key env s p t (.saving a g c)) :
    ∃ pl issuedAt sent ticket response, p = .receiving a pl issuedAt sent ticket ∧
      e.clientOf key pl issuedAt response = .ok c := by
  generalize hq : Phase.saving a g c = q at h
  cases h with
  | obtains _ made =>
    cases hq
    exact ⟨_, _, _, _, _, rfl, made⟩
  | reloadsNone | rejudgesExpired => exact absurd hq (proceed_ne _ (fun _ => nofun) fun _ => nofun)
  | _ => cases hq

/-- A client that is published was found usable in the store or has been saved. -/
theorem to_publishing (h : Move e key env s p t (.publishing a (.ok c))) :
    (∃ reg old, p = .rejudging reg a old ∧ e.isUsable old env.now = .ok true ∧ c = old.bind reg) ∨
      ∃ g, p = .saving a g c := by
  generalize hq : Phase.publishing a (.ok c) = q at h
  cases h with
  | rejudgesUsable judged =>
    cases hq
    exact .inl ⟨_, _, rfl, judged, rfl⟩
  | saves =>
    cases hq
    exact .inr ⟨_, rfl⟩
  | reloadsNone | rejudgesExpired => exact absurd hq (proceed_ne _ (fun _ => nofun) fun _ => nofun)
  | _ => cases hq

/-- A key is given back after the outcome was published. -/
theorem to_releasing (h : Move e key env s p t (.releasing a o)) : p = .publishing a o := by
  generalize hq : Phase.releasing a o = q at h
  cases h with
  | publishes =>
    cases hq
    rfl
  | reloadsNone | rejudgesExpired => exact absurd hq (proceed_ne _ (fun _ => nofun) fun _ => nofun)
  | _ => cases hq

/-- A call ends with a client that is usable, that another call published, or that it published
itself. -/
theorem to_finished (h : Move e key env s p t (.finished (.ok c))) :
    (∃ reg old, p = .judging reg old ∧ e.isUsable old env.now = .ok true ∧ c = old.bind reg) ∨
      (∃ a, p = .waiting a ∧ s.outcomes[a]? = some (some (.ok c))) ∨
      ∃ a, p = .releasing a (.ok c) := by
  generalize hq : Phase.finished (.ok c) = q at h
  cases h with
  | judgesUsable judged =>
    cases hq
    exact .inl ⟨_, _, rfl, judged, rfl⟩
  | hears published =>
    cases hq
    exact .inr (.inl ⟨_, rfl, published⟩)
  | releases =>
    cases hq
    exact .inr (.inr ⟨_, rfl⟩)
  | reloadsNone | rejudgesExpired => exact absurd hq (proceed_ne _ (fun _ => nofun) fun _ => nofun)
  | _ => cases hq

/-- An outcome is published by the leader of its attempt and in no other way. -/
theorem outcome_from (h : Move e key env s p t q) (published : t.outcomes[a]? = some (some o)) :
    s.outcomes[a]? = some (some o) ∨ p = .publishing a o := by
  cases h with
  | loadsNone loads | loadsSome loads | reloadsNone loads | reloadsSome loads =>
    rw [loads.outcomes] at published
    exact .inl published
  | leads =>
    simp only [List.getElem?_append] at published
    split at published
    · exact .inl published
    · rw [List.getElem?_singleton] at published
      split at published
      · cases published
      · cases published
  | @publishes b o' =>
    simp only [List.getElem?_set] at published
    split at published
    · next hba =>
      split at published
      · cases published
        rw [hba]
        exact .inr rfl
      · cases published
    · exact .inl published
  | _ => exact .inl published

end Move

end Engine

end TokenBroker
