import TokenBroker.Proofs.Engine.Move

/-!
# How calls stand towards attempts

Of the phase of a call, the other calls see only whether it leads an attempt, waits for one, or does
neither: its `Standing`. `Passage` says what a step means in these terms for the keys in flight and
for the published outcomes. A key is taken and given back in one kind of passage each, an outcome is
published in one, and all other steps leave both as they are (`Move.passage`).
-/

namespace TokenBroker

namespace Engine

variable {e : Engine} {key : Key} {env : Surroundings} {s t : Shared} {p q : Phase}

/-- How a call stands towards attempts. -/
inductive Standing
  /-- It neither leads nor waits, and has not ended. -/
  | apart
  | waits (attempt : Nat)
  /-- It leads an attempt whose outcome is not yet published. -/
  | leads (attempt : Nat)
  /-- It has published the outcome of its attempt and still holds its key. -/
  | published (attempt : Nat) (o : Outcome)
  | ended (o : Outcome)

/-- The standing of a call in a phase. -/
def Phase.standing : Phase → Standing
  | .loading _ | .judging .. | .claiming _ => .apart
  | .waiting a => .waits a
  | .reloading _ a | .rejudging _ a _ | .stamping a _ | .sending a _ _ | .receiving a _ _ _ _
  | .dropping a _ | .saving a _ _ | .publishing a _ => .leads a
  | .releasing a o => .published a o
  | .finished o => .ended o

/-- The attempt whose key a call of a standing holds. -/
def Standing.holds? : Standing → Option Nat
  | .leads a | .published a _ => some a
  | _ => none

@[simp] theorem holds?_standing (p : Phase) : p.standing.holds? = p.leads? := by
  cases p <;> rfl

/-- A call begins apart from every attempt, or has ended. -/
theorem standing_start (e : Engine) (key : Key) :
    (e.start key).standing = .apart ∨ ∃ o, (e.start key).standing = .ended o := by
  unfold start
  cases e.source.find? key.registrationId with
  | none => exact .inr ⟨_, rfl⟩
  | some r => exact .inl rfl

@[simp] theorem standing_proceed (e : Engine) (key : Key) (r : ClientRegistration) (a : Nat)
    (existing : Option AuthorizedClient) : (e.proceed key r a existing).standing = .leads a := by
  rcases proceed_cases e key r a existing with ⟨p, -, h⟩ | ⟨f, -, h⟩
  · rw [h]; rfl
  · rw [h]; rfl

/-- What a step of a call means for the keys in flight and the published outcomes. -/
inductive Passage (key : Key) (s : Shared) : Standing → Shared → Standing → Prop
  | stays {x t} (inFlight : t.inFlight = s.inFlight) (outcomes : t.outcomes = s.outcomes) :
      Passage key s x t x
  | ends {o} : Passage key s .apart s (.ended o)
  | joins {a} (taken : s.inFlight.get? key = some a) : Passage key s .apart s (.waits a)
  | takes (free : s.inFlight.get? key = none) :
      Passage key s .apart
        { s with
          inFlight := s.inFlight.put key s.outcomes.length
          outcomes := s.outcomes ++ [none] }
        (.leads s.outcomes.length)
  | hears {a o} (published : s.outcomes[a]? = some (some o)) :
      Passage key s (.waits a) s (.ended o)
  | publishes {a o} :
      Passage key s (.leads a) { s with outcomes := s.outcomes.set a (some o) } (.published a o)
  | givesBack {a o} :
      Passage key s (.published a o) { s with inFlight := s.inFlight.erase key } (.ended o)

/-- A step of a call is a passage of its standing. -/
theorem Move.passage (h : Move e key env s p t q) : Passage key s p.standing t q.standing := by
  cases h with
  | loadFails | judgeFails | judgesUsable => exact .ends
  | joins taken => exact .joins taken
  | leads free => exact .takes free
  | hears published => exact .hears published
  | reloadsNone loads => rw [standing_proceed]; exact .stays loads.inFlight loads.outcomes
  | rejudgesExpired => rw [standing_proceed]; exact .stays rfl rfl
  | loadsNone loads | loadsSome loads | reloadsSome loads =>
    exact .stays loads.inFlight loads.outcomes
  | publishes => exact .publishes
  | releases => exact .givesBack
  | _ => exact .stays rfl rfl

/-! ## Attempts -/

/-- A step makes one attempt at most. -/
theorem Move.attempts_le (h : Move e key env s p t q) :
    t.outcomes.length ≤ s.outcomes.length + 1 := by
  have passage := h.passage
  generalize p.standing = x at passage
  generalize q.standing = y at passage
  cases passage with
  | stays _ outcomes => rw [outcomes]; omega
  | ends | joins | hears | givesBack => exact Nat.le_succ _
  | takes | publishes => simp

/-- No attempt is forgotten. -/
theorem Move.attempts_kept (h : Move e key env s p t q) :
    s.outcomes.length ≤ t.outcomes.length := by
  have passage := h.passage
  generalize p.standing = x at passage
  generalize q.standing = y at passage
  cases passage with
  | stays _ outcomes => exact Nat.le_of_eq (congrArg List.length outcomes.symm)
  | ends | joins | hears | givesBack => exact Nat.le_refl _
  | takes | publishes => simp

/-- An attempt that a call leads after a step, it has led before or is new. -/
theorem Move.leads_from {a : Nat} (h : Move e key env s p t q) (leads : q.leads? = some a) :
    p.leads? = some a ∨ a = s.outcomes.length := by
  have passage := h.passage
  rw [← holds?_standing] at leads ⊢
  generalize p.standing = x at passage ⊢
  generalize q.standing = y at passage leads
  cases passage with
  | stays => exact .inl leads
  | takes => cases leads; exact .inr rfl
  | publishes => exact .inl leads
  | ends | joins | hears | givesBack => cases leads

end Engine

end TokenBroker
