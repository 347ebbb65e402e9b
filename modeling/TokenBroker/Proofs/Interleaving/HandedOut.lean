import TokenBroker.Proofs.Engine.Lifetime
import TokenBroker.Proofs.Interleaving.Origins

/-!
# Clients that are handed out

Whether a client that a call ends with can be used. A stored client is judged against the clock, by
the call itself or by the leader of the attempt that the call waits for. A client from an exchange
is handed out as it is: its lifetime is whatever the response or the default says, and the engine's
margin may be longer.

`handed_out_usable_unless_short_lived` says so for every interleaving, and `spent_client_handed_out`
is a run whose only call ends with a client that has expired when it is issued.
-/

namespace TokenBroker

namespace Engine

variable {r : Interleaving} {k : Key} {i m n : Nat} {c : AuthorizedClient}

/-- The phases whose next step reads the clock. -/
def Phase.readsClock : Phase → Bool
  | .judging .. | .rejudging .. | .stamping .. => true
  | _ => false

/-- With event `m` the clock is read for a call: by the call itself, or by the leader of an attempt
that the call waits for. -/
def Interleaving.ReadsFor (r : Interleaving) (m i : Nat) (k : Key) : Prop :=
  ∃ j p q, r.MovesAt m j k p q ∧ p.readsClock = true ∧ r.ActsFor j p i k

/-- The clock does not go back. -/
def Interleaving.Forward (r : Interleaving) : Prop :=
  ∀ n, (r.scene n).clock.notAfter (r.scene (n + 1)).clock = true

/-- A clock that never goes back shows a later time at a later event. -/
theorem Interleaving.Forward.le (h : r.Forward) (hmn : m ≤ n) :
    (r.scene m).clock.notAfter (r.scene n).clock = true := by
  induction hmn with
  | refl => exact DateTime.notAfter_refl _
  | @step n _ ih => exact DateTime.notAfter_trans ih (h n)

/-- A client that is never usable from its issue on: its lifetime is not longer than the margin. -/
structure Interleaving.ShortLived (r : Interleaving) (m : Nat) (k : Key) (c : AuthorizedClient) :
    Prop where
  issued : ∃ pl response, r.engine.clientOf k pl (r.scene m).clock response = .ok c ∧
    r.engine.lifetimeOf response ≤ r.engine.policy.clockSkew
  stale : ∀ n, m ≤ n → r.engine.Stale (r.scene n).clock c

/-- **What is handed out is usable, unless it is issued short-lived.** Whatever the interleaving,
with a clock that does not go back and a margin that is not negative: a client that a call ends with
was usable at a reading of the clock for that call, or it was issued at such a reading by an
exchange, with a lifetime no longer than the margin, and was not usable then or later. A new client
is usable at the reading at which it is issued exactly if its lifetime is longer than the margin. -/
theorem handed_out_usable_unless_short_lived (forward : r.Forward)
    (margin : 0 ≤ r.engine.policy.clockSkew)
    (given : (r.scene n).calls[i]? = some ⟨k, .finished (.ok c)⟩) :
    (∃ m < n, r.ReadsFor m i k ∧
      (r.engine.isUsable c (r.scene m).clock = .ok true ∨ r.ShortLived m k c)) ∧
      ∀ pl issuedAt response c', r.engine.clientOf k pl issuedAt response = .ok c' →
        (r.engine.isUsable c' issuedAt = .ok true ↔
          r.engine.policy.clockSkew < r.engine.lifetimeOf response) := by
  refine ⟨?_, fun _ _ _ _ made => isUsable_clientOf_iff margin made⟩
  cases Interleaving.origin given with
  | judged before moves usable bound =>
    refine ⟨_, before, ⟨i, _, _, moves, rfl, .inl rfl⟩, .inl ?_⟩
    rw [bound, isUsable_bind]
    exact usable
  | @rejudged m j a reg old before moves usable bound part =>
    refine ⟨m, before, ⟨j, _, _, moves, rfl, ?_⟩, .inl ?_⟩
    · exact part.imp_right fun ⟨q, _, waits⟩ => ⟨a, q, rfl, waits⟩
    · rw [bound, isUsable_bind]
      exact usable
  | @saved m j a g before moves part =>
    obtain ⟨m₀, earlier, pl, response, stamps, made⟩ := Interleaving.saving_from moves.at_p
    refine ⟨m₀, Nat.lt_trans earlier before, ⟨j, _, _, stamps, rfl, ?_⟩, ?_⟩
    · exact part.imp_right fun ⟨q, _, waits⟩ => ⟨a, q, rfl, waits⟩
    · rcases Int.lt_or_le r.engine.policy.clockSkew (r.engine.lifetimeOf response) with long | short
      · exact .inl ((isUsable_clientOf_iff margin made).2 long)
      · refine .inr ⟨⟨pl, response, made, short⟩, ?_⟩
        intro q hq
        exact (stale_clientOf margin made short).mono (forward.le hq)

/-! ## A client that has expired when it is issued -/

namespace SpentClient

def registration : ClientRegistration :=
  { registrationId := "svc", clientId := "app", grantType := .clientCredentials,
    tokenUri := "/token" }

def system : Key := ⟨"svc", "system"⟩

def now : DateTime := default

/-- The exchange is answered with a token that lasts no time at all. -/
def calm : Surroundings := { now, response := .ok { accessToken := "t", expiresIn := some 0 } }

def script : List Event := .begin system :: List.replicate 9 (.step 0 calm)

/-- One call, alone, on an empty store and without a margin. -/
def run : Interleaving where
  engine := ⟨.unlisted [registration], ⟨[.plugin "Issuer" .clientCredentials 0]⟩, {}⟩
  clock := now
  store := .memory []
  event n := script.getD n .pause

def client : AuthorizedClient where
  registration := registration
  principalName := "system"
  accessToken := { value := "t", issuedAt := some now, expiresAt := now.shift? 0 }

theorem clock_eq (n : Nat) : (run.scene n).clock = now := by
  refine Interleaving.clock_eq (r := run) ?_ n
  intro n later h
  rcases Event.getD_pause_cases script n with member | paused
  · rw [show script.getD n .pause = .tick later from h] at member
    simp [script] at member
  · rw [show script.getD n .pause = .tick later from h] at paused
    cases paused

/-- The clock of the run never goes back. -/
theorem forward : run.Forward := by
  intro n
  rw [clock_eq, clock_eq]
  decide +kernel

/-- The call ends with a client. -/
theorem given : (run.scene 10).calls[0]? = some ⟨system, .finished (.ok client)⟩ := by
  have ended : ((run.scene 10).calls[0]?.bind fun call => call.ends?) = some (system, client) := by
    decide +kernel
  obtain ⟨call, at_0, ends⟩ := Option.bind_eq_some_iff.1 ended
  rw [at_0, Call.eq_of_ends? ends]

/-- The client is not usable at any time of the run. -/
theorem unusable (n : Nat) : run.engine.isUsable client (run.scene n).clock ≠ .ok true := by
  have expired : (run.engine.isUsable client now).toOption = some false := by decide +kernel
  rw [clock_eq]
  intro usable
  rw [usable] at expired
  cases expired

end SpentClient

open SpentClient in
/-- The client is issued at a reading of the call, short-lived. -/
theorem spent_client_issued :
    run.Forward ∧ 0 ≤ run.engine.policy.clockSkew ∧
      (run.scene 10).calls[0]? = some ⟨system, .finished (.ok client)⟩ ∧
      ∃ m < 10, run.ReadsFor m 0 system ∧ run.ShortLived m system client := by
  refine ⟨forward, by decide, given, ?_⟩
  obtain ⟨⟨m, hm, reads, usable | short⟩, -⟩ :=
    handed_out_usable_unless_short_lived forward (by decide) given
  · exact absurd usable (unusable m)
  · exact ⟨m, hm, reads, short⟩

open SpentClient in
/-- The call ends with a client that was usable at no reading of the clock, whether for this call or
not. -/
theorem spent_client_handed_out :
    (run.scene 10).calls[0]? = some ⟨system, .finished (.ok client)⟩ ∧
      ¬ ∃ m, run.engine.isUsable client (run.scene m).clock = .ok true :=
  ⟨given, fun ⟨m, usable⟩ => unusable m usable⟩

end Engine

end TokenBroker
