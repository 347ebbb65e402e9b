import TokenBroker.Proofs.Engine.Freshness
import TokenBroker.Proofs.Time.Calendar

/-!
# Lifetimes

A client is usable until the end of its lifetime less the engine's margin, which has to be a time of
the calendar (`isUsable_iff`). A client that an exchange makes is given its lifetime from the time
of issue on, and nobody compares that lifetime with the margin: such a client is usable when it is
issued just if it lasts longer than the margin (`isUsable_clientOf_iff`).
-/

namespace TokenBroker

namespace Engine

variable {e : Engine} {key : Key} {p : Plan} {issuedAt now : DateTime} {response : TokenResponse}
  {c : AuthorizedClient}

/-- A client is usable exactly if its expiry less the skew is within the calendar and yet to
come. -/
theorem isUsable_iff : e.isUsable c now = .ok true ↔
    ∀ expiresAt, c.accessToken.expiresAt = some expiresAt →
      (∃ limit, expiresAt.shift? (-e.skew) = some limit) ∧
      now.instant < expiresAt.instant - e.skew := by
  unfold isUsable
  rw [AccessToken.isExpired_eq_limit]
  cases expires : c.accessToken.expiresAt with
  | none => simp [Except.map]
  | some expiresAt =>
    simp only [Option.some.injEq, forall_eq']
    cases shifted : expiresAt.shift? (-e.skew) with
    | none => simp [Except.map]
    | some limit =>
      have later := DateTime.instant_of_shift? shifted
      simp only [Except.map, Except.ok.injEq, Bool.not_eq_true', DateTime.notAfter,
        decide_eq_false_iff_not, Option.some.injEq, exists_eq', true_and]
      omega

/-- A client cannot be judged if its end less the margin is out of the calendar. -/
theorem undated_of_isUsable {fault : Fault} (h : e.isUsable c now = .error fault) :
    fault = .dateOutOfRange ∧
      ∃ expiresAt, c.accessToken.expiresAt = some expiresAt ∧
      expiresAt.shift? (-e.skew) = none := by
  unfold isUsable at h
  rw [AccessToken.isExpired_eq_limit] at h
  cases expires : c.accessToken.expiresAt with
  | none =>
    simp only [expires] at h
    cases h
  | some expiresAt =>
    simp only [expires] at h
    cases shifted : expiresAt.shift? (-e.skew) with
    | some limit =>
      simp only [shifted] at h
      cases h
    | none =>
      simp only [shifted] at h
      cases h
      exact ⟨rfl, expiresAt, rfl, shifted⟩

/-- The lifetime of the token of a response, in seconds: its own or the default one. -/
def lifetimeOf (e : Engine) (response : TokenResponse) : Int :=
  response.expiresIn.getD e.policy.defaultLifetime

/-- The client of a response is issued at the given time and lasts for its lifetime. -/
theorem times_of_clientOf (h : e.clientOf key p issuedAt response = .ok c) :
    c.accessToken.issuedAt = some issuedAt ∧ ∃ expiresAt, c.accessToken.expiresAt = some expiresAt ∧
      issuedAt.shift? (e.lifetimeOf response * 1000000) = some expiresAt := by
  unfold clientOf at h
  unfold lifetimeOf
  cases hs : issuedAt.shift? (response.expiresIn.getD e.policy.defaultLifetime * 1000000) with
  | none => simp only [hs] at h; cases h
  | some expiresAt =>
    simp only [hs] at h
    cases h
    exact ⟨rfl, expiresAt, rfl, rfl⟩

/-- No client can be made if its lifetime ends out of the calendar. -/
theorem endless_of_clientOf {fault : Fault}
    (h : e.clientOf key p issuedAt response = .error fault) :
    fault = .dateOutOfRange ∧ issuedAt.shift? (e.lifetimeOf response * 1000000) = none := by
  unfold clientOf at h
  unfold lifetimeOf
  cases shifted : issuedAt.shift? (response.expiresIn.getD e.policy.defaultLifetime * 1000000) with
  | none =>
    simp only [shifted] at h
    cases h
    exact ⟨rfl, rfl⟩
  | some expiresAt =>
    simp only [shifted] at h
    cases h

/-- A new client is usable when it is issued just if its lifetime exceeds the margin. -/
theorem isUsable_clientOf_iff (margin : 0 ≤ e.policy.clockSkew)
    (h : e.clientOf key p issuedAt response = .ok c) :
    e.isUsable c issuedAt = .ok true ↔ e.policy.clockSkew < e.lifetimeOf response := by
  obtain ⟨-, expiresAt, expires, shifted⟩ := times_of_clientOf h
  have later := DateTime.instant_of_shift? shifted
  rw [isUsable_iff, expires]
  simp only [Option.some.injEq, forall_eq']
  constructor
  · rintro ⟨-, before⟩
    unfold skew at before
    omega
  · intro longer
    refine ⟨?_, by unfold skew; omega⟩
    -- the limit lies between the issue and the end, which are both in the calendar
    have low := issuedAt.onClock_nonneg
    have high := expiresAt.onClock_lt
    have clock := DateTime.onClock_of_shift? shifted
    exact expiresAt.exists_shift? (by unfold skew; omega) (by unfold skew; omega)

/-- A new client whose lifetime does not exceed the margin is never usable. -/
theorem stale_clientOf (margin : 0 ≤ e.policy.clockSkew)
    (h : e.clientOf key p issuedAt response = .ok c)
    (short : e.lifetimeOf response ≤ e.policy.clockSkew) :
    e.Stale issuedAt c :=
  fun usable => Int.not_lt.2 short ((isUsable_clientOf_iff margin h).1 usable)

end Engine

end TokenBroker
