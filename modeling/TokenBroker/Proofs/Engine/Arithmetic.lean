import TokenBroker.Proofs.Endpoint.TokenResponse
import TokenBroker.Proofs.Engine.Lifetime
import TokenBroker.Proofs.Settings.Loaded

/-!
# The arithmetic of lifetimes

Margins and lifetimes are added to times of a calendar that ends, so each sum may have no result.
Lifetimes are bounded where they are accepted, and ten years fit behind every time up to the year
9000 (`Engine.exists_clientOf`). The margin has no upper bound: one of a thousand million days or
more is no duration, and no engine is made (`Engine.create_eq`); and a margin that reaches back from
the end of a token to before the first day leaves the token without an answer
(`AccessToken.isExpired_eq`). Elsewhere results are those of whole numbers of microseconds.
`Engine.lifetimes_exact_within_calendar` puts the three together.
-/

namespace TokenBroker

/-- The least margin that is no duration, in seconds: a thousand million days. -/
def endlessMargin : Int := 86400000000000

/-- A whole number of seconds is a duration below the margin that has no end. -/
theorem checkDuration_seconds {n : Int} (h : 0 ≤ n) : checkDuration (n * 1000000) =
    if n < endlessMargin then .ok () else .error (.durationTooLong (n / 86400)) := by
  have days : (n * 1000000).fdiv microsOfDay = n / 86400 := by
    rw [Int.fdiv_eq_ediv_of_nonneg _ (by decide), show microsOfDay = 86400 * 1000000 from rfl]
    exact Int.mul_ediv_mul_of_pos_left n 86400 (by decide)
  have magnitude : longestDuration < ((n / 86400).natAbs : Int) ↔ ¬ n < endlessMargin := by
    unfold longestDuration endlessMargin
    omega
  unfold checkDuration
  simp only [days, magnitude, ite_not]

/-- Whether a token has expired is decided by whole numbers, as long as the margin reaches back from
its end to a time of the calendar. -/
theorem AccessToken.isExpired_eq (t : AccessToken) (now : DateTime) {skew : Int} (h : 0 ≤ skew) :
    t.isExpired now skew =
      match t.expiresAt with
      | none => .ok false
      | some expiresAt =>
        if skew ≤ expiresAt.onClock then .ok (decide (expiresAt.instant - skew ≤ now.instant))
        else .error .dateOutOfRange := by
  unfold isExpired
  cases t.expiresAt with
  | none => rfl
  | some expiresAt =>
    have judged := isOver_eq expiresAt.given now.given h
    rw [DateTime.instant_given, DateTime.instant_given] at judged
    exact judged

namespace Engine

variable {e : Engine} {key : Key} {p : Plan} {issuedAt : DateTime} {response : TokenResponse}
  {policy : LifetimePolicy}

/-- An engine is made just if its margin is a duration. -/
theorem create_eq (source : RegistrationSource) (clients : Registry)
    (accepted : policy.IsAccepted) :
    create source clients policy =
      if policy.clockSkew < endlessMargin then .ok ⟨source, clients, policy⟩
      else .error (.durationTooLong (policy.clockSkew / 86400)) := by
  have margin := (LifetimePolicy.isAccepted_iff.1 accepted).1
  unfold create
  rw [checkDuration_seconds margin]
  split <;> rfl

/-- The lifetime the engine gives a token is one that a response may have. -/
theorem isLifetime_lifetimeOf (policy : e.policy.IsAccepted) (accepted : response.IsAccepted) :
    TokenResponse.IsLifetime (e.lifetimeOf response) := by
  obtain ⟨-, low, high⟩ := LifetimePolicy.isAccepted_iff.1 policy
  unfold lifetimeOf
  cases given : response.expiresIn with
  | none => exact ⟨Int.le_of_lt low, high⟩
  | some n => exact accepted.lifetime given

/-- A client is made of every accepted response up to the year 9000, and it ends a lifetime after
its issue. -/
theorem exists_clientOf (policy : e.policy.IsAccepted) (accepted : response.IsAccepted)
    (early : issuedAt.date.year ≤ 9000) (key : Key) (p : Plan) :
    ∃ c expiresAt, e.clientOf key p issuedAt response = .ok c ∧
    c.accessToken.issuedAt = some issuedAt ∧
      c.accessToken.expiresAt = some expiresAt ∧
      expiresAt.instant = issuedAt.instant + e.lifetimeOf response * 1000000 := by
  obtain ⟨low, high⟩ := isLifetime_lifetimeOf policy accepted
  have ends : issuedAt.onClock + e.lifetimeOf response * 1000000 < DateTime.clockEnd := by
    have issued := DateTime.onClock_lt_of_dayNumber (Date.dayNumber_lt_daysBeforeYear early)
    -- from the end of the year 9000 to that of the calendar
    have room : ((Calendar.daysBeforeYear (9000 + 1) * microsPerDay : Nat) : Int) + maxLifetime *
        1000000 < DateTime.clockEnd := by
      decide
    omega
  have begins := issuedAt.onClock_nonneg
  obtain ⟨expiresAt, shifted⟩ := issuedAt.exists_shift? (by omega) ends
  cases made : e.clientOf key p issuedAt response with
  | error fault =>
    obtain ⟨-, undated⟩ := endless_of_clientOf made
    rw [shifted] at undated
    cases undated
  | ok c =>
    obtain ⟨issued, end', expires, sum⟩ := times_of_clientOf made
    exact ⟨c, end', rfl, issued, expires, DateTime.instant_of_shift? sum⟩

/-- **The arithmetic of lifetimes is exact within the calendar.** Let a policy have passed its
check, or come with settings that have been loaded.

* An engine is made of it if its margin is less than a thousand million days, and only then.
* Any token is judged by such an engine, at any time, by whole numbers of microseconds: it has
  expired just if its end less the margin is not after that time. If the end less the margin is
  before the first day, there is no answer.
* Of any accepted response to an exchange that was issued up to the year 9000 such an engine makes a
  client, which ends exactly a lifetime after its issue. -/
theorem lifetimes_exact_within_calendar (source : RegistrationSource) (clients : Registry)
    (accepted : policy.IsAccepted ∨ ∃ path host settings host',
      Action.loadSettings path host = (.ok settings, host') ∧ settings.lifetimes = policy) :
    (create source clients policy =
      if policy.clockSkew < endlessMargin then .ok ⟨source, clients, policy⟩
      else .error (.durationTooLong (policy.clockSkew / 86400))) ∧
      ∀ e, create source clients policy = .ok e → e.skew = policy.clockSkew * 1000000 ∧
        (∀ (t : AccessToken) (now : DateTime), t.isExpired now e.skew =
          match t.expiresAt with
          | none => .ok false
          | some expiresAt =>
            if e.skew ≤ expiresAt.onClock then
              .ok (decide (expiresAt.instant - e.skew ≤ now.instant))
            else .error .dateOutOfRange) ∧
        ∀ (issuedAt : DateTime) (response : TokenResponse), issuedAt.date.year ≤ 9000 →
          response.IsAccepted →
          ∀ (key : Key) (p : Plan), ∃ c expiresAt, e.clientOf key p issuedAt response = .ok c ∧
            c.accessToken.issuedAt = some issuedAt ∧ c.accessToken.expiresAt = some expiresAt ∧
            expiresAt.instant = issuedAt.instant + e.lifetimeOf response * 1000000 := by
  have accepted : policy.IsAccepted := by
    rcases accepted with accepted | ⟨path, host, settings, host', loaded, rfl⟩
    · exact accepted
    · exact Action.isAccepted_of_loadSettings loaded
  have created := create_eq source clients accepted
  refine ⟨created, fun e made => ?_⟩
  rw [created] at made
  split at made
  · cases made
    have margin : 0 ≤ policy.clockSkew * 1000000 :=
      Int.mul_nonneg (LifetimePolicy.isAccepted_iff.1 accepted).1 (by decide)
    exact ⟨rfl, fun t now => t.isExpired_eq now margin,
      fun issuedAt response early answered key p =>
      exists_clientOf (e := ⟨source, clients, policy⟩) accepted answered early key p⟩
  · cases made

namespace Margins

/-- Tokens count as expired a minute early. -/
def minute : LifetimePolicy := { clockSkew := 60 }

/-- No duration. -/
def endless : LifetimePolicy := { clockSkew := 100000000000000 }

def unregistered : RegistrationSource := .catalog ⟨[], by decide⟩

def engine : Engine := ⟨unregistered, ⟨[]⟩, minute⟩

/-- The last second of the year 9000. -/
def late : DateTime where
  date := ⟨9000, 12, 31, by decide, by decide, by decide⟩
  micros := 86399000000
  offset := 0
  micros_lt := by decide
  offset_valid := (default : DateTime).offset_valid

/-- A token that is to last for ten years. -/
def lasting : TokenResponse := { accessToken := "tok", expiresIn := some maxLifetime }

def system : Key := ⟨"svc", "system"⟩

def registration : ClientRegistration :=
  { registrationId := "svc", clientId := "app", grantType := .clientCredentials,
    tokenUri := "/token" }

def exchange : Plan := ⟨.clientCredentials {}, .clientCredentials registration, none⟩

/-- A token that ends as the first day begins. -/
def ancient : AccessToken := { value := "tok", expiresAt := some default }

theorem made : create unregistered ⟨[]⟩ minute = .ok engine := rfl

theorem minute_accepted : minute.IsAccepted := LifetimePolicy.isAccepted_iff.2 (by decide)

theorem lasting_accepted : lasting.IsAccepted :=
  .checked (j := .obj [("access_token", .str "tok"), ("expires_in", .int maxLifetime)]) rfl

end Margins

open Margins in
/-- Ten years after the last second of the year 9000 are a time of the calendar. -/
theorem longest_lifetime_fits :
    (minute.IsAccepted ∧ create unregistered ⟨[]⟩ minute = .ok engine ∧ late.date.year ≤ 9000 ∧
        lasting.IsAccepted) ∧
      ∃ c expiresAt, engine.clientOf system exchange late lasting = .ok c ∧
        c.accessToken.expiresAt = some expiresAt ∧
        expiresAt.instant = late.instant + 315360000000000 := by
  obtain ⟨-, works⟩ := lifetimes_exact_within_calendar unregistered ⟨[]⟩ (.inl minute_accepted)
  obtain ⟨-, -, clients⟩ := works engine made
  obtain ⟨c, expiresAt, answered, -, expires, sum⟩ :=
    clients late lasting (by decide) lasting_accepted system exchange
  exact ⟨⟨minute_accepted, made, by decide, lasting_accepted⟩, c, expiresAt, answered, expires, sum⟩

open Margins in
/-- A policy is accepted of which no engine can be made. With a margin of a minute one is made, and
cannot judge a token that ended as the first day began. -/
theorem accepted_margin_overflows :
    (endless.IsAccepted ∧ create unregistered ⟨[]⟩ endless = .error (.durationTooLong 1157407407)) ∧
      minute.IsAccepted ∧ create unregistered ⟨[]⟩ minute = .ok engine ∧
      ancient.isExpired late engine.skew = .error .dateOutOfRange :=
  ⟨⟨LifetimePolicy.isAccepted_iff.2 (by decide), rfl⟩, minute_accepted, made, rfl⟩

end Engine

end TokenBroker
