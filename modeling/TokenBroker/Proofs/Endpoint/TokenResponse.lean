import TokenBroker.Endpoint.Response
import TokenBroker.Proofs.Validation

/-!
# What becomes of an answer

An accepted answer gives a token response or is malformed (`TokenResponse.ofAnswer_of_isSuccess`);
so it never refuses a refresh token. The refresh token of a response is the text that the answer's
body has under that name (`HttpAnswer.member?`), and its lifetime is at most ten years, wherever the
response comes from (`TokenResponse.IsAccepted.lifetime`). An answer that is not accepted is a
refusal, unless its body names no error and has no text that could be quoted in its place
(`TokenResponse.ofAnswer_error_cases`).
-/

namespace TokenBroker

/-- The text that the body of an answer, a JSON object, has under a name. -/
def HttpAnswer.member? (name : String) (a : HttpAnswer) : Option String :=
  match Json.ofBytes? a.body with
  | some (.obj ms) =>
    match Json.lookup? name ms with
    | some (.str s) => some s
    | _ => none
  | _ => none

namespace TokenResponse

variable {ms : List (String × Json)} {requested : List String} {f : Failure} {a : HttpAnswer}
  {response : TokenResponse}

/-! ## Members that do not fit -/

theorem accessTokenOf_error (h : accessTokenOf ms = .error f) :
    ∃ message, f = .malformed message := by
  unfold accessTokenOf at h
  split at h
  · split at h <;> cases h
    exact ⟨_, rfl⟩
  · cases h
    exact ⟨_, rfl⟩

theorem checkTokenType_error (h : checkTokenType ms = .error f) :
    ∃ message, f = .malformed message := by
  unfold checkTokenType at h
  split at h
  · cases h
  · split at h <;> cases h
    exact ⟨_, rfl⟩

theorem lifetimeOf_error (h : lifetimeOf ms = .error f) : ∃ message, f = .malformed message := by
  unfold lifetimeOf at h
  split at h
  · cases h
  · split at h
    · cases h
      exact ⟨_, rfl⟩
    · split at h <;> cases h
      exact ⟨_, rfl⟩

/-! ## Responses -/

/-- The members of an accepted answer give a response with their refresh token and lifetime, or are
malformed. -/
theorem ofMembers_cases (ms : List (String × Json)) (requested : List String) :
    (∃ response, ofMembers ms requested = .ok response ∧ response.refreshToken = refreshTokenOf ms ∧
        lifetimeOf ms = .ok response.expiresIn) ∨
      ∃ message, ofMembers ms requested = .error (.malformed message) := by
  unfold ofMembers
  cases token : accessTokenOf ms with
  | error f =>
    obtain ⟨message, rfl⟩ := accessTokenOf_error token
    exact .inr ⟨message, rfl⟩
  | ok accessToken =>
    cases kind : checkTokenType ms with
    | error f =>
      obtain ⟨message, rfl⟩ := checkTokenType_error kind
      exact .inr ⟨message, rfl⟩
    | ok _ =>
      cases lifetime : lifetimeOf ms with
      | error f =>
        obtain ⟨message, rfl⟩ := lifetimeOf_error lifetime
        exact .inr ⟨message, rfl⟩
      | ok expiresIn => exact .inl ⟨_, rfl, rfl, rfl⟩

/-- An accepted answer gives a response with the refresh token of its body, or is malformed. -/
theorem ofAnswer_of_isSuccess (accepted : a.isSuccess = true) (requested : List String) :
    (∃ response, ofAnswer a requested = .ok response ∧
        response.refreshToken = a.member? "refresh_token") ∨
      ∃ message, ofAnswer a requested = .error (.failure (.malformed message)) := by
  unfold ofAnswer
  simp only [accepted, if_true]
  split
  · next ms body =>
    have text : a.member? "refresh_token" = refreshTokenOf ms := by
      unfold HttpAnswer.member?
      rw [body]
      rfl
    rw [text]
    rcases ofMembers_cases ms requested with ⟨response, h, token, -⟩ | ⟨message, h⟩
    · exact .inl ⟨response, by rw [h]; rfl, token⟩
    · exact .inr ⟨message, by rw [h]; rfl⟩
  · exact .inr ⟨_, rfl⟩

theorem isSuccess_of_ofAnswer (h : ofAnswer a requested = .ok response) : a.isSuccess = true := by
  cases accepted : a.isSuccess with
  | true => rfl
  | false =>
    simp only [ofAnswer, accepted, Bool.false_eq_true, if_false] at h
    split at h <;> cases h

theorem refreshToken_of_ofAnswer (h : ofAnswer a requested = .ok response) :
    response.refreshToken = a.member? "refresh_token" := by
  rcases ofAnswer_of_isSuccess (isSuccess_of_ofAnswer h) requested with
    ⟨response', h', token⟩ | ⟨message, h'⟩
  · rw [h] at h'
    cases h'
    exact token
  · rw [h] at h'
    cases h'

/-! ## Lifetimes -/

/-- A lifetime that a response may have, in seconds. -/
def IsLifetime (n : Int) : Prop := 0 ≤ n ∧ n ≤ maxLifetime

theorem lifetime_of_lifetimeOf {n : Int} (h : lifetimeOf ms = .ok (some n)) : IsLifetime n := by
  unfold lifetimeOf at h
  split at h
  · cases h
  · split at h
    · cases h
    · split at h
      · next within =>
        cases h
        exact within
      · cases h

/-- A response that a client of the program or a plug-in may give: it is what some answer stands
for, or has passed the check of its own fields. -/
inductive IsAccepted (r : TokenResponse) : Prop
  | answered {a : HttpAnswer} {requested : List String} (h : ofAnswer a requested = .ok r)
  | checked {j : Json} (h : ofJson j = .ok r)

theorem IsAccepted.lifetime {n : Int} (accepted : response.IsAccepted)
    (given : response.expiresIn = some n) :
    IsLifetime n := by
  cases accepted with
  | @answered a requested h =>
    have succeeded := isSuccess_of_ofAnswer h
    unfold ofAnswer at h
    simp only [succeeded, if_true] at h
    split at h
    · next ms body =>
      rcases ofMembers_cases ms requested with ⟨response', made, -, lifetime⟩ | ⟨message, made⟩
      · rw [made] at h
        cases h
        rw [given] at lifetime
        exact lifetime_of_lifetimeOf lifetime
      · rw [made] at h
        cases h
    · cases h
  | @checked j h =>
    -- through the members, the last one first, to the lifetime
    obtain ⟨ms, -, members⟩ := Validate.eq_obj_of_model h
    obtain ⟨_, additional, withRefreshToken, -, rfl⟩ := Checked.exists_of_seq members
    obtain ⟨_, refreshToken, withScopes, -, rfl⟩ := Checked.exists_of_seq withRefreshToken
    obtain ⟨_, scopes, withLifetime, -, rfl⟩ := Checked.exists_of_seq withScopes
    obtain ⟨_, lifetime, withType, checked, rfl⟩ := Checked.exists_of_seq withLifetime
    obtain ⟨_, kind, withToken, -, rfl⟩ := Checked.exists_of_seq withType
    obtain ⟨_, -, rfl⟩ := Checked.exists_of_map withToken
    rcases Validate.cases_of_defaulted checked with ⟨-, absent⟩ | ⟨j, -, passed⟩
    · cases absent.symm.trans given
    · rcases Validate.nullable_cases passed with absent | ⟨m, present, passed⟩
      · cases absent.symm.trans given
      cases present.symm.trans given
      obtain ⟨m, low, high⟩ := Checked.exists_of_andThen passed
      obtain ⟨l, -, low⟩ := Checked.exists_of_andThen low
      obtain ⟨rfl, high⟩ := Validate.atMost_eq_ok high
      exact ⟨(Validate.atLeast_eq_ok low).2, high⟩

/-! ## Errors -/

/-- A refusal is worded by the error that its body names, or else by the start of its text, if the
text can be read. -/
theorem refusal_cases (a : HttpAnswer) :
    (∃ code description uri status,
        refusal a (Json.ofBytes? a.body) = .ok (.rejected code description uri status)) ∨
      ∃ e, refusal a (Json.ofBytes? a.body) = .error e ∧ a.member? "error" = none ∧
      a.text = .error e := by
  have member : a.member? "error" =
      match (Json.ofBytes? a.body).bind (Json.get? "error") with
      | some (.str code) => some code
      | _ => none := by
    unfold HttpAnswer.member?
    cases Json.ofBytes? a.body with
    | none => rfl
    | some body => cases body <;> rfl
  unfold refusal
  split
  · exact .inl ⟨_, _, _, _, rfl⟩
  · next unnamed =>
    cases text : a.text with
    | ok s => exact .inl ⟨_, _, _, _, rfl⟩
    | error e =>
      refine .inr ⟨e, rfl, ?_, rfl⟩
      rw [member]
      split
      · next code named => exact absurd named (unnamed code)
      · rfl

/-- An answer that gives no response is malformed, or a refusal, or no text that could be quoted. -/
theorem ofAnswer_error_cases {fault : Fault} (h : ofAnswer a requested = .error fault) :
    (∃ message, fault = .failure (.malformed message)) ∨
      (∃ code description uri status, fault = .failure (.rejected code description uri status)) ∨
      ∃ e, fault = .charset e ∧ a.isSuccess = false ∧ a.member? "error" = none ∧
      a.text = .error e := by
  cases accepted : a.isSuccess with
  | true =>
    rcases ofAnswer_of_isSuccess accepted requested with ⟨response, h', -⟩ | ⟨message, h'⟩
    · rw [h] at h'
      cases h'
    · rw [h] at h'
      cases h'
      exact .inl ⟨message, rfl⟩
  | false =>
    unfold ofAnswer at h
    simp only [accepted, Bool.false_eq_true, if_false] at h
    rcases refusal_cases a with ⟨code, description, uri, status, refused⟩
      | ⟨e, unread, unnamed, text⟩
    · rw [refused] at h
      cases h
      exact .inr (.inl ⟨code, description, uri, status, rfl⟩)
    · rw [unread] at h
      cases h
      exact .inr (.inr ⟨e, rfl, rfl, unnamed, text⟩)

/-- An accepted answer refuses no refresh token. -/
theorem isInvalidGrant_of_isSuccess (accepted : a.isSuccess = true)
    (h : ofAnswer a requested = .error (.failure f)) : f.isInvalidGrant = false := by
  rcases ofAnswer_of_isSuccess accepted requested with ⟨response, h', -⟩ | ⟨message, h'⟩
  · rw [h] at h'
    cases h'
  · rw [h] at h'
    cases h'
    rfl

end TokenResponse

end TokenBroker
