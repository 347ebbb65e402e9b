import Mathlib.Data.List.Forall2
import TokenBroker.Exchange.Client
import TokenBroker.Proofs.Endpoint.TokenResponse

/-!
# Answers with other tokens

Two answers differ in tokens at most if both are accepted, and the members of their bodies are the
same but for the texts of the access token, of which the same is shown (`SameMask`), and of the
refresh token (`HttpAnswer.SameButTokens`). Both are malformed with the same message, which quotes
no token, or both give a response, and these differ in tokens at most
(`TokenResponse.ofAnswer_tokens`).
-/

namespace TokenBroker

/-- The same error, or results that are related. -/
inductive Except.Rel {ε α β : Type} (R : α → β → Prop) : Except ε α → Except ε β → Prop
  | error (e : ε) : Rel R (.error e) (.error e)
  | ok {a : α} {b : β} (related : R a b) : Rel R (.ok a) (.ok b)

namespace Except.Rel

variable {ε ε' α β : Type} {R : α → β → Prop}

theorem refl {R : α → α → Prop} (same : ∀ a, R a a) (x : Except ε α) : Rel R x x := by
  cases x with
  | error e => exact .error e
  | ok a => exact .ok (same a)

theorem cases {x : Except ε α} {x' : Except ε β} (h : Rel R x x') :
    (∃ e, x = .error e ∧ x' = .error e) ∨ ∃ a b, x = .ok a ∧ x' = .ok b ∧ R a b := by
  cases h with
  | error e => exact .inl ⟨e, rfl, rfl⟩
  | ok related => exact .inr ⟨_, _, rfl, rfl, related⟩

theorem mapError (f : ε → ε') {x : Except ε α} {x' : Except ε β} (h : Rel R x x') :
    Rel R (x.mapError f) (x'.mapError f) := by
  cases h with
  | error e => exact .error (f e)
  | ok related => exact .ok related

end Except.Rel

theorem Option.isSome_of_rel {α β : Type} {R : α → β → Prop} {x : Option α} {x' : Option β}
    (h : Option.Rel R x x') :
    x'.isSome = x.isSome := by
  cases h <;> rfl

/-! ## What is shown of a token -/

/-- Two tokens of which the same is shown: each is longer than eight characters and they begin with
the same four, or each has from one to eight. -/
inductive SameMask (s s' : String) : Prop
  | same (same : s' = s)
  | long (length : 8 < s.length) (length' : 8 < s'.length)
      (start : s'.toList.take 4 = s.toList.take 4)
  | short (given : s ≠ "") (given' : s' ≠ "") (length : s.length ≤ 8) (length' : s'.length ≤ 8)

namespace SameMask

variable {s s' : String} (h : SameMask s s')
include h

theorem mask : AuthorizedClient.mask s' = AuthorizedClient.mask s := by
  unfold AuthorizedClient.mask
  cases h with
  | same same => rw [same]
  | long length length' start =>
    rw [if_neg (Nat.not_le.2 length'), if_neg (Nat.not_le.2 length), start]
  | short _ _ length length' => rw [if_pos length', if_pos length]

theorem eq_empty_iff : s' = "" ↔ s = "" := by
  cases h with
  | same same => rw [same]
  | long length length' =>
    have nonempty {t : String} (length : 8 < t.length) : t ≠ "" := by
      rintro rfl
      simp at length
    simp only [nonempty length, nonempty length']
  | short given given' => simp only [given, given']

end SameMask

/-! ## Members -/

/-- Two members of one name and value, but for the texts of tokens. -/
inductive SameButTokenText : String × Json → String × Json → Prop
  | same (m : String × Json) : SameButTokenText m m
  | access {s s' : String} (masks : SameMask s s') :
      SameButTokenText ("access_token", .str s) ("access_token", .str s')
  | refresh (s s' : String) : SameButTokenText ("refresh_token", .str s) ("refresh_token", .str s')

/-- Two accepted answers whose bodies differ in the texts of tokens at most. -/
structure HttpAnswer.SameButTokens (a a' : HttpAnswer) : Prop where
  status : a'.status = a.status
  accepted : a.isSuccess = true
  body : ∃ ms ms', Json.ofBytes? a.body = some (.obj ms) ∧ Json.ofBytes? a'.body = some (.obj ms') ∧
    List.Forall₂ SameButTokenText ms ms'

/-- Two responses that differ in their tokens at most: the same is shown of both, and both have a
refresh token or neither has. -/
structure TokenResponse.SameButTokens (r r' : TokenResponse) : Prop where
  accessToken : SameMask r.accessToken r'.accessToken
  refreshToken : r'.refreshToken.isSome = r.refreshToken.isSome
  tokenType : r'.tokenType = r.tokenType
  expiresIn : r'.expiresIn = r.expiresIn
  scopes : r'.scopes = r.scopes
  additional : r'.additional = r.additional

theorem TokenResponse.SameButTokens.refl (r : TokenResponse) : SameButTokens r r :=
  ⟨.same rfl, rfl, rfl, rfl, rfl, rfl⟩

/-- Two replies: the same, or answers that differ in tokens at most. -/
inductive Reply.SameButTokens : Reply → Reply → Prop
  | same (r : Reply) : SameButTokens r r
  | answer {a a' : HttpAnswer} (answers : a.SameButTokens a') :
      SameButTokens (.answer a) (.answer a')

namespace TokenResponse

variable {ms ms' : List (String × Json)} {name : String}

theorem name_tokens {m m' : String × Json} (h : SameButTokenText m m') : m'.1 = m.1 := by
  cases h <;> rfl

/-- Under every name stands the same, or the text of a token. -/
theorem lookup?_cases (h : List.Forall₂ SameButTokenText ms ms') (name : String) :
    Json.lookup? name ms' = Json.lookup? name ms ∨
      ∃ s s', Json.lookup? name ms = some (.str s) ∧ Json.lookup? name ms' = some (.str s') ∧
        (name = "access_token" ∧ SameMask s s' ∨ name = "refresh_token") := by
  unfold Json.lookup?
  induction h with
  | nil => exact .inl rfl
  | @cons m m' ms ms' first rest ih =>
    have named := name_tokens first
    by_cases found : m.1 = name
    · simp only [List.find?_cons, named, found, decide_true, Option.map_some]
      cases first with
      | same => exact .inl rfl
      | access masks => exact .inr ⟨_, _, rfl, rfl, .inl ⟨found.symm, masks⟩⟩
      | refresh => exact .inr ⟨_, _, rfl, rfl, .inr found.symm⟩
    · simp only [List.find?_cons, named, found, decide_false]
      exact ih

theorem lookup?_tokens (h : List.Forall₂ SameButTokenText ms ms') (access : name ≠ "access_token")
    (refresh : name ≠ "refresh_token") : Json.lookup? name ms' = Json.lookup? name ms := by
  rcases lookup?_cases h name with same | ⟨_, _, -, -, ⟨named, -⟩ | named⟩
  · exact same
  · exact absurd named access
  · exact absurd named refresh

theorem accessTokenOf_tokens (h : List.Forall₂ SameButTokenText ms ms') :
    Except.Rel SameMask (accessTokenOf ms) (accessTokenOf ms') := by
  rcases lookup?_cases h "access_token" with same | ⟨s, s', found, found', ⟨-, masks⟩ | named⟩
  · have tokens : accessTokenOf ms' = accessTokenOf ms := by
      unfold accessTokenOf
      rw [same]
    rw [tokens]
    exact .refl (fun _ => .same rfl) _
  · unfold accessTokenOf
    simp only [found, found', masks.eq_empty_iff]
    split
    · exact .error _
    · exact .ok masks
  · exact absurd named (by decide)

theorem refreshTokenOf_tokens (h : List.Forall₂ SameButTokenText ms ms') :
    (refreshTokenOf ms').isSome = (refreshTokenOf ms).isSome := by
  unfold refreshTokenOf
  rcases lookup?_cases h "refresh_token" with same | ⟨_, _, found, found', -⟩
  · rw [same]
  · rw [found, found']
    rfl

theorem additional_tokens (h : List.Forall₂ SameButTokenText ms ms') :
    (ms'.filter fun m => !standardMembers.contains m.1) = ms.filter fun m =>
      !standardMembers.contains m.1 := by
  induction h with
  | nil => rfl
  | cons first rest ih =>
    cases first with
    | same m => rw [List.filter_cons, List.filter_cons, ih]
    | access | refresh => exact ih

/-- Members that differ in tokens at most give responses of the kind, or the same failure. -/
theorem ofMembers_tokens (h : List.Forall₂ SameButTokenText ms ms') (requested : List String) :
    Except.Rel SameButTokens (ofMembers ms requested) (ofMembers ms' requested) := by
  have type : checkTokenType ms' = checkTokenType ms := by
    unfold checkTokenType
    rw [lookup?_tokens h (by decide) (by decide)]
  have lifetime : lifetimeOf ms' = lifetimeOf ms := by
    unfold lifetimeOf
    rw [lookup?_tokens h (by decide) (by decide)]
  have scopes : scopesOf ms' requested = scopesOf ms requested := by
    unfold scopesOf
    rw [lookup?_tokens h (by decide) (by decide)]
  unfold ofMembers
  rw [type, lifetime, scopes, additional_tokens h]
  rcases (accessTokenOf_tokens h).cases with ⟨f, failed, failed'⟩ | ⟨s, s', given, given', masks⟩
  · rw [failed, failed']
    exact .error f
  · rw [given, given']
    cases checkTokenType ms with
    | error f => exact .error f
    | ok _ =>
      cases lifetimeOf ms with
      | error f => exact .error f
      | ok l => exact .ok ⟨masks, refreshTokenOf_tokens h, rfl, rfl, rfl, rfl⟩

theorem ofAnswer_tokens {a a' : HttpAnswer} (h : a.SameButTokens a') (requested : List String) :
    Except.Rel SameButTokens (ofAnswer a requested) (ofAnswer a' requested) := by
  obtain ⟨status, accepted, ms, ms', body, body', members⟩ := h
  have accepted' : a'.isSuccess = true := by
    unfold HttpAnswer.isSuccess
    rw [status]
    exact accepted
  unfold ofAnswer
  simp only [accepted, accepted', body, body', if_true]
  exact (ofMembers_tokens members requested).mapError Fault.failure

end TokenResponse

theorem ExchangeClient.conclude_tokens {reply reply' : Reply} (h : reply.SameButTokens reply')
    (url : String) (requested : List String) :
    Except.Rel TokenResponse.SameButTokens (conclude url requested reply)
      (conclude url requested reply') := by
  cases h with
  | answer answers => exact TokenResponse.ofAnswer_tokens answers requested
  | same => exact .refl .refl _

end TokenBroker
