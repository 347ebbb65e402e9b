import TokenBroker.Endpoint.Request
import TokenBroker.Proofs.Endpoint.Classification
import TokenBroker.Proofs.Engine.RefreshToken
import TokenBroker.Proofs.Text.Pieces

/-!
# Scopes from a request to the next one

The scopes that an answer names are words: none is empty or holds a blank
(`TokenResponse.areWords_splitScopes`). Written into one text with blanks between them, words are
read back as they are (`TokenResponse.splitScopes_intercalate`), however the text was spaced that
they were first taken from. So an answer that repeats the scope member of its request grants the
scopes that the request asks for, as one without the member does
(`TokenResponse.scopes_of_keepsScopes`), and apart from members that nothing reads the two answers
mean the same (`TokenResponse.ofAnswer_sameButScope`).

A call whose registration needs an end user and whose engine has the built-in clients asks for the
scopes of the client that it has loaded (`asks_plan`), in a request that sends them and nothing else
for scopes (`sendsScopes_of_begin`). Its steps keep them (`Move.hasScopes`), as long as the answers
to its requests grant them. What a step does with an answer does not depend on members without a
meaning (`step_congr_plain`).
-/

namespace TokenBroker

namespace TokenResponse

variable {a : HttpAnswer} {ms : List (String × Json)} {scopes requested : List String}
  {response : TokenResponse}

/-- Texts without blanks, and none of them empty. -/
def AreWords (scopes : List String) : Prop := ∀ s ∈ scopes, s ≠ "" ∧ ' ' ∉ s.toList

/-- The scopes of a text are words. -/
theorem areWords_splitScopes (text : String) : AreWords (splitScopes text) := by
  intro s hs
  rw [splitScopes_eq] at hs
  obtain ⟨piece, among, rfl⟩ := List.mem_map.1 hs
  obtain ⟨piece_of_text, nonempty⟩ := List.mem_filter.1 among
  rw [String.toList_ofList]
  exact ⟨by simpa [String.ofList_eq_empty_iff] using nonempty, fun blank =>
    (ne_and_mem_of_mem_splitOn piece_of_text _ blank).1 rfl⟩

/-- Words that are joined with blanks are split into the same words. -/
theorem splitScopes_intercalate (words : AreWords scopes) :
    splitScopes (" ".intercalate scopes) = scopes := by
  cases scopes with
  | nil => rfl
  | cons s ss =>
    have pieces : (" ".intercalate (s :: ss)).toList.splitOn ' ' = (s :: ss).map String.toList := by
      rw [String.toList_intercalate]
      refine List.splitOn_intercalate ' ' ?_ (by simp)
      intro piece hp
      obtain ⟨word, member, rfl⟩ := List.mem_map.1 hp
      exact (words word member).2
    have all : ((s :: ss).map String.toList).filter (· ≠ []) = (s :: ss).map String.toList := by
      rw [List.filter_eq_self]
      intro piece hp
      obtain ⟨word, member, rfl⟩ := List.mem_map.1 hp
      simpa using (words word member).1
    rw [splitScopes_eq, pieces, all, List.map_map]
    simp [Function.comp_def]

/-! ## Answers to a request -/

/-- The scopes are those of the body, or else those requested. -/
theorem scopesOf_of_body (body : Json.ofBytes? a.body = some (.obj ms)) (requested : List String) :
    scopesOf ms requested = ((a.member? "scope").map splitScopes).getD requested := by
  unfold HttpAnswer.member?
  rw [body]
  dsimp only
  split
  · next text named => exact scopesOf_of_text named
  · next other => exact scopesOf_of_no_text other

/-- A response has the scopes of its answer, or else those requested. -/
theorem scopes_of_ofAnswer (h : ofAnswer a requested = .ok response) :
    response.scopes = ((a.member? "scope").map splitScopes).getD requested := by
  have classified := classified_of_succeeds
    (HttpAnswer.isSuccess_eq_true_iff.1 (isSuccess_of_ofAnswer h)) requested
  rw [h] at classified
  cases classified with
  | @accepted ms _ _ body _ extracts =>
    rw [← scopesOf_of_body body]
    unfold scopesOf
    split
    · next text named => rw [extracts.scopes text named, splitScopes_eq]
    · next other => exact extracts.requestedScopes other

end TokenResponse

/-- The fields of a request that hold scopes are those for the given ones: one field, or none if
there are none. -/
def HttpRequest.SendsScopes (http : HttpRequest) (scopes : List String) : Prop :=
  http.form.filter (·.1 = "scope") = TokenRequest.scopeFields scopes

namespace HttpAnswer

/-- An answer repeats the scope member of a request, or has no text for scopes. -/
def KeepsScopes (a : HttpAnswer) (http : HttpRequest) : Prop :=
  ∀ text, a.member? "scope" = some text → ("scope", text) ∈ http.form

/-- Two answers of success whose bodies are objects that have the same members, but for the
scopes. -/
structure SameButScope (a b : HttpAnswer) : Prop where
  accepted : a.isSuccess = true ∧ b.isSuccess = true
  members : ∃ ms ms', Json.ofBytes? a.body = some (.obj ms) ∧
    Json.ofBytes? b.body = some (.obj ms') ∧
    ∀ name, name ≠ "scope" → Json.lookup? name ms = Json.lookup? name ms'

end HttpAnswer

namespace TokenResponse

variable {a b : HttpAnswer} {http : HttpRequest} {ms ms' : List (String × Json)}
  {scopes requested : List String} {response : TokenResponse}

/-- What a request sends for scopes is read as them. -/
theorem splitScopes_of_sendsScopes {text : String} (words : AreWords scopes)
    (sends : http.SendsScopes scopes) (sent : ("scope", text) ∈ http.form) :
    splitScopes text = scopes := by
  have field : ("scope", text) ∈ TokenRequest.scopeFields scopes := by
    rw [← sends]
    exact List.mem_filter.2 ⟨sent, by simp⟩
  unfold TokenRequest.scopeFields at field
  split at field
  · cases field
  · obtain rfl : text = " ".intercalate scopes := by simpa using field
    exact splitScopes_intercalate words

/-- The scopes that an answer grants, if it keeps those of its request. -/
theorem getD_of_keepsScopes (words : AreWords scopes) (sends : http.SendsScopes scopes)
    (keeps : a.KeepsScopes http) : ((a.member? "scope").map splitScopes).getD scopes = scopes := by
  cases named : a.member? "scope" with
  | none => rfl
  | some text => exact splitScopes_of_sendsScopes words sends (keeps text named)

/-- An answer that keeps the scopes gives a response with the scopes requested. -/
theorem scopes_of_keepsScopes (words : AreWords scopes) (sends : http.SendsScopes scopes)
    (keeps : a.KeepsScopes http) (h : ofAnswer a scopes = .ok response) :
    response.scopes = scopes :=
  (scopes_of_ofAnswer h).trans (getD_of_keepsScopes words sends keeps)

/-- A response without the members that have no meaning of their own. -/
def plain (r : TokenResponse) : TokenResponse := { r with additional := [] }

/-- Members that differ in the text of their scopes only make responses that mean the same. -/
theorem ofMembers_map_plain (same : ∀ name, name ≠ "scope" →
    Json.lookup? name ms = Json.lookup? name ms')
    (scopes : scopesOf ms requested = scopesOf ms' requested) :
    (ofMembers ms requested).map plain = (ofMembers ms' requested).map plain := by
  have accessToken : accessTokenOf ms = accessTokenOf ms' := by
    simp only [accessTokenOf, same "access_token" (by decide)]
  have tokenType : checkTokenType ms = checkTokenType ms' := by
    simp only [checkTokenType, same "token_type" (by decide)]
  have lifetime : lifetimeOf ms = lifetimeOf ms' := by
    simp only [lifetimeOf, same "expires_in" (by decide)]
  have refreshToken : refreshTokenOf ms = refreshTokenOf ms' := by
    simp only [refreshTokenOf, same "refresh_token" (by decide)]
  unfold ofMembers
  rw [accessToken, tokenType, lifetime, refreshToken, scopes]
  cases accessTokenOf ms' with
  | error f => rfl
  | ok token =>
    cases checkTokenType ms' with
    | error f => rfl
    | ok _ => cases lifetimeOf ms' <;> rfl

/-- Whether an answer repeats the scopes of its request or leaves them out, it means the same. -/
theorem ofAnswer_sameButScope (words : AreWords scopes) (sends : http.SendsScopes scopes)
    (keeps : a.KeepsScopes http) (keeps' : b.KeepsScopes http) (same : a.SameButScope b) :
    (ofAnswer a scopes).map plain = (ofAnswer b scopes).map plain := by
  obtain ⟨⟨accepted, accepted'⟩, ms, ms', body, body', same⟩ := same
  have scopes_same : scopesOf ms scopes = scopesOf ms' scopes := by
    rw [scopesOf_of_body body, scopesOf_of_body body', getD_of_keepsScopes words sends keeps,
      getD_of_keepsScopes words sends keeps']
  have map_mapError (x : Except Failure TokenResponse) :
      (x.mapError Fault.failure).map plain = (x.map plain).mapError Fault.failure := by
    cases x <;> rfl
  unfold ofAnswer
  simp only [accepted, accepted', body, body', if_true, map_mapError]
  rw [ofMembers_map_plain same scopes_same]

end TokenResponse

/-! ## Clients and plans -/

/-- A client whose access token has the given scopes. -/
def AuthorizedClient.HasScopes (c : AuthorizedClient) (scopes : List String) : Prop :=
  c.accessToken.scopes = scopes

/-- A plan refreshes a token of the given scopes. -/
def Plan.Asks (p : Plan) (scopes : List String) : Prop :=
  ∃ settings reg access refresh previous,
    p = ⟨.refreshToken settings, .refreshToken reg access refresh, previous⟩ ∧
    access.scopes = scopes

/-- A client keeps its scopes in either store. -/
theorem AuthorizedClient.hasScopes_kept {c : AuthorizedClient} {scopes : List String}
    (kind : StoreKind) :
    (Store.kept kind c).HasScopes scopes ↔ c.HasScopes scopes := by
  cases kind <;> rfl

namespace Engine

variable {e : Engine} {key : Key} {env : Surroundings} {s t : Shared} {p q : Phase}
  {scopes : List String}

/-! ## Plans, requests and clients -/

/-- A plan to refresh asks for the scopes of the stored client. -/
theorem asks_plan {reg : ClientRegistration} {existing : Option AuthorizedClient} {pl : Plan}
    {settings : RequestSettings} (h : e.plan key reg existing = .ok pl)
    (attended : reg.grantType.isUnattended = false) (builtIn : e.clients = .builtIn settings)
    (held : ∀ c, existing = some c → c.HasScopes scopes) : pl.Asks scopes := by
  obtain ⟨old, refresh, stored, -, rfl⟩ := plan_eq_refresh h attended builtIn
  exact ⟨settings, reg, old.accessToken, refresh, some old, rfl, held old stored⟩

/-- A plan that asks for scopes posts a request that sends them. -/
theorem sendsScopes_of_begin {pl : Plan} {sent : Transmission} (asks : pl.Asks scopes)
    (begun : pl.client.begin pl.request = .ok sent) : ∃ http, sent = .post http scopes ∧
    http.SendsScopes scopes := by
  obtain ⟨settings, reg, access, refresh, previous, rfl, rfl⟩ := asks
  cases begun
  refine ⟨_, rfl, ?_⟩
  unfold HttpRequest.SendsScopes
  simp only [TokenRequest.build, GrantRequest.parameters, GrantRequest.registration,
    TokenRequest.scopeFields, TokenRequest.credentialFields]
  cases access.scopes.isEmpty <;> cases reg.authentication <;> simp

/-- A client made of a response has its scopes. -/
theorem hasScopes_clientOf {pl : Plan} {issuedAt : DateTime} {response : TokenResponse}
    {c : AuthorizedClient} (made : e.clientOf key pl issuedAt response = .ok c) :
    c.HasScopes response.scopes := by
  unfold clientOf at made
  cases hs : issuedAt.shift? (response.expiresIn.getD e.policy.defaultLifetime * 1000000) with
  | none => simp only [hs] at made; cases made
  | some expiresAt =>
    simp only [hs] at made
    cases made
    rfl

/-! ## Phases -/

/-- A phase in which a call for the key holds a client, a plan or a request: with the given
scopes. -/
def Phase.HasScopes (scopes : List String) : Phase → Prop
  | .rejudging _ _ c | .saving _ _ c => c.HasScopes scopes
  | .stamping _ pl | .sending _ pl _ => pl.Asks scopes
  | .receiving _ _ _ sent _ => ∃ http, sent = .post http scopes ∧ http.SendsScopes scopes
  | _ => True

theorem hasScopes_start (e : Engine) (key : Key) : (e.start key).HasScopes scopes := by
  unfold start
  cases e.source.find? key.registrationId <;> trivial

/-- A call goes on with the scopes of the stored client. -/
theorem hasScopes_proceed {reg : ClientRegistration} {a : Nat} {existing : Option AuthorizedClient}
    {settings : RequestSettings} (attended : reg.grantType.isUnattended = false)
    (builtIn : e.clients = .builtIn settings) (held : ∀ c, existing = some c → c.HasScopes scopes) :
    (e.proceed key reg a existing).HasScopes scopes := by
  rcases proceed_cases e key reg a existing with ⟨pl, planned, h⟩ | ⟨f, -, h⟩
  · rw [h]
    exact asks_plan planned attended builtIn held
  · rw [h]
    trivial

/-- A step keeps the scopes, if the answer that it takes grants those of its request. -/
theorem Move.hasScopes {settings : RequestSettings} (move : Move e key env s p t q)
    (own : p.BelongsTo e key) (attended : ∀ reg, e.source.find? key.registrationId = some reg →
      reg.grantType.isUnattended = false)
    (builtIn : e.clients = .builtIn settings) (held : p.HasScopes scopes)
    (entry : ∀ c, s.store.entry key = some c → c.HasScopes scopes)
    (granted : ∀ a pl issuedAt http ticket response, p = .receiving a pl issuedAt
      (.post http scopes) ticket →
      env.result (.post http scopes) = .ok response → response.scopes = scopes) :
      q.HasScopes scopes := by
  cases move with
  | reloadsNone =>
    refine hasScopes_proceed (attended _ own) builtIn ?_
    rintro c ⟨⟩
  | reloadsSome loads => exact entry _ loads.entry_eq
  | rejudgesExpired =>
    refine hasScopes_proceed (attended _ own) builtIn ?_
    rintro c ⟨⟩
    exact held
  | stamps => exact held
  | sends begun => exact sendsScopes_of_begin held begun
  | obtains answered made =>
    obtain ⟨http, rfl, -⟩ := held
    exact (hasScopes_clientOf made).trans (granted _ _ _ http _ _ rfl answered)
  | _ => trivial

/-! ## Answers that mean the same -/

/-- What a result is settled to does not depend on members without a meaning. -/
theorem settle_congr_plain {a : Nat} {pl : Plan} {issuedAt : DateTime}
    {result result' : Except Fault TokenResponse}
    (same : result.map TokenResponse.plain = result'.map TokenResponse.plain) :
    e.settle key a pl issuedAt result = e.settle key a pl issuedAt result' := by
  cases result with
  | error fault =>
    cases result' with
    | error fault' =>
      cases same
      rfl
    | ok response' => cases same
  | ok response =>
    cases result' with
    | error fault' => cases same
    | ok response' =>
      have same : response.plain = response'.plain := Except.ok.inj same
      have made : e.clientOf key pl issuedAt response = e.clientOf key pl issuedAt response' := by
        show e.clientOf key pl issuedAt response.plain = e.clientOf key pl issuedAt response'.plain
        rw [same]
      simp only [settle, made]

/-- A step does the same with two results that differ in members without a meaning. -/
theorem step_congr_plain {env env' : Surroundings} {a : Nat} {pl : Plan} {issuedAt : DateTime}
    {sent : Transmission} {ticket : Nat}
    (same : (env.result sent).map TokenResponse.plain =
    (env'.result sent).map TokenResponse.plain) :
    e.step key env s (.receiving a pl issuedAt sent ticket) =
      e.step key env' s (.receiving a pl issuedAt sent ticket) := by
  simp only [step, settle_congr_plain same]

end Engine

end TokenBroker
