import TokenBroker.Exchange.Registry
import TokenBroker.Proofs.Endpoint.Reading

/-!
# Token requests as a server reads them

A token endpoint decodes the fields of the body and, if there is a header for them, the id and the
secret of the client (`Received.ofRequest?`). What it reads off a request of a built-in client is
what the grant request means (`GrantRequest.Means`): the grant, its refresh token and its scopes,
each at most once, and the credentials where the registration wants them and nowhere else.
`requests_read_as_meant` says so for every grant request, whatever characters its texts are made of.
-/

namespace TokenBroker

/-! ## What a server reads -/

/-- What is read off a request: the fields of its body, and the id and the secret of its header. -/
structure Received where
  fields : List (String × String)
  credentials : Option (String × String)

namespace Received

/-- The values under a name. -/
def values (r : Received) (name : String) : List String :=
  (r.fields.filter (·.1 = name)).map (·.2)

/-- The id and the secret of a header for them: base64 of the two, each form-encoded, with the first
colon between them. -/
def credentials? (value : String) : Option (String × String) := do
  let written ← "Basic ".toList.isPrefixOf? value.toList
  let bytes ← Base64.decode written
  let text ← (Utf8.decode bytes).toOption
  let (id, secret) ← Form.splitFirst? ':' text.toList
  some (← Form.decodeText id, ← Form.decodeText secret)

/-- The values of the headers for credentials. The case of a header's name does not matter. -/
def authorizations (headers : List (String × String)) : List String :=
  (headers.filter (·.1.toLower = "authorization")).map (·.2)

/-- What is read off a request, if it can be read. -/
def ofRequest? (r : HttpRequest) : Option Received := do
  let fields ← Form.decode r.body
  match authorizations r.headers with
  | [] => some ⟨fields, none⟩
  | [value] => some ⟨fields, some (← credentials? value)⟩
  | _ => none

/-- An id and a secret are read back from their header. -/
theorem credentials?_basicCredentials (id secret : String) :
    credentials? (TokenRequest.basicCredentials id secret) = some (id, secret) := by
  have absent : ':' ∉ Form.encodeText id := fun h =>
    Form.not_separator_of_mem_encodeText h (by decide)
  unfold credentials? TokenRequest.basicCredentials
  simp only [String.toList_append, String.toList_ofList]
  rw [List.isPrefixOf?_eq_some_iff_append_eq.2 rfl]
  simp only [Option.bind_eq_bind, Option.bind_some, Base64.decode_encode, Utf8.decode_encode,
    Except.toOption, String.toList_ofList, Form.splitFirst?_append absent,
      Form.decodeText_encodeText]

end Received

/-! ## What a request means -/

namespace GrantRequest

/-- The value of the member for scopes, if there are any. -/
def scopeValues (scopes : List String) : List String :=
  if scopes = [] then [] else [" ".intercalate scopes]

/-- What is received is what a grant request means. -/
structure Means (request : GrantRequest) (received : Received) : Prop where
  grantType : received.values "grant_type" = [request.grantType.name]
  refreshToken : received.values "refresh_token" = match request with
    | .clientCredentials _ => []
    | .refreshToken _ _ token => [token.value]
  scope : received.values "scope" = match request with
    | .clientCredentials r => scopeValues r.scopes
    | .refreshToken _ replaced _ => scopeValues replaced.scopes
  /-- The id and the secret, where the registration wants them. -/
  credentials :
    let id := request.registration.clientId
    let secret := request.registration.clientSecret.getD ""
    let found := (received.credentials, received.values "client_id",
      received.values "client_secret")
    match request.registration.authentication with
    | .secretBasic => found = (some (id, secret), [], [])
    | .secretPost => found = (none, [id], [secret])
    | .none => found = (none, [id], [])
  /-- There are no other fields. -/
  others : ∀ name, name ∉ ["grant_type", "refresh_token", "scope", "client_id", "client_secret"] →
    received.values name = []
  /-- No field comes twice. -/
  once : (received.fields.map (·.1)).Nodup

/-- The request with another id and another secret. -/
def withCredentials (id : String) (secret : Option String) : GrantRequest → GrantRequest
  | .clientCredentials r => .clientCredentials { r with clientId := id, clientSecret := secret }
  | .refreshToken r access token =>
    .refreshToken { r with clientId := id, clientSecret := secret } access token

/-- The request that a built-in client posts. -/
def posted (request : GrantRequest) (settings : RequestSettings) : HttpRequest :=
  TokenRequest.build request.registration request.parameters settings

/-- Each built-in client posts the requests of its grant. -/
theorem begin_builtIn (settings : RequestSettings) (request : GrantRequest) :
    ∃ client, (Registry.builtIn settings).find? request.grantType = some client ∧
      ∀ request' : GrantRequest, request'.grantType = request.grantType →
        client.begin request' = .ok
          (.post (request'.posted settings) request'.requestedScopes) := by
  cases request with
  | clientCredentials r =>
    refine ⟨.clientCredentials settings, rfl, ?_⟩
    intro request' same
    cases request' with
    | clientCredentials => rfl
    | refreshToken => cases same
  | refreshToken r access token =>
    refine ⟨.refreshToken settings, rfl, ?_⟩
    intro request' same
    cases request' with
    | clientCredentials => cases same
    | refreshToken => rfl

/-- What a server reads off a posted request. -/
def read (request : GrantRequest) : Received where
  fields := request.parameters ++ TokenRequest.credentialFields request.registration
  credentials := match request.registration.authentication with
    | .secretBasic =>
      some (request.registration.clientId, request.registration.clientSecret.getD "")
    | _ => none

theorem authorizations_headers (r : ClientRegistration) :
    Received.authorizations (TokenRequest.commonHeaders ++ TokenRequest.credentialHeaders r) =
      match r.authentication with
      | .secretBasic => [TokenRequest.basicCredentials r.clientId (r.clientSecret.getD "")]
      | _ => [] := by
  have common : TokenRequest.commonHeaders.filter (·.1.toLower = "authorization") = [] := by
    decide +kernel
  have lower : "Authorization".toLower = "authorization" := by decide +kernel
  unfold Received.authorizations TokenRequest.credentialHeaders
  rw [List.filter_append, common]
  cases r.authentication with
  | secretBasic => simp [lower]
  | secretPost => rfl
  | none => rfl

theorem ofRequest?_posted (request : GrantRequest) (settings : RequestSettings) :
    Received.ofRequest? (request.posted settings) = some request.read := by
  have headers := authorizations_headers request.registration
  unfold Received.ofRequest? posted TokenRequest.build HttpRequest.body read
  simp only [Form.decode_encode, headers, Option.bind_eq_bind, Option.bind_some]
  cases request.registration.authentication with
  | secretBasic =>
    simp only [Received.credentials?_basicCredentials, Option.bind_some]
  | secretPost => rfl
  | none => rfl

/-! ## The fields of a request -/

theorem values_append (fields fields' : List (String × String)) {credentials} (name : String) :
    Received.values ⟨fields ++ fields', credentials⟩ name =
      Received.values ⟨fields, none⟩ name ++ Received.values ⟨fields', none⟩ name := by
  simp [Received.values]

theorem values_scopeFields (scopes : List String) :
    Received.values ⟨TokenRequest.scopeFields scopes, none⟩ "scope" = scopeValues scopes := by
  unfold TokenRequest.scopeFields scopeValues
  cases scopes <;> rfl

/-- The names of the fields, each at most once and in this order. -/
def memberNames : List String :=
  ["grant_type", "refresh_token", "scope", "client_id", "client_secret"]

theorem names_scopeFields (scopes : List String) :
    ((TokenRequest.scopeFields scopes).map (·.1)).Sublist ["scope"] := by
  unfold TokenRequest.scopeFields
  split
  · exact List.nil_sublist _
  · exact List.Sublist.refl _

theorem names_credentialFields (r : ClientRegistration) :
    ((TokenRequest.credentialFields r).map (·.1)).Sublist ["client_id", "client_secret"] := by
  unfold TokenRequest.credentialFields
  cases r.authentication with
  | secretBasic => exact List.nil_sublist _
  | secretPost => exact List.Sublist.refl _
  | none => exact List.Sublist.cons_cons _ (List.nil_sublist _)

theorem names_parameters (request : GrantRequest) :
    (request.parameters.map (·.1)).Sublist ["grant_type", "refresh_token", "scope"] := by
  cases request with
  | clientCredentials r => exact .cons_cons _ (.cons _ (names_scopeFields r.scopes))
  | refreshToken r access token =>
    exact .cons_cons _ (.cons_cons _ (names_scopeFields access.scopes))

theorem names_read (request : GrantRequest) :
    (request.read.fields.map (·.1)).Sublist memberNames := by
  have all := (names_parameters request).append (names_credentialFields request.registration)
  rw [← List.map_append] at all
  exact all

theorem values_of_names {received : Received} {name : String}
    (h : name ∉ received.fields.map (·.1)) : received.values name = [] := by
  unfold Received.values
  rw [List.map_eq_nil_iff, List.filter_eq_nil_iff]
  intro field hf same
  exact h (List.mem_map.2 ⟨field, hf, of_decide_eq_true same⟩)

/-- A name that only the grant has a field for. -/
theorem values_of_parameters (request : GrantRequest) {name : String}
    (other : name ∉ ["client_id", "client_secret"]) :
    request.read.values name = Received.values ⟨request.parameters, none⟩ name := by
  have none_there : Received.values ⟨TokenRequest.credentialFields request.registration, none⟩
      name = [] :=
    values_of_names fun h => other ((names_credentialFields request.registration).subset h)
  show Received.values ⟨request.parameters ++ _, _⟩ name = _
  rw [values_append, none_there, List.append_nil]

/-- A name that only the credentials have a field for. -/
theorem values_of_credentials (request : GrantRequest) {name : String}
    (other : name ∉ ["grant_type", "refresh_token", "scope"]) :
    request.read.values name =
      Received.values ⟨TokenRequest.credentialFields request.registration, none⟩ name := by
  have none_there : Received.values ⟨request.parameters, none⟩ name = [] :=
    values_of_names fun h => other ((names_parameters request).subset h)
  show Received.values ⟨request.parameters ++ _, _⟩ name = _
  rw [values_append, none_there, List.nil_append]

theorem values_scopeFields_of_ne (scopes : List String) (name : String) (other : name ∉ ["scope"]) :
    Received.values ⟨TokenRequest.scopeFields scopes, none⟩ name = [] :=
  values_of_names fun h => other ((names_scopeFields scopes).subset h)

/-- The parameters of a grant are some of its own and then the scopes. -/
theorem values_parameters (request : GrantRequest) (name : String) :
    Received.values ⟨request.parameters, none⟩ name =
      match request with
      | .clientCredentials r =>
        Received.values ⟨[("grant_type", "client_credentials")], none⟩ name ++
          Received.values ⟨TokenRequest.scopeFields r.scopes, none⟩ name
      | .refreshToken _ access token =>
        Received.values ⟨[("grant_type", "refresh_token"), ("refresh_token", token.value)], none⟩
          name ++ Received.values ⟨TokenRequest.scopeFields access.scopes, none⟩ name := by
  cases request with
  | clientCredentials r =>
    exact values_append [_] (TokenRequest.scopeFields r.scopes) name
  | refreshToken r access token =>
    exact values_append [_, _] (TokenRequest.scopeFields access.scopes) name

/-- What is read off a posted request is what the request means. -/
theorem means_read (request : GrantRequest) : request.Means request.read where
  grantType := by
    rw [values_of_parameters request (by decide), values_parameters]
    cases request <;> simp only [values_scopeFields_of_ne _ "grant_type" (by decide)] <;> rfl
  refreshToken := by
    rw [values_of_parameters request (by decide), values_parameters]
    cases request <;>
      simp only [values_scopeFields_of_ne _ "refresh_token" (by decide)] <;> rfl
  scope := by
    rw [values_of_parameters request (by decide), values_parameters]
    cases request <;> simp only [values_scopeFields] <;> rfl
  credentials := by
    rw [values_of_credentials request (by decide), values_of_credentials request (by decide)]
    unfold read TokenRequest.credentialFields
    cases request.registration.authentication <;> rfl
  others name other := values_of_names fun h => other ((names_read request).subset h)
  once := (names_read request).nodup (by decide)

/-! ## What credentials have an influence on -/

@[simp] theorem parameters_withCredentials (request : GrantRequest) (id : String)
    (secret : Option String) : (request.withCredentials id secret).parameters =
      request.parameters := by
  cases request <;> rfl

@[simp] theorem registration_withCredentials (request : GrantRequest) (id : String)
    (secret : Option String) :
    (request.withCredentials id secret).registration =
      { request.registration with clientId := id, clientSecret := secret } := by
  cases request <;> rfl

@[simp] theorem grantType_withCredentials (request : GrantRequest) (id : String)
    (secret : Option String) : (request.withCredentials id secret).grantType =
      request.grantType := by
  cases request <;> rfl

@[simp] theorem requestedScopes_withCredentials (request : GrantRequest) (id : String)
    (secret : Option String) :
    (request.withCredentials id secret).requestedScopes = request.requestedScopes := by
  cases request <;> rfl

/-- What is posted in the name of a public client does not depend on a secret. -/
theorem posted_of_none {request : GrantRequest} (h : request.registration.authentication = .none)
    (settings : RequestSettings) (secret : Option String) :
    (request.withCredentials request.registration.clientId secret).posted settings =
      request.posted settings := by
  simp only [posted, TokenRequest.build, TokenRequest.credentialFields,
    TokenRequest.credentialHeaders, parameters_withCredentials, registration_withCredentials, h]

/-- The body of a request whose credentials stand in the header does not depend on them. -/
theorem body_of_secretBasic {request : GrantRequest}
    (h : request.registration.authentication = .secretBasic) (settings : RequestSettings)
    (id : String) (secret : Option String) :
    ((request.withCredentials id secret).posted settings).body =
      (request.posted settings).body := by
  simp only [posted, TokenRequest.build, TokenRequest.credentialFields, HttpRequest.body,
    parameters_withCredentials, registration_withCredentials, h]

end GrantRequest

/-! ## The result -/

/-- **Token requests are read as they are meant.** For every grant request, whatever characters its
texts are made of: the built-in client of its grant posts a request to the token endpoint of the
registration, and off that request a server reads what the grant request means. A secret that the
registration does not want sent has no influence on what is posted, and the body says nothing of
credentials that stand in the header. -/
theorem requests_read_as_meant (settings : RequestSettings) (request : GrantRequest) :
    ∃ client http received, (Registry.builtIn settings).find? request.grantType = some client ∧
      client.begin request = .ok (.post http request.requestedScopes) ∧
      http.url = request.registration.tokenUri ∧
      Received.ofRequest? http = some received ∧
      request.Means received ∧
      (request.registration.authentication = .none → ∀ secret,
        client.begin (request.withCredentials request.registration.clientId secret) =
          client.begin request) ∧
      (request.registration.authentication = .secretBasic → ∀ id secret, ∃ http',
        client.begin (request.withCredentials id secret) = .ok
          (.post http' request.requestedScopes) ∧
          http'.body = http.body) := by
  obtain ⟨client, found, begins⟩ := request.begin_builtIn settings
  have begun (id : String) (secret : Option String) :=
    begins (request.withCredentials id secret) (request.grantType_withCredentials id secret)
  refine ⟨client, request.posted settings, request.read, found, begins request rfl, rfl,
    request.ofRequest?_posted settings, request.means_read, ?_, ?_⟩
  · intro unauthenticated secret
    rw [begun, begins request rfl, GrantRequest.posted_of_none unauthenticated,
      GrantRequest.requestedScopes_withCredentials]
  · intro basic id secret
    refine ⟨_, ?_, GrantRequest.body_of_secretBasic basic settings id secret⟩
    rw [begun, GrantRequest.requestedScopes_withCredentials]

end TokenBroker
