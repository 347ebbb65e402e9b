import TokenBroker.Proofs.Endpoint.TokenRequest
import TokenBroker.Proofs.Engine.Move
import TokenBroker.Proofs.Store.Written

/-!
# Requests of clients with other secrets

Two engines are twins if they find the same registrations but for the secrets (`Engine.Twins`). What
one sends for a registration and the other for its twin are the same request, but for the
credentials in which the method of the registration carries the secret
(`HttpRequest.SameButCredential`): the value of one header, the value of one field of the form, or
nothing at all. Exchanges of twins begin alike (`ExchangeClient.begin_twins`).
-/

namespace TokenBroker

/-- Two registrations that differ in their secrets at most. -/
def ClientRegistration.SameButSecret (r r' : ClientRegistration) : Prop :=
  r'.withoutSecret = r.withoutSecret

theorem ClientRegistration.SameButSecret.exists_secret {r r' : ClientRegistration}
    (h : r.SameButSecret r') : ∃ secret, r' = { r with clientSecret := secret } := by
  obtain ⟨id, clientId, secret, authentication, grant, uri, scopes, authorization, redirect,
    name⟩ := r'
  refine ⟨secret, ?_⟩
  simp only [SameButSecret, withoutSecret, ClientRegistration.mk.injEq] at h
  simp only [ClientRegistration.mk.injEq, true_and]
  exact ⟨h.1, h.2.1, h.2.2.2⟩

/-- Two engines that differ in the secrets of their registrations at most. -/
structure Engine.Twins (e e' : Engine) : Prop where
  registrations : ∀ id,
    Option.Rel ClientRegistration.SameButSecret (e.source.find? id) (e'.source.find? id)
  clients : e'.clients = e.clients
  policy : e'.policy = e.policy

variable (e e' : Engine)

/-- The registrations that two engines find under one id. -/
structure ClientRegistration.Twins (r r' : ClientRegistration) : Prop where
  found : e.source.find? r.registrationId = some r
  found' : e'.source.find? r'.registrationId = some r'
  same : r.SameButSecret r'

/-- The same request for two registrations. -/
inductive GrantRequest.Twins : GrantRequest → GrantRequest → Prop
  | clientCredentials {r r'} (twins : ClientRegistration.Twins e e' r r') :
      Twins (.clientCredentials r) (.clientCredentials r')
  | refreshToken {r r'} (twins : ClientRegistration.Twins e e' r r') (access : AccessToken)
      (token : RefreshToken) :
      Twins (.refreshToken r access token) (.refreshToken r' access token)

open TokenRequest in
/-- Two requests to the token endpoint of a registration that differ in its secret at most. A client
that authenticates itself in the header sends it in the `Authorization` header alone, one that does
so in the form in the field `client_secret` alone, and any other one does not send it. -/
inductive HttpRequest.SameButCredential : HttpRequest → HttpRequest → Prop
  | header {r r'} (twins : ClientRegistration.Twins e e' r r')
      (method : r.authentication = .secretBasic)
      (form : List (String × String)) (settings : RequestSettings) :
      SameButCredential
        { url := r.tokenUri
          form
          headers := commonHeaders ++
            [("Authorization", basicCredentials r.clientId (r.clientSecret.getD ""))]
          settings }
        { url := r.tokenUri
          form
          headers := commonHeaders ++
            [("Authorization", basicCredentials r.clientId (r'.clientSecret.getD ""))]
          settings }
  | field {r r'} (twins : ClientRegistration.Twins e e' r r')
      (method : r.authentication = .secretPost)
      (parameters : List (String × String)) (settings : RequestSettings) :
      SameButCredential
        { url := r.tokenUri
          form := parameters ++ [("client_id", r.clientId),
            ("client_secret", r.clientSecret.getD "")]
          headers := commonHeaders
          settings }
        { url := r.tokenUri
          form := parameters ++ [("client_id", r.clientId),
            ("client_secret", r'.clientSecret.getD "")]
          headers := commonHeaders
          settings }
  | none {r r'} (twins : ClientRegistration.Twins e e' r r') (method : r.authentication = .none)
      (http : HttpRequest) (url : http.url = r.tokenUri) : SameButCredential http http

/-- What two exchanges have sent that differ in a secret at most. -/
inductive Transmission.Twins : Transmission → Transmission → Prop
  | post {http http'} (same : HttpRequest.SameButCredential e e' http http')
      (scopes : List String) :
      Twins (.post http scopes) (.post http' scopes)
  | ask (number : Nat) : Twins (.ask number) (.ask number)

variable {e e'}

/-- Twin engines find twin registrations. -/
theorem Engine.Twins.registered (engines : e.Twins e') (id : String) :
    Option.Rel (ClientRegistration.Twins e e') (e.source.find? id) (e'.source.find? id) := by
  have same := engines.registrations id
  cases found : e.source.find? id <;> cases found' :
    e'.source.find? id <;> rw [found, found'] at same
  · exact .none
  · cases same
  · cases same
  · have named := RegistrationSource.registrationId_of_find? found
    have named' := RegistrationSource.registrationId_of_find? found'
    exact .some ⟨by rw [named, found], by rw [named', found'], Option.rel_some_some.1 same⟩

theorem HttpRequest.SameButCredential.url {http http' : HttpRequest}
    (h : HttpRequest.SameButCredential e e' http http') : http'.url = http.url := by
  cases h <;> rfl

/-- Requests of twin registrations differ in the credential only. -/
theorem TokenRequest.build_twins {r r' : ClientRegistration}
    (twins : ClientRegistration.Twins e e' r r') (parameters : List (String × String))
    (settings : RequestSettings) :
    HttpRequest.SameButCredential e e' (build r parameters settings)
      (build r' parameters settings) := by
  obtain ⟨secret, rfl⟩ := twins.same.exists_secret
  unfold build credentialFields credentialHeaders
  cases method : r.authentication with
  | secretBasic => exact .header twins method _ settings
  | secretPost => exact .field twins method parameters settings
  | none => exact .none twins method _ rfl

namespace GrantRequest.Twins

variable {request request' : GrantRequest}

theorem registration (h : GrantRequest.Twins e e' request request') :
    ClientRegistration.Twins e e' request.registration request'.registration := by
  cases h <;> assumption

theorem requestedScopes (h : GrantRequest.Twins e e' request request') :
    request'.requestedScopes = request.requestedScopes := by
  cases h with
  | clientCredentials twins =>
    obtain ⟨secret, rfl⟩ := twins.same.exists_secret
    rfl
  | refreshToken => rfl

theorem grantType (h : GrantRequest.Twins e e' request request') :
    request'.grantType = request.grantType := by
  cases h <;> rfl

theorem parameters (h : GrantRequest.Twins e e' request request') :
    request'.parameters = request.parameters := by
  cases h with
  | clientCredentials twins =>
    obtain ⟨secret, rfl⟩ := twins.same.exists_secret
    rfl
  | refreshToken => rfl

theorem posted (h : GrantRequest.Twins e e' request request') (settings : RequestSettings) :
    HttpRequest.SameButCredential e e' (request.posted settings) (request'.posted settings) := by
  unfold GrantRequest.posted
  rw [h.parameters]
  exact TokenRequest.build_twins h.registration _ settings

end GrantRequest.Twins

/-- Two exchanges fail alike before anything is sent, or send alike. -/
theorem ExchangeClient.begin_twins (c : ExchangeClient) {request request' : GrantRequest}
    (h : GrantRequest.Twins e e' request request') :
    (∃ f, c.begin request = .error f ∧ c.begin request' = .error f) ∨
      ∃ sent sent', c.begin request = .ok sent ∧ c.begin request' = .ok sent' ∧
        Transmission.Twins e e' sent sent' := by
  have sends (settings : RequestSettings) :
      Transmission.Twins e e' (.post (request.posted settings) request.requestedScopes)
        (.post (request'.posted settings) request'.requestedScopes) := by
    rw [h.requestedScopes]
    exact .post (h.posted settings) _
  cases h with
  | clientCredentials twins =>
    cases c with
    | clientCredentials settings => exact .inr ⟨_, _, rfl, rfl, sends settings⟩
    | refreshToken => exact .inl ⟨_, rfl, rfl⟩
    | plugin label grant number => exact .inr ⟨_, _, rfl, rfl, .ask number⟩
  | refreshToken twins access token =>
    cases c with
    | clientCredentials => exact .inl ⟨_, rfl, rfl⟩
    | refreshToken settings => exact .inr ⟨_, _, rfl, rfl, sends settings⟩
    | plugin label grant number => exact .inr ⟨_, _, rfl, rfl, .ask number⟩

/-- The log says of both exchanges the same. -/
theorem ExchangeClient.logOfBegin_twins {request request' : GrantRequest}
    {sent sent' : Transmission} (h : GrantRequest.Twins e e' request request')
    (same : Transmission.Twins e e' sent sent') :
    logOfBegin request' sent' = logOfBegin request sent := by
  obtain ⟨secret, registration⟩ := h.registration.same.exists_secret
  cases same with
  | post same => simp only [logOfBegin, same.url, registration, h.grantType]
  | ask => rfl

end TokenBroker
