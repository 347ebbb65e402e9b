import TokenBroker.Exchange.Client
import TokenBroker.Proofs.Endpoint.TokenResponse

/-!
# How exchanges begin and end

A client takes every request of its own grant (`ExchangeClient.exists_begin`), and only a plug-in is
asked for a token in its own way (`ExchangeClient.eq_plugin_of_begin`). What a posted request ends
in, unless it is a response, is a failure of the exchange; or else the answer has no text, or the
transport has raised something of its own (`ExchangeClient.conclude_error_cases`).
-/

namespace TokenBroker

/-- A failure of a single exchange, by an answer or by none. -/
inductive Failure.OfExchange : Failure → Prop
  | transport (message : String) (e : TransportError) :
      OfExchange (.transport message none (some e))
  | rejected (code : String) (description uri status : Json) :
      OfExchange (.rejected code description uri status)
  | malformed (message : String) : OfExchange (.malformed message)

/-- The failures of an exchange count as such. -/
theorem Failure.OfExchange.isExchangeFailure {f : Failure} (h : f.OfExchange) :
    f.isExchangeFailure = true := by
  cases h <;> rfl

namespace ExchangeClient

variable {c : ExchangeClient} {request : GrantRequest} {fault : Fault}

/-- A client can be given any request of the grant type that it serves. -/
theorem exists_begin (serves : c.grantType = request.grantType) :
    ∃ sent, c.begin request = .ok sent := by
  cases c with
  | plugin => exact ⟨_, rfl⟩
  | clientCredentials =>
    cases request with
    | clientCredentials => exact ⟨_, rfl⟩
    | refreshToken => cases serves
  | refreshToken =>
    cases request with
    | clientCredentials => cases serves
    | refreshToken => exact ⟨_, rfl⟩

/-- Only a plug-in is asked by its number. -/
theorem eq_plugin_of_begin {number : Nat} (h : c.begin request = .ok (.ask number)) :
    ∃ label grant, c = .plugin label grant number := by
  unfold ExchangeClient.begin at h
  split at h
  · cases h
  · cases h
  · cases h
    exact ⟨_, _, rfl⟩
  · cases h

/-- An answer ends in a failure of the exchange or in a body that cannot be read. -/
theorem conclude_error_cases {url : String} {scopes : List String} {reply : Reply}
    (h : conclude url scopes reply = .error fault) :
    (∃ f, fault = .failure f ∧ f.OfExchange) ∨
      (∃ a e, reply = .answer a ∧ fault = .charset e ∧ a.isSuccess = false ∧
        a.member? "error" = none ∧ a.text = .error e) ∨
      (∃ label text, reply = .broke label text ∧ fault = .raised label text) ∨
      reply = .interrupted ∧ fault = .interrupted := by
  cases reply with
  | answer a =>
    rcases TokenResponse.ofAnswer_error_cases h with
      ⟨message, rfl⟩ | ⟨code, description, uri, status, rfl⟩ | ⟨e, rfl, refused, unnamed, unread⟩
    · exact .inl ⟨_, rfl, .malformed message⟩
    · exact .inl ⟨_, rfl, .rejected code description uri status⟩
    · exact .inr (.inl ⟨a, e, rfl, rfl, refused, unnamed, unread⟩)
  | failed e =>
    cases h
    exact .inl ⟨_, rfl, .transport _ e⟩
  | broke label text =>
    cases h
    exact .inr (.inr (.inl ⟨label, text, rfl, rfl⟩))
  | interrupted =>
    cases h
    exact .inr (.inr (.inr ⟨rfl, rfl⟩))

end ExchangeClient

end TokenBroker
