import Mathlib.Data.List.Forall2
import TokenBroker.Proofs.Engine.Likeness
import TokenBroker.Proofs.Exchange.Secrets

/-!
# Steps of twin engines

Two engines that differ in secrets at most, each with a store on disk, the same in both. A call of
one and a call of the other for the same key stay at twin phases (`Phase.Twins`): what they have
loaded is the same, what they hold of a registration differs in its secret at most, and so does a
client that they have made. From twin phases they take the same step (`step_twins`), leave the same
store, log the same and fail alike. Nothing that a step decides on looks at a secret, and a store on
disk does not keep it.
-/

namespace List.Forall₂

variable {α β : Type} {R : α → β → Prop} {as : List α} {bs : List β} {a : α} {b : β}

theorem getElem? (h : Forall₂ R as bs) (i : Nat) : Option.Rel R as[i]? bs[i]? := by
  induction h generalizing i with
  | nil => exact .none
  | cons first rest ih =>
    cases i with
    | zero => exact .some first
    | succ i => simpa using ih i

theorem set (h : Forall₂ R as bs) (i : Nat) (related : R a b) :
    Forall₂ R (as.set i a) (bs.set i b) := by
  induction h generalizing i with
  | nil => exact .nil
  | cons first rest ih =>
    cases i with
    | zero => exact .cons related rest
    | succ i => exact .cons first (ih i)

theorem map_eq {R : α → α → Prop} {as bs : List α} {f : α → β} (h : Forall₂ R as bs)
    (same : ∀ {a b}, R a b → f b = f a) : bs.map f = as.map f := by
  induction h with
  | nil => rfl
  | cons first rest ih => simp only [List.map_cons, same first, ih]

end List.Forall₂

namespace TokenBroker

variable {e e' : Engine}

/-! ## What twin calls hold -/

/-- Two clients that differ in the secrets of their registrations at most. -/
structure AuthorizedClient.Twins (e e' : Engine) (c c' : AuthorizedClient) : Prop where
  registrations : ClientRegistration.Twins e e' c.registration c'.registration
  same : c' = c.bind c'.registration

namespace AuthorizedClient.Twins

variable {c c' : AuthorizedClient} (h : Twins e e' c c')
include h

theorem key : c'.key = c.key := by
  obtain ⟨secret, same⟩ := h.registrations.same.exists_secret
  rw [h.same]
  simp only [AuthorizedClient.key, bind, same]

theorem written : Store.written c' = Store.written c := by
  obtain ⟨secret, same⟩ := h.registrations.same.exists_secret
  rw [h.same]
  simp only [Store.written, toJson, bind, ClientRegistration.toMembers, same, Bool.false_eq_true,
    if_false]

theorem describe (showToken : Bool) : c'.describe showToken = c.describe showToken := by
  obtain ⟨secret, same⟩ := h.registrations.same.exists_secret
  rw [h.same]
  simp only [AuthorizedClient.describe, bind, same]

theorem accessToken : c'.accessToken = c.accessToken := by
  rw [h.same]
  rfl

end AuthorizedClient.Twins

/-- Two outcomes: the same fault, or clients that differ in a secret at most. -/
inductive Outcome.Twins (e e' : Engine) : Outcome → Outcome → Prop
  | error (fault : Fault) : Twins e e' (.error fault) (.error fault)
  | ok {c c'} (clients : AuthorizedClient.Twins e e' c c') : Twins e e' (.ok c) (.ok c')

/-- Two plans for requests that differ in a secret at most. -/
structure Plan.Twins (e e' : Engine) (p p' : Plan) : Prop where
  client : p'.client = p.client
  request : GrantRequest.Twins e e' p.request p'.request
  previous : p'.previous = p.previous

namespace Engine

/-- What calls of twin engines hold. What they load is the same, since a store on disk keeps no
secret. -/
abbrev Likeness.twins (e e' : Engine) : Likeness where
  registration := ClientRegistration.Twins e e'
  made := AuthorizedClient.Twins e e'
  plan := Plan.Twins e e'
  sent := Transmission.Twins e e'
  outcome := Outcome.Twins e e'

/-- Two phases of calls for one key that hold the same, but for secrets of registrations. -/
abbrev Phase.Twins (e e' : Engine) : Phase → Phase → Prop := Phase.Like (.twins e e') Eq

/-- What calls of twin engines share: the same store on disk, the same keys in flight, and outcomes
that differ in secrets at most. -/
structure Shared.Twins (e e' : Engine) (s s' : Shared) : Prop where
  store : s'.store = s.store
  onDisk : s.store.kind = .disk
  inFlight : s'.inFlight = s.inFlight
  outcomes : List.Forall₂ (Option.Rel (Outcome.Twins e e')) s.outcomes s'.outcomes

/-- What two steps lead to. -/
abbrev Step.Twins (e e' : Engine) : Step → Step → Prop :=
  Step.Like (.twins e e') (Shared.Twins e e') fun _ _ => Eq

variable {key : Key} {env : Surroundings} {s s' : Shared} {p p' : Phase} {r r' : ClientRegistration}

/-- Twin engines begin a call in twin phases. -/
theorem start_twins (engines : e.Twins e') (key : Key) :
    Phase.Twins e e' (e.start key) (e'.start key) := by
  have registered := engines.registered key.registrationId
  unfold start
  revert registered
  generalize e.source.find? key.registrationId = r, e'.source.find? key.registrationId = r'
  rintro (⟨twins⟩ | _)
  · exact .loading twins
  · exact .finished (.error _)

/-- A client bound to twin registrations makes twins. -/
theorem bind_twins (twins : ClientRegistration.Twins e e' r r') (c : AuthorizedClient) :
    AuthorizedClient.Twins e e' (c.bind r) (c.bind r') := ⟨twins, rfl⟩

/-! ## The decisions of an engine -/

/-- Twin engines agree about which clients are usable. -/
theorem isUsable_twins (engines : e.Twins e') (c : AuthorizedClient) (now : DateTime) :
    e'.isUsable c now = e.isUsable c now := by
  simp only [isUsable, skew, engines.policy]

/-- Twin engines make twin plans. -/
theorem plan_twins (engines : e.Twins e') (twins : ClientRegistration.Twins e e' r r') (key : Key)
    (existing : Option AuthorizedClient) :
    Except.Like Eq (Plan.Twins e e') (e.plan key r existing) (e'.plan key r' existing) := by
  obtain ⟨secret, rfl⟩ := twins.same.exists_secret
  unfold plan
  simp only [engines.clients]
  split
  · cases e.clients.get r.grantType with
    | error f => exact .error rfl
    | ok c => exact .ok ⟨rfl, .clientCredentials twins, rfl⟩
  · cases existing with
    | none => exact .error rfl
    | some old =>
      simp only []
      split
      · exact .ok ⟨rfl, .refreshToken twins _ _, rfl⟩
      · exact .error rfl

/-- Twin plans make twin clients of an answer. -/
theorem clientOf_twins (engines : e.Twins e') (key : Key) {p p' : Plan}
    (plans : Plan.Twins e e' p p') (issuedAt : DateTime) (response : TokenResponse) :
    Except.Like Eq (AuthorizedClient.Twins e e') (e.clientOf key p issuedAt response)
      (e'.clientOf key p' issuedAt response) := by
  unfold clientOf
  simp only [engines.policy, plans.previous]
  split
  · exact .error rfl
  · exact .ok ⟨plans.request.registration, rfl⟩

/-- Twin engines decide alike. -/
theorem decides_twins (engines : e.Twins e') (key : Key) :
    (Likeness.twins e e').Decides e e' key key where
  isUsable {c _} same now := by
    cases same
    rw [isUsable_twins engines]
    refine .refl ?_ ?_ _ <;> exact fun _ => rfl
  bind {_ _ c _} registrations same := by
    cases same
    exact bind_twins registrations c
  plan registrations same := by
    have planned := plan_twins engines registrations key
    cases same with
    | none => exact (planned none).imp (fun _ _ h => congrArg Fault.failure h) fun _ _ h => h
    | some same =>
      cases same
      exact (planned (some _)).imp (fun _ _ h => congrArg Fault.failure h) fun _ _ h => h
  begin {p p'} plans := by
    rw [plans.client]
    rcases p.client.begin_twins plans.request with ⟨f, b, b'⟩ | ⟨sent, sent', b, b', same⟩ <;>
      rw [b, b']
    · exact .error rfl
    · exact .ok ⟨same, (ExchangeClient.logOfBegin_twins plans.request same).symm⟩
  grantType plans := plans.request.grantType
  refreshes plans := congrArg Option.isSome plans.previous
  clientOf plans same issuedAt := by
    cases same
    exact clientOf_twins engines key plans issuedAt _
  expiresAt clients := congrArg AccessToken.expiresAt clients.accessToken

/-- Twin calls raise the same faults. -/
theorem raises_twins (key : Key) : (Likeness.twins e e').Raises key key :=
  .of_eq rfl .error fun _ _ => .ok

/-- Twin calls log the same entries. -/
theorem logs_twins (key : Key) : (Likeness.twins e e').Logs key key := .of_eq rfl rfl

/-- What comes of an exchange is read off the reply, whatever the secret. -/
theorem result_twins (env : Surroundings) {sent sent' : Transmission}
    (same : Transmission.Twins e e' sent sent') : env.result sent' = env.result sent := by
  cases same with
  | post same => simp only [Surroundings.result, same.url]
  | ask => rfl

theorem meets_twins (env : Surroundings) : (Likeness.twins e e').Meets env env where
  now := rfl
  storeFault := .refl (fun _ => rfl) _
  ticketOf same := by cases same <;> rfl
  result same := by
    rw [result_twins env same]
    refine .refl ?_ ?_ _ <;> exact fun _ => rfl

/-! ## What calls share -/

namespace Shared.Twins

/-- Twin shared states may change their store together. -/
theorem withStore (h : Shared.Twins e e' s s') {store : Store} (onDisk : store.kind = .disk) :
    Shared.Twins e e' { s with store } { s' with store } := ⟨rfl, onDisk, h.inFlight, h.outcomes⟩

theorem remove (h : Shared.Twins e e' s s') (key : Key) :
    Shared.Twins e e' { s with store := s.store.remove key }
      { s' with store := s'.store.remove key } := by
  rw [h.store]
  exact h.withStore (by rw [Store.kind_remove, h.onDisk])

/-- A store on disk keeps the same of clients that differ in a secret at most. -/
theorem save (h : Shared.Twins e e' s s') {c c' : AuthorizedClient} (key : c'.key = c.key)
    (written : Store.written c' = Store.written c) :
    Shared.Twins e e' { s with store := s.store.save c } { s' with store := s'.store.save c' } := by
  have kept : s'.store.save c' = s.store.save c := by
    rw [h.store]
    have onDisk := h.onDisk
    cases stored : s.store with
    | memory t =>
      rw [stored] at onDisk
      cases onDisk
    | disk t => simp only [Store.save, key, written]
  rw [kept]
  exact h.withStore (by rw [Store.kind_save, h.onDisk])

/-- Twin shared states load the same client. -/
theorem load (h : Shared.Twins e e' s s') (env : Surroundings) (key : Key) :
    Except.Like Eq
      (fun x x' => Option.Rel Eq x.1 x'.1 ∧ Shared.Twins e e' x.2.1 x'.2.1 ∧ x.2.2 = x'.2.2)
      (Engine.load env s key) (Engine.load env s' key) := by
  unfold Engine.load
  cases env.storeFault with
  | some fault => exact .error rfl
  | none =>
    rw [h.store]
    cases env.hidden with
    | true => exact .ok ⟨.none, h, rfl⟩
    | false =>
      exact .ok ⟨.refl (fun _ => rfl) _, h.withStore (by rw [Store.kind_load, h.onDisk]), rfl⟩

theorem length (h : Shared.Twins e e' s s') : s'.outcomes.length = s.outcomes.length :=
  h.outcomes.length_eq.symm

/-- A key is taken in both. -/
theorem take (h : Shared.Twins e e' s s') (key : Key) :
    Shared.Twins e e'
      { s with inFlight := s.inFlight.put key s.outcomes.length, outcomes := s.outcomes ++ [none] }
      { s' with
        inFlight := s'.inFlight.put key s'.outcomes.length
        outcomes := s'.outcomes ++ [none] } where
  store := h.store
  onDisk := h.onDisk
  inFlight := by rw [h.inFlight, h.length]
  outcomes := List.rel_append h.outcomes (.cons .none .nil)

/-- Twin outcomes are published in both. -/
theorem publish (h : Shared.Twins e e' s s') (a : Nat) {o o' : Outcome}
    (outcomes : Outcome.Twins e e' o o') :
    Shared.Twins e e' { s with outcomes := s.outcomes.set a (some o) }
      { s' with outcomes := s'.outcomes.set a (some o') } where
  store := h.store
  onDisk := h.onDisk
  inFlight := h.inFlight
  outcomes := h.outcomes.set a (.some outcomes)

/-- The key is given back in both. -/
theorem giveBack (h : Shared.Twins e e' s s') (key : Key) :
    Shared.Twins e e' { s with inFlight := s.inFlight.erase key }
      { s' with inFlight := s'.inFlight.erase key } :=
  ⟨h.store, h.onDisk, by rw [h.inFlight], h.outcomes⟩

/-- Twin shared states serve the steps of twin calls alike. -/
theorem shares (h : Shared.Twins e e' s s') (env : Surroundings) (key : Key) :
    (Likeness.twins e e').Shares key key env env Eq (Shared.Twins e e') (fun _ _ => Eq) s s' where
  kept := h
  grown _ number := number
  load := h.load env key
  taken := by
    rw [h.inFlight]
    exact .refl (fun _ => rfl) _
  take := ⟨h.take key, h.length.symm⟩
  outcome := by
    rintro a - rfl
    exact h.outcomes.getElem? a
  remove := h.remove key
  save clients := h.save clients.key clients.written
  publish := by
    rintro a - o o' rfl outcomes
    exact h.publish a outcomes
  giveBack := h.giveBack key

end Shared.Twins

/-! ## Steps -/

/-- Twin calls take twin steps. -/
theorem step_twins (engines : e.Twins e') (shared : Shared.Twins e e' s s')
    (phases : Phase.Twins e e' p p') (key : Key) (env : Surroundings) :
    Option.Rel (Step.Twins e e') (e.step key env s p) (e'.step key env s' p') :=
  Likeness.Lasts.step
    ⟨decides_twins engines key, raises_twins key, logs_twins key, meets_twins env,
      shared.shares env key⟩
    phases

end Engine

end TokenBroker
