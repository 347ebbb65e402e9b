import TokenBroker.Engine.Basic

/-!
# Resolution step by step

A call of `resolve` as a sequence of phases. Each step from one phase to the next touches what calls
share at most once: it calls the store, reads the clock, looks into or changes the map of keys in
flight, starts an exchange, takes its reply, or publishes an outcome. Any order of the steps of
several calls is therefore a run that calls side by side can have.

A call that finds no usable client takes its key if no other call holds it, and becomes the leader
of a new attempt. It looks into the store once more, makes the exchange, saves the client, publishes
the outcome and then gives the key back. A call that finds the key taken waits for the attempt's
outcome.
-/

namespace TokenBroker

namespace Engine

/-- Where a call stands, with what it holds there. -/
inductive Phase
  /-- It is about to load the stored client. -/
  | loading (r : ClientRegistration)
  /-- It is about to read the clock and judge the stored client. -/
  | judging (r : ClientRegistration) (stored : AuthorizedClient)
  /-- It is about to take its key, or to find it taken. -/
  | claiming (r : ClientRegistration)
  /-- It waits for the outcome of an attempt. -/
  | waiting (attempt : Nat)
  /-- It leads an attempt and is about to load the stored client again. -/
  | reloading (r : ClientRegistration) (attempt : Nat)
  /-- It is about to read the clock and judge the client loaded again. -/
  | rejudging (r : ClientRegistration) (attempt : Nat) (stored : AuthorizedClient)
  /-- It is about to read the clock for the time of issue. -/
  | stamping (attempt : Nat) (p : Plan)
  /-- It is about to start the exchange. -/
  | sending (attempt : Nat) (p : Plan) (issuedAt : DateTime)
  /-- It waits for the reply; `ticket` is the number of its request. -/
  | receiving (attempt : Nat) (p : Plan) (issuedAt : DateTime) (sent : Transmission) (ticket : Nat)
  /-- It is about to remove the client whose refresh token was refused. -/
  | dropping (attempt : Nat) (refusal : Failure)
  /-- It is about to save the new client. -/
  | saving (attempt : Nat) (grant : GrantType) (c : AuthorizedClient)
  /-- It is about to publish the outcome of its attempt. -/
  | publishing (attempt : Nat) (o : Outcome)
  /-- It is about to give its key back. -/
  | releasing (attempt : Nat) (o : Outcome)
  | finished (o : Outcome)

namespace Phase

/-- How many steps a call has left at most, unless it has to wait. -/
def rank : Phase → Nat
  | loading _ => 13
  | judging .. => 12
  | claiming _ => 11
  | waiting _ => 1
  | reloading .. => 10
  | rejudging .. => 9
  | stamping .. => 8
  | sending .. => 7
  | receiving .. => 6
  | dropping .. => 5
  | saving .. => 5
  | publishing .. => 2
  | releasing .. => 1
  | finished _ => 0

/-- The outcome of a call that has ended. -/
def outcome? : Phase → Option Outcome
  | finished o => some o
  | _ => none

/-- The attempt that a call leads, from taking the key until giving it back. -/
def leads? : Phase → Option Nat
  | reloading _ a => some a
  | rejudging _ a _ => some a
  | stamping a _ => some a
  | sending a _ _ => some a
  | receiving a _ _ _ _ => some a
  | dropping a _ => some a
  | saving a _ _ => some a
  | publishing a _ => some a
  | releasing a _ => some a
  | _ => none

end Phase

/-- What calls share: the store, the attempt that holds each key in flight, and the published
outcome of every attempt so far. -/
structure Shared where
  store : Store
  inFlight : Table Key Nat := []
  outcomes : List (Option Outcome) := []

/-- What the surroundings contribute to a step, as far as the step asks for it. -/
structure Surroundings where
  /-- The reading of the clock. -/
  now : DateTime
  /-- The fault that a call of the store ends with. -/
  storeFault : Option Fault := none
  /-- Whether the store answers a load as if it held nothing. -/
  hidden : Bool := false
  /-- The number of a request that is posted now. -/
  requestTicket : Nat := 0
  /-- The number of a call of a plug-in that is made now. -/
  pluginTicket : Nat → Nat := fun _ => 0
  /-- The transport's reply. -/
  reply : Reply := .interrupted
  /-- The plug-in's response. -/
  response : Except Fault TokenResponse := .error .interrupted

/-- What comes of an exchange, by what it has sent. -/
def Surroundings.result (env : Surroundings) : Transmission → Except Fault TokenResponse
  | .post http scopes => ExchangeClient.conclude http.url scopes env.reply
  | .ask _ => env.response

/-- What a step leads to. -/
structure Step where
  shared : Shared
  phase : Phase
  log : List LogEntry := []

/-- The first phase of a call, or its outcome if the registration is not known. -/
def start (e : Engine) (key : Key) : Phase :=
  match e.source.find? key.registrationId with
  | none => .finished (.error (.failure (.unknownRegistration key.registrationId)))
  | some r => .loading r

/-- Loads the client of a key, under the given surroundings. -/
def load (env : Surroundings) (s : Shared) (key : Key) :
    Except Fault (Option AuthorizedClient × Shared × List LogEntry) :=
  match env.storeFault with
  | some fault => .error fault
  | none =>
    if env.hidden then .ok (none, s, [])
    else
      let found := s.store.load key
      .ok (found.client, { s with store := found.store }, found.log)

/-- Where a leader goes whose store holds no usable client. -/
def proceed (e : Engine) (key : Key) (r : ClientRegistration) (attempt : Nat)
    (existing : Option AuthorizedClient) : Phase :=
  match e.plan key r existing with
  | .ok p => .stamping attempt p
  | .error f => .publishing attempt (.error (.failure f))

/-- Where a leader goes with what came of its exchange, and what it logs. -/
def settle (e : Engine) (key : Key) (attempt : Nat) (p : Plan) (issuedAt : DateTime) :
    Except Fault TokenResponse → Phase × List LogEntry
  | .ok response =>
    match e.clientOf key p issuedAt response with
    | .ok c => (.saving attempt p.request.grantType c, [])
    | .error fault => (.publishing attempt (.error fault), [])
  | .error (.failure f) =>
    if f.isExchangeFailure then
      let log := [LogEntry.exchangeFailed p.request.grantType key f]
      if p.previous.isSome && f.isInvalidGrant then (.dropping attempt f, log)
      else
        (.publishing attempt (.error (.failure (.acquisitionFailed key.registrationId f true))),
          log)
    else (.publishing attempt (.error (.failure f)), [])
  | .error fault => (.publishing attempt (.error fault), [])

/-- The next step of a call; none if it has ended or has to wait. -/
def step (e : Engine) (key : Key) (env : Surroundings) (s : Shared) : Phase → Option Step
  | .loading r =>
    match load env s key with
    | .error fault => some ⟨s, .finished (.error fault), []⟩
    | .ok (none, s, log) => some ⟨s, .claiming r, log ++ [.noneStored key]⟩
    | .ok (some c, s, log) => some ⟨s, .judging r c, log⟩
  | .judging r c =>
    match e.isUsable c env.now with
    | .error fault => some ⟨s, .finished (.error fault), []⟩
    | .ok true => some ⟨s, .finished (.ok (c.bind r)), [.usingStored key]⟩
    | .ok false => some ⟨s, .claiming r, [.noneStored key]⟩
  | .claiming r =>
    match s.inFlight.get? key with
    | some attempt => some ⟨s, .waiting attempt, [.waiting key]⟩
    | none =>
      let attempt := s.outcomes.length
      let s := { s with inFlight := s.inFlight.put key attempt, outcomes := s.outcomes ++ [none] }
      some ⟨s, .reloading r attempt, []⟩
  | .waiting attempt =>
    match s.outcomes[attempt]? with
    | some (some o) => some ⟨s, .finished o, []⟩
    | _ => none
  | .reloading r attempt =>
    match load env s key with
    | .error fault => some ⟨s, .publishing attempt (.error fault), []⟩
    | .ok (none, s, log) => some ⟨s, e.proceed key r attempt none, log⟩
    | .ok (some c, s, log) => some ⟨s, .rejudging r attempt c, log⟩
  | .rejudging r attempt c =>
    match e.isUsable c env.now with
    | .error fault => some ⟨s, .publishing attempt (.error fault), []⟩
    | .ok true => some ⟨s, .publishing attempt (.ok (c.bind r)), []⟩
    | .ok false => some ⟨s, e.proceed key r attempt (some c), []⟩
  | .stamping attempt p => some ⟨s, .sending attempt p env.now, []⟩
  | .sending attempt p issuedAt =>
    match p.client.begin p.request with
    | .error f =>
      let (phase, log) := e.settle key attempt p issuedAt (.error (.failure f))
      some ⟨s, phase, log⟩
    | .ok sent =>
      let ticket := match sent with
        | .post .. => env.requestTicket
        | .ask number => env.pluginTicket number
      some ⟨s, .receiving attempt p issuedAt sent ticket, ExchangeClient.logOfBegin p.request sent⟩
  | .receiving attempt p issuedAt sent _ =>
    let (phase, log) := e.settle key attempt p issuedAt (env.result sent)
    some ⟨s, phase, log⟩
  | .dropping attempt refusal =>
    match env.storeFault with
    | some fault => some ⟨s, .publishing attempt (.error fault), []⟩
    | none =>
      let o : Outcome := .error (.failure (.acquisitionFailed key.registrationId refusal true))
      some ⟨{ s with store := s.store.remove key }, .publishing attempt o, []⟩
  | .saving attempt grant c =>
    match env.storeFault with
    | some fault => some ⟨s, .publishing attempt (.error fault), []⟩
    | none =>
      let log := match c.accessToken.expiresAt with
        | some t => [LogEntry.obtained key grant t]
        | none => []
      some ⟨{ s with store := s.store.save c }, .publishing attempt (.ok c), log⟩
  | .publishing attempt o =>
    some ⟨{ s with outcomes := s.outcomes.set attempt (some o) }, .releasing attempt o, []⟩
  | .releasing _ o => some ⟨{ s with inFlight := s.inFlight.erase key }, .finished o, []⟩
  | .finished _ => none

end Engine

end TokenBroker
