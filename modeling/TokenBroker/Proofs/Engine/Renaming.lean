import TokenBroker.Proofs.Engine.Lifetime
import TokenBroker.Proofs.Engine.Likeness
import TokenBroker.Proofs.Exchange.Client
import TokenBroker.Proofs.Store.Renaming

/-!
# Steps for a principal of another name

A step of a call is the same step under a renaming of principals that makes no two names one
(`step_rename`). The name picks the entry of the store and the key in flight, and stands in clients,
in failures and in the log. What is planned, what is sent and when the clock is read does not depend
on it: requests, transmissions, times of issue and numbers of attempts are untouched by
`Phase.rename`.
-/

namespace TokenBroker

variable (f : String → String)

/-- A plan whose stored client has another principal's name. -/
def Plan.rename (p : Plan) : Plan :=
  { p with previous := p.previous.map (AuthorizedClient.rename f) }

/-- How a resolution ends, with the principals renamed. -/
def Outcome.rename : Outcome → Outcome
  | .ok c => .ok (c.rename f)
  | .error fault => .error (fault.rename f)

namespace Engine

/-- The phase of a call for a principal of another name. -/
def Phase.rename : Phase → Phase
  | .judging r c => .judging r (c.rename f)
  | .rejudging r a c => .rejudging r a (c.rename f)
  | .stamping a p => .stamping a (p.rename f)
  | .sending a p issuedAt => .sending a (p.rename f) issuedAt
  | .receiving a p issuedAt sent ticket => .receiving a (p.rename f) issuedAt sent ticket
  | .dropping a x => .dropping a (x.rename f)
  | .saving a grant c => .saving a grant (c.rename f)
  | .publishing a o => .publishing a (Outcome.rename f o)
  | .releasing a o => .releasing a (Outcome.rename f o)
  | .finished o => .finished (Outcome.rename f o)
  | p => p

/-- What calls share, with the principals renamed. -/
def Shared.rename (s : Shared) : Shared where
  store := s.store.rename f
  inFlight := s.inFlight.relabel (Key.rename f) id
  outcomes := s.outcomes.map (Option.map (Outcome.rename f))

/-- Surroundings whose faults name the principals by their other names. -/
def Surroundings.rename (env : Surroundings) : Surroundings :=
  { env with
    storeFault := env.storeFault.map (Fault.rename f)
    response := env.response.mapError (Fault.rename f) }

/-- What a step leads to, with the principals renamed. -/
def Step.rename (x : Step) : Step :=
  ⟨x.shared.rename f, x.phase.rename f, x.log.map (LogEntry.rename f)⟩

variable {e : Engine} {key : Key} {env : Surroundings} {s : Shared}

@[simp] theorem outcome?_rename (p : Phase) :
    (p.rename f).outcome? = p.outcome?.map (Outcome.rename f) := by
  cases p <;> rfl

@[simp] theorem rank_rename (p : Phase) : (p.rename f).rank = p.rank := by
  cases p <;> rfl

/-- A call of the renamed key begins with the renamed phase. -/
theorem start_rename (e : Engine) (key : Key) :
    e.start (key.rename f) = (e.start key).rename f := by
  simp only [start, Key.rename]
  cases e.source.find? key.registrationId <;> rfl

/-! ## Faults that name no principal -/

/-- The fault of a date out of range names no principal. -/
theorem rename_of_isUsable {c : AuthorizedClient} {now : DateTime} {fault : Fault}
    (h : e.isUsable c now = .error fault) : fault.rename f = fault := by
  obtain ⟨rfl, -⟩ := undated_of_isUsable h
  rfl

/-- A fault of the exchange names no principal. -/
theorem rename_of_conclude {url : String} {scopes : List String} {reply : Reply} {fault : Fault}
    (h : ExchangeClient.conclude url scopes reply = .error fault) : fault.rename f = fault := by
  rcases ExchangeClient.conclude_error_cases h with
    ⟨x, rfl, exchange⟩ | ⟨a, x, -, rfl, -⟩ | ⟨label, text, -, rfl⟩ | ⟨-, rfl⟩
  · cases exchange <;> rfl
  all_goals rfl

/-- A failure to begin the exchange names no principal. -/
theorem rename_of_begin {c : ExchangeClient} {request : GrantRequest} {x : Failure}
    (h : c.begin request = .error x) : x.rename f = x := by
  unfold ExchangeClient.begin at h
  split at h
  all_goals cases h
  rfl

/-- A reply does not tell principals apart; a plug-in's response may raise a fault that names
one. -/
theorem result_rename (env : Surroundings) (sent : Transmission) :
    (env.rename f).result sent = (env.result sent).mapError (Fault.rename f) := by
  cases sent with
  | ask number => rfl
  | post http scopes =>
    simp only [Surroundings.result, Surroundings.rename]
    cases concluded : ExchangeClient.conclude http.url scopes env.reply with
    | ok response => rfl
    | error fault => simp only [Except.mapError, rename_of_conclude f concluded]

/-! ## The decisions of an engine -/

/-- Whether a client is usable does not depend on its principal. -/
theorem isUsable_rename (e : Engine) (c : AuthorizedClient) (now : DateTime) :
    e.isUsable (c.rename f) now = e.isUsable c now := rfl

/-- The plan for a renamed client is the renamed plan. -/
theorem plan_rename (e : Engine) (key : Key) (r : ClientRegistration)
    (existing : Option AuthorizedClient) :
    e.plan (key.rename f) r (existing.map (AuthorizedClient.rename f)) =
      ((e.plan key r existing).map (Plan.rename f)).mapError (Failure.rename f) := by
  unfold plan
  split
  · unfold Registry.get
    cases e.clients.find? r.grantType <;> rfl
  · cases existing with
    | none => rfl
    | some old =>
      obtain ⟨registration, principalName, accessToken, refreshToken⟩ := old
      cases refreshToken with
      | none => rfl
      | some token =>
        simp only [Option.map_some, AuthorizedClient.rename]
        cases e.clients.find? .refreshToken <;> rfl

/-- The client made for a renamed key is the renamed client. -/
theorem clientOf_rename (e : Engine) (key : Key) (p : Plan) (issuedAt : DateTime)
    (response : TokenResponse) :
    e.clientOf (key.rename f) (p.rename f) issuedAt response =
      Outcome.rename f (e.clientOf key p issuedAt response) := by
  have kept : ((p.rename f).previous.bind (·.refreshToken)) = p.previous.bind (·.refreshToken) := by
    unfold Plan.rename
    cases p.previous <;> rfl
  unfold clientOf
  rw [kept]
  simp only []
  cases issuedAt.shift? (response.expiresIn.getD e.policy.defaultLifetime * 1000000) <;> rfl

@[simp] theorem isExchangeFailure_rename (x : Failure) :
    (x.rename f).isExchangeFailure = x.isExchangeFailure := by
  cases x <;> rfl

@[simp] theorem isInvalidGrant_rename (x : Failure) :
    (x.rename f).isInvalidGrant = x.isInvalidGrant := by
  cases x <;> rfl

/-! ## Steps -/

variable {f}

/-- What a call for a principal of another name holds. -/
abbrev Likeness.renamed (f : String → String) : Likeness where
  stored c c' := c' = c.rename f
  made c c' := c' = c.rename f
  plan p p' := p' = p.rename f
  fault x x' := x' = x.rename f
  outcome o o' := o' = Outcome.rename f o
  log l l' := l' = l.map (LogEntry.rename f)

/-- A phase is like the renamed phase. -/
theorem Phase.like_rename (p : Phase) : p.Like (.renamed f) Eq (p.rename f) := by
  cases p <;> constructor <;> rfl

/-- What is like a phase but for its principal is the renamed phase. -/
theorem Phase.eq_rename {p p' : Phase} (h : p.Like (.renamed f) Eq p') : p' = p.rename f := by
  cases h <;> simp_all [Phase.rename, Likeness.failure, Fault.rename]

/-- An engine decides about a renamed client as it does about the client. -/
theorem decides_rename (e : Engine) (key : Key) :
    (Likeness.renamed f).Decides e e key (key.rename f) where
  isUsable := by
    rintro c - rfl now
    rw [isUsable_rename]
    cases judged : e.isUsable c now with
    | error fault => exact .error (rename_of_isUsable f judged).symm
    | ok usable => exact .ok rfl
  bind := by
    rintro r - c - rfl rfl
    rfl
  plan {r _ c _} registrations clients := by
    cases registrations
    rw [clients.eq_map fun _ _ h => h, plan_rename]
    cases e.plan key r c with
    | error x => exact .error rfl
    | ok p => exact .ok rfl
  begin := by
    rintro p - rfl
    show Except.Like _ _ _ (p.client.begin p.request)
    cases begun : p.client.begin p.request with
    | error x => exact .error (congrArg Fault.failure (rename_of_begin f begun).symm)
    | ok sent => exact .ok ⟨rfl, by cases sent <;> rfl⟩
  grantType := by
    rintro p - rfl
    rfl
  refreshes := by
    rintro p - rfl
    unfold Plan.rename
    cases p.previous <;> rfl
  clientOf := by
    rintro p - response - rfl rfl issuedAt
    rw [clientOf_rename]
    cases e.clientOf key p issuedAt response with
    | error fault => exact .error rfl
    | ok c => exact .ok rfl
  expiresAt := by
    rintro c - rfl
    rfl

/-- Faults about a renamed key are the renamed faults. -/
theorem raises_rename (key : Key) : (Likeness.renamed f).Raises key (key.rename f) where
  error := by
    rintro x - rfl
    rfl
  ok := by
    rintro c - rfl
    rfl
  failure := by
    rintro x - rfl
    cases x with
    | failure x =>
      exact .inl ⟨x, x.rename f, rfl, rfl, isExchangeFailure_rename f x, isInvalidGrant_rename f x⟩
    | _ => exact .inr ⟨nofun, nofun⟩
  acquisition := by
    rintro x x' same
    cases same
    rfl

/-- What is logged about a renamed key is what is logged about the key, renamed. -/
theorem logs_rename (key : Key) : (Likeness.renamed f).Logs key (key.rename f) where
  nil := rfl
  append := by
    rintro l - m - rfl rfl
    exact List.map_append.symm
  noneStored := rfl
  usingStored := rfl
  waiting := rfl
  obtained _ _ := rfl
  exchangeFailed := by
    rintro x x' grant same
    cases same
    rfl

/-- Renamed surroundings answer a renamed request as the surroundings answer the request. -/
theorem meets_rename (env : Surroundings) : (Likeness.renamed f).Meets env (env.rename f) where
  now := rfl
  storeFault := by
    refine Option.Rel.map ?_ _
    exact fun _ => rfl
  ticketOf := by
    rintro sent - rfl
    cases sent <;> rfl
  result := by
    rintro sent - rfl
    rw [result_rename]
    cases env.result sent with
    | error fault => exact .error rfl
    | ok response => exact .ok rfl

variable (distinct : Function.Injective f)
include distinct

/-- Under a renamed key the renamed client is loaded. -/
theorem load_rename (env : Surroundings) (s : Shared) (key : Key) :
    load (env.rename f) (s.rename f) (key.rename f) =
      ((load env s key).map fun found =>
        (found.1.map (AuthorizedClient.rename f), found.2.1.rename f,
          found.2.2.map (LogEntry.rename f))).mapError (Fault.rename f) := by
  obtain ⟨now, storeFault, hidden, requestTicket, pluginTicket, reply, response⟩ := env
  cases storeFault with
  | some fault => rfl
  | none =>
    cases hidden with
    | true => rfl
    | false =>
      simp only [load, Surroundings.rename, Shared.rename, Store.load_rename distinct]
      rfl

/-- A renamed store serves a renamed call as the store serves the call. -/
theorem shares_rename (env : Surroundings) (s : Shared) (key : Key) :
    (Likeness.renamed f).Shares key (key.rename f) env (env.rename f) Eq
      (fun u u' => u' = u.rename f) (fun _ _ => Eq) s (s.rename f) := by
  have keys := Key.rename_injective distinct
  -- attempts are numbered as before, for a renaming makes none
  have length : (s.rename f).outcomes.length = s.outcomes.length := by simp [Shared.rename]
  constructor
  case kept => rfl
  case grown => exact fun _ number => number
  case load =>
    rw [load_rename distinct]
    cases load env s key with
    | error fault => exact .error rfl
    | ok found =>
      refine .ok ⟨Option.Rel.map ?_ found.1, rfl, rfl⟩
      exact fun _ => rfl
  case taken =>
    simp only [Shared.rename, Table.get?_relabel keys, Option.map_id_fun, id]
    exact .refl (fun _ => rfl) _
  case take =>
    refine ⟨?_, length.symm⟩
    have put := Table.put_relabel keys id s.inFlight key s.outcomes.length
    rw [length]
    simp [Shared.rename, ← put]
  case outcome =>
    rintro a - rfl
    simp only [Shared.rename, List.getElem?_map]
    rcases s.outcomes[a]? with _ | _ | o
    · exact .none
    · exact .some .none
    · exact .some (.some rfl)
  case remove => simp [Shared.rename, Store.remove_rename distinct]
  case save =>
    rintro c - rfl
    simp [Shared.rename, Store.save_rename distinct]
  case publish =>
    rintro a - o - rfl rfl
    simp [Shared.rename, List.map_set]
  case giveBack => simp [Shared.rename, Table.erase_relabel keys]

/-- A renamed call takes the renamed steps. -/
theorem step_rename (e : Engine) (key : Key) (env : Surroundings) (s : Shared) (p : Phase) :
    e.step (key.rename f) (env.rename f) (s.rename f) (p.rename f) =
      (e.step key env s p).map (Step.rename f) := by
  have steps := Likeness.Lasts.step
    ⟨decides_rename e key, raises_rename key, logs_rename key, meets_rename env,
      shares_rename distinct env s key⟩ p.like_rename
  refine steps.eq_map ?_
  rintro ⟨u, p, log⟩ ⟨u', p', log'⟩ ⟨shared, phases, logged⟩
  cases shared
  cases Phase.eq_rename phases
  cases logged
  rfl

end Engine

end TokenBroker
