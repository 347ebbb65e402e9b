import Mathlib.Data.Option.Basic
import TokenBroker.Engine.Phase

/-!
# Two calls step by step

What does a call make of a change: of another secret, other tokens, another name, another kind of
store? It and the call without the change hold things that are like each other. A `Likeness` says
what this means for each kind of thing, and `Phase.Like` what it means for two phases. From like
phases the two calls take like steps, or neither takes any (`Likeness.Lasts.step`), as long as

* the engines make like things of like things (`Likeness.Decides`),
* like faults end a call alike (`Likeness.Raises`) and like things are logged alike
  (`Likeness.Logs`),
* the surroundings contribute alike (`Likeness.Meets`), and
* what is shared is alike and is changed alike (`Likeness.Shares`).

Every comparison of two calls is one likeness with these properties. Attempts may have other numbers
in the second call. The relation of the numbers may grow with a step, since a step may make an
attempt.
-/

theorem Option.Rel.refl {α : Type} {R : α → α → Prop} (same : ∀ a, R a a) (x : Option α) :
    Option.Rel R x x := by
  cases x with
  | none => exact .none
  | some a => exact .some (same a)

theorem Option.Rel.map {α β : Type} {R : α → β → Prop} {f : α → β} (results : ∀ a, R a (f a))
    (x : Option α) : Option.Rel R x (x.map f) := by
  cases x with
  | none => exact .none
  | some a => exact .some (results a)

theorem Option.Rel.eq_map {α β : Type} {R : α → β → Prop} {x : Option α} {x' : Option β} {f : α → β}
    (h : Option.Rel R x x') (results : ∀ a b, R a b → b = f a) : x' = x.map f := by
  cases h with
  | none => rfl
  | some h => rw [results _ _ h, Option.map_some]

namespace TokenBroker

/-- Related errors, or related results. -/
inductive Except.Like {ε ε' α β : Type} (F : ε → ε' → Prop) (R : α → β → Prop) :
    Except ε α → Except ε' β → Prop
  | error {x : ε} {x' : ε'} (h : F x x') : Like F R (.error x) (.error x')
  | ok {a : α} {b : β} (h : R a b) : Like F R (.ok a) (.ok b)

theorem Except.Like.imp {ε ε' α β : Type} {F G : ε → ε' → Prop} {R S : α → β → Prop}
    {x : Except ε α} {x' : Except ε' β} (h : Except.Like F R x x')
    (errors : ∀ y y', F y y' → G y y') (results : ∀ a b, R a b → S a b) : Except.Like G S x x' := by
  cases h with
  | error h => exact .error (errors _ _ h)
  | ok h => exact .ok (results _ _ h)

theorem Except.Like.map {ε α β : Type} {F : ε → ε → Prop} {R : α → β → Prop} (errors : ∀ x, F x x)
    {f : α → β} (results : ∀ a, R a (f a)) (x : Except ε α) : Except.Like F R x (x.map f) := by
  cases x with
  | error x => exact .error (errors x)
  | ok a => exact .ok (results a)

theorem Except.Like.refl {ε α : Type} {F : ε → ε → Prop} {R : α → α → Prop} (errors : ∀ x, F x x)
    (results : ∀ a, R a a) (x : Except ε α) : Except.Like F R x x := by
  cases x with
  | error x => exact .error (errors x)
  | ok a => exact .ok (results a)

namespace Engine

/-- The number under which something is sent. -/
def Surroundings.ticketOf (env : Surroundings) : Transmission → Nat
  | .post .. => env.requestTicket
  | .ask number => env.pluginTicket number

/-- How the things that one call holds are like those that another one holds. -/
structure Likeness where
  registration : ClientRegistration → ClientRegistration → Prop := Eq
  /-- Clients that come from the store. -/
  stored : AuthorizedClient → AuthorizedClient → Prop := Eq
  /-- Clients that a call makes, or gives out. -/
  made : AuthorizedClient → AuthorizedClient → Prop := Eq
  plan : Plan → Plan → Prop := Eq
  sent : Transmission → Transmission → Prop := Eq
  response : TokenResponse → TokenResponse → Prop := Eq
  fault : Fault → Fault → Prop := Eq
  outcome : Outcome → Outcome → Prop := Eq
  log : List LogEntry → List LogEntry → Prop := Eq

namespace Likeness

variable (R : Likeness)

/-- Two failures that are like each other as faults. -/
abbrev failure (f f' : Failure) : Prop := R.fault (.failure f) (.failure f')

/-- Two engines, each with a key, make like things of like things. -/
structure Decides (e e' : Engine) (key key' : Key) : Prop where
  isUsable {c c'} (h : R.stored c c') (now : DateTime) :
    Except.Like R.fault Eq (e.isUsable c now) (e'.isUsable c' now)
  bind {r r' c c'} (registrations : R.registration r r') (h : R.stored c c') :
    R.made (c.bind r) (c'.bind r')
  plan {r r' c c'} (registrations : R.registration r r') (h : Option.Rel R.stored c c') :
    Except.Like R.failure R.plan (e.plan key r c) (e'.plan key' r' c')
  begin {p p'} (plans : R.plan p p') :
    Except.Like R.failure
      (fun t t' => R.sent t t' ∧
        R.log (ExchangeClient.logOfBegin p.request t) (ExchangeClient.logOfBegin p'.request t'))
      (p.client.begin p.request) (p'.client.begin p'.request)
  grantType {p p'} (plans : R.plan p p') : p'.request.grantType = p.request.grantType
  refreshes {p p'} (plans : R.plan p p') : p'.previous.isSome = p.previous.isSome
  clientOf {p p' response response'} (plans : R.plan p p') (h : R.response response response')
      (issuedAt : DateTime) :
    Except.Like R.fault R.made (e.clientOf key p issuedAt response)
      (e'.clientOf key' p' issuedAt response')
  expiresAt {c c'} (h : R.made c c') : c'.accessToken.expiresAt = c.accessToken.expiresAt

/-- Faults end calls alike. -/
structure Raises (key key' : Key) : Prop where
  error {x x'} (h : R.fault x x') : R.outcome (.error x) (.error x')
  ok {c c'} (h : R.made c c') : R.outcome (.ok c) (.ok c')
  failure {x x'} (h : R.fault x x') :
    (∃ f f', x = .failure f ∧ x' = .failure f' ∧ f'.isExchangeFailure = f.isExchangeFailure ∧
        f'.isInvalidGrant = f.isInvalidGrant) ∨
      ((∀ f, x ≠ .failure f) ∧ ∀ f, x' ≠ .failure f)
  acquisition {f f'} (h : R.failure f f') :
    R.failure (.acquisitionFailed key.registrationId f true)
      (.acquisitionFailed key'.registrationId f' true)

/-- What is logged is alike. -/
structure Logs (key key' : Key) : Prop where
  nil : R.log [] []
  append {l l' m m'} (first : R.log l l') (second : R.log m m') : R.log (l ++ m) (l' ++ m')
  noneStored : R.log [.noneStored key] [.noneStored key']
  usingStored : R.log [.usingStored key] [.usingStored key']
  waiting : R.log [.waiting key] [.waiting key']
  obtained (grant : GrantType) (expiresAt : DateTime) :
    R.log [.obtained key grant expiresAt] [.obtained key' grant expiresAt]
  exchangeFailed {f f'} (grant : GrantType) (h : R.failure f f') :
    R.log [.exchangeFailed grant key f] [.exchangeFailed grant key' f']

/-- Two surroundings contribute alike. -/
structure Meets (env env' : Surroundings) : Prop where
  now : env'.now = env.now
  storeFault : Option.Rel R.fault env.storeFault env'.storeFault
  ticketOf {t t'} (h : R.sent t t') : env'.ticketOf t' = env.ticketOf t
  result {t t'} (h : R.sent t t') : Except.Like R.fault R.response (env.result t) (env'.result t')

/-- What two calls share is alike, and remains so when a step changes it. `A` relates the numbers of
attempts, and `S` and `B` relate what is shared after a step and the numbers of attempts then. -/
structure Shares (key key' : Key) (env env' : Surroundings) (A : Nat → Nat → Prop)
    (S : Shared → Shared → Prop) (B : Shared → Shared → Nat → Nat → Prop) (s s' : Shared) :
    Prop where
  kept : S s s'
  grown {u u' a a'} (h : S u u') (number : A a a') : B u u' a a'
  load :
    Except.Like R.fault
      (fun x x' => Option.Rel R.stored x.1 x'.1 ∧ S x.2.1 x'.2.1 ∧ R.log x.2.2 x'.2.2)
      (load env s key) (load env' s' key')
  taken : Option.Rel A (s.inFlight.get? key) (s'.inFlight.get? key')
  take :
    let u : Shared :=
      { s with inFlight := s.inFlight.put key s.outcomes.length, outcomes := s.outcomes ++ [none] }
    let u' : Shared :=
      { s' with
        inFlight := s'.inFlight.put key' s'.outcomes.length, outcomes := s'.outcomes ++ [none] }
    S u u' ∧ B u u' s.outcomes.length s'.outcomes.length
  outcome {a a'} (number : A a a') : Option.Rel (Option.Rel R.outcome) s.outcomes[a]?
    s'.outcomes[a']?
  remove : S { s with store := s.store.remove key } { s' with store := s'.store.remove key' }
  save {c c'} (h : R.made c c') : S { s with store := s.store.save c }
    { s' with store := s'.store.save c' }
  publish {a a' o o'} (number : A a a') (h : R.outcome o o') :
    S { s with outcomes := s.outcomes.set a (some o) }
      { s' with outcomes := s'.outcomes.set a' (some o') }
  giveBack :
    S { s with inFlight := s.inFlight.erase key } { s' with inFlight := s'.inFlight.erase key' }

/-- The likeness of two calls lasts through a step. -/
structure Lasts (e e' : Engine) (key key' : Key) (env env' : Surroundings) (A : Nat → Nat → Prop)
    (S : Shared → Shared → Prop) (B : Shared → Shared → Nat → Nat → Prop) (s s' : Shared) :
    Prop where
  decides : R.Decides e e' key key'
  raises : R.Raises key key'
  logs : R.Logs key key'
  meets : R.Meets env env'
  shares : R.Shares key key' env env' A S B s s'

/-! ### Likenesses that change no fault -/

variable {R} {key : Key}

/-- A likeness that takes equal faults only raises in both calls alike. -/
theorem Raises.of_eq (fault : R.fault = Eq) (error : ∀ x, R.outcome (.error x) (.error x))
    (ok : ∀ c c', R.made c c' → R.outcome (.ok c) (.ok c')) : R.Raises key key where
  error h := by
    rw [fault] at h
    subst h
    exact error _
  ok h := ok _ _ h
  failure {x x'} h := by
    rw [fault] at h
    subst h
    cases x with
    | failure f => exact .inl ⟨f, f, rfl, rfl, rfl, rfl⟩
    | _ => exact .inr ⟨nofun, nofun⟩
  acquisition h := by
    simp only [Likeness.failure, fault] at h ⊢
    cases h
    rfl

/-- A likeness that takes equal faults and entries only logs in both calls alike. -/
theorem Logs.of_eq (fault : R.fault = Eq) (log : R.log = Eq) : R.Logs key key := by
  constructor
  case append =>
    rw [log]
    rintro l l' m m' rfl rfl
    rfl
  case exchangeFailed =>
    simp only [Likeness.failure, fault, log]
    rintro f f' grant ⟨⟩
    rfl
  all_goals
    intros
    rw [log]

/-- Everything is the same, but for what is logged. -/
abbrev unlogged : Likeness := { log := fun _ _ => True }

/-- An engine decides about equal clients alike. -/
theorem Decides.unlogged (e : Engine) (key : Key) : Likeness.unlogged.Decides e e key key where
  isUsable h now := by
    cases h
    refine .refl ?_ ?_ _ <;> exact fun _ => rfl
  bind registrations h := by
    cases registrations
    cases h
    rfl
  plan registrations h := by
    cases registrations
    cases h with
    | none => refine .refl ?_ ?_ _ <;> exact fun _ => rfl
    | some h =>
      cases h
      refine .refl ?_ ?_ _ <;> exact fun _ => rfl
  begin plans := by
    cases plans
    refine .refl (fun _ => ?_) (fun _ => ?_) _
    · rfl
    · exact ⟨rfl, trivial⟩
  grantType plans := by
    cases plans
    rfl
  refreshes plans := by
    cases plans
    rfl
  clientOf plans h issuedAt := by
    cases plans
    cases h
    refine .refl ?_ ?_ _ <;> exact fun _ => rfl
  expiresAt h := by
    cases h
    rfl

theorem Raises.unlogged (key : Key) : Likeness.unlogged.Raises key key :=
  .of_eq rfl (fun _ => rfl) fun _ _ h => congrArg Except.ok h

theorem Logs.unlogged (key : Key) : Likeness.unlogged.Logs key key := by
  constructor <;> intros <;> trivial

theorem Meets.unlogged (env : Surroundings) : Likeness.unlogged.Meets env env where
  now := rfl
  storeFault := .refl (fun _ => rfl) _
  ticketOf h := by
    cases h
    rfl
  result h := by
    cases h
    refine .refl ?_ ?_ _ <;> exact fun _ => rfl

end Likeness

/-! ## Phases and steps -/

section Phases

variable (R : Likeness) (A : Nat → Nat → Prop)

/-- Two phases of calls that hold like things. -/
inductive Phase.Like : Phase → Phase → Prop
  | loading {r r'} (h : R.registration r r') : Like (.loading r) (.loading r')
  | judging {r r' c c'} (h : R.registration r r') (stored : R.stored c c') :
      Like (.judging r c) (.judging r' c')
  | claiming {r r'} (h : R.registration r r') : Like (.claiming r) (.claiming r')
  | waiting {a a'} (number : A a a') : Like (.waiting a) (.waiting a')
  | reloading {r r' a a'} (h : R.registration r r') (number : A a a') :
      Like (.reloading r a) (.reloading r' a')
  | rejudging {r r' a a' c c'} (h : R.registration r r') (number : A a a')
      (stored : R.stored c c') :
      Like (.rejudging r a c) (.rejudging r' a' c')
  | stamping {a a' p p'} (number : A a a') (plans : R.plan p p') :
      Like (.stamping a p) (.stamping a' p')
  | sending {a a' p p'} (number : A a a') (plans : R.plan p p') (issuedAt : DateTime) :
      Like (.sending a p issuedAt) (.sending a' p' issuedAt)
  | receiving {a a' p p' t t'} (number : A a a') (plans : R.plan p p') (issuedAt : DateTime)
      (sent : R.sent t t') (ticket : Nat) :
      Like (.receiving a p issuedAt t ticket) (.receiving a' p' issuedAt t' ticket)
  | dropping {a a' f f'} (number : A a a') (refusal : R.failure f f') :
      Like (.dropping a f) (.dropping a' f')
  | saving {a a' c c'} (number : A a a') (grant : GrantType) (made : R.made c c') :
      Like (.saving a grant c) (.saving a' grant c')
  | publishing {a a' o o'} (number : A a a') (outcome : R.outcome o o') :
      Like (.publishing a o) (.publishing a' o')
  | releasing {a a' o o'} (number : A a a') (outcome : R.outcome o o') :
      Like (.releasing a o) (.releasing a' o')
  | finished {o o'} (outcome : R.outcome o o') : Like (.finished o) (.finished o')

end Phases

/-- Two steps that lead to like phases and leave like things behind. -/
structure Step.Like (R : Likeness) (S : Shared → Shared → Prop)
    (B : Shared → Shared → Nat → Nat → Prop) (x x' : Step) : Prop where
  shared : S x.shared x'.shared
  phase : x.phase.Like R (B x.shared x'.shared) x'.phase
  log : R.log x.log x'.log

variable {R : Likeness} {A : Nat → Nat → Prop} {S : Shared → Shared → Prop}
  {B : Shared → Shared → Nat → Nat → Prop} {e e' : Engine} {key key' : Key}
  {env env' : Surroundings} {s s' : Shared} {p p' : Phase} {q q' : Plan} {a a' : Nat}

/-- A phase is like itself. -/
theorem Phase.Like.refl (p : Phase) : p.Like .unlogged Eq p := by
  cases p <;> constructor <;> rfl

/-- Only equal phases are alike but for the log. -/
theorem Phase.Like.eq (h : p.Like .unlogged Eq p') : p = p' := by
  cases h <;> simp_all [Likeness.failure]

/-- Like phases are equally far from their end. -/
theorem Phase.Like.rank (h : p.Like R A p') : p'.rank = p.rank := by
  cases h <;> rfl

/-- A fault that is no failure of the program's own is published as it is. -/
theorem settle_other {fault : Fault} {issuedAt : DateTime} (other : ∀ f, fault ≠ .failure f) :
    e.settle key a q issuedAt (.error fault) = (.publishing a (.error fault), []) := by
  cases fault with
  | failure f => exact absurd rfl (other f)
  | _ => rfl

section Steps

variable (decides : R.Decides e e' key key') (raises : R.Raises key key')
include decides raises

/-- Like clients make like phases of the attempt. -/
theorem proceed_like {r r' : ClientRegistration} {c c' : Option AuthorizedClient} (number : A a a')
    (registrations : R.registration r r') (h : Option.Rel R.stored c c') :
    (e.proceed key r a c).Like R A (e'.proceed key' r' a' c') := by
  have plans := decides.plan registrations h
  unfold proceed
  revert plans
  generalize e.plan key r c = x, e'.plan key' r' c' = x'
  rintro (⟨failures⟩ | ⟨plans⟩)
  · exact .publishing number (raises.error failures)
  · exact .stamping number plans

variable (logs : R.Logs key key')
include logs

/-- What comes of an exchange leads both to like phases. -/
theorem settle_like (number : A a a') (plans : R.plan q q') (issuedAt : DateTime)
    {result result' : Except Fault TokenResponse}
    (h : Except.Like R.fault R.response result result') :
    (e.settle key a q issuedAt result).1.Like R A (e'.settle key' a' q' issuedAt result').1 ∧
      R.log (e.settle key a q issuedAt result).2 (e'.settle key' a' q' issuedAt result').2 := by
  have grant := decides.grantType plans
  cases h with
  | @ok response response' responses =>
    have made := decides.clientOf plans responses issuedAt
    simp only [settle, grant]
    revert made
    generalize e.clientOf key q issuedAt response = x, e'.clientOf key' q' issuedAt response' = x'
    rintro (⟨faults⟩ | ⟨clients⟩)
    · exact ⟨.publishing number (raises.error faults), logs.nil⟩
    · exact ⟨.saving number _ clients, logs.nil⟩
  | @error fault fault' faults =>
    rcases raises.failure faults with ⟨f, f', rfl, rfl, exchange, refused⟩ | ⟨other, other'⟩
    · simp only [settle, grant, decides.refreshes plans, exchange, refused]
      split
      · split
        · exact ⟨.dropping number faults, logs.exchangeFailed _ faults⟩
        · exact ⟨.publishing number (raises.error (raises.acquisition faults)),
            logs.exchangeFailed _ faults⟩
      · exact ⟨.publishing number (raises.error faults), logs.nil⟩
    · rw [settle_other other, settle_other other']
      exact ⟨.publishing number (raises.error faults), logs.nil⟩

end Steps

variable {r r' : ClientRegistration} {c c' : AuthorizedClient}

namespace Likeness.Lasts

variable (h : R.Lasts e e' key key' env env' A S B s s')
include h

/-- What is shared stays as it is. -/
theorem still (number : A a a') : B s s' a a' := h.shares.grown h.shares.kept number

/-- The store is looked at in both calls. -/
theorem loading (registrations : R.registration r r') :
    Option.Rel (Step.Like R S B) (e.step key env s (.loading r))
      (e'.step key' env' s' (.loading r')) := by
  have loads := h.shares.load
  simp only [Engine.step]
  revert loads
  generalize load env s key = x, load env' s' key' = x'
  rintro (⟨faults⟩ | @⟨⟨c, u, log⟩, ⟨c', u', log'⟩, clients, stores, logged⟩)
  · exact .some ⟨h.shares.kept, .finished (h.raises.error faults), h.logs.nil⟩
  · cases clients with
    | none => exact .some ⟨stores, .claiming registrations, h.logs.append logged h.logs.noneStored⟩
    | some clients => exact .some ⟨stores, .judging registrations clients, logged⟩

/-- The leader looks at the store once more in both calls. -/
theorem reloading (registrations : R.registration r r') (number : A a a') :
    Option.Rel (Step.Like R S B) (e.step key env s (.reloading r a))
      (e'.step key' env' s' (.reloading r' a')) := by
  have loads := h.shares.load
  simp only [Engine.step]
  revert loads
  generalize load env s key = x, load env' s' key' = x'
  rintro (⟨faults⟩ | @⟨⟨c, u, log⟩, ⟨c', u', log'⟩, clients, stores, logged⟩)
  · exact .some ⟨h.shares.kept, .publishing (h.still number) (h.raises.error faults), h.logs.nil⟩
  · have number := h.shares.grown stores number
    cases clients with
    | none =>
      exact .some ⟨stores, proceed_like h.decides h.raises number registrations .none, logged⟩
    | some clients => exact .some ⟨stores, .rejudging registrations number clients, logged⟩

/-- A client is judged in both calls. -/
theorem judging (registrations : R.registration r r') (clients : R.stored c c') :
    Option.Rel (Step.Like R S B) (e.step key env s (.judging r c))
      (e'.step key' env' s' (.judging r' c')) := by
  have usable := h.decides.isUsable clients env.now
  simp only [Engine.step, h.meets.now]
  revert usable
  generalize e.isUsable c env.now = x, e'.isUsable c' env.now = x'
  rintro (⟨faults⟩ | @⟨usable, -, rfl⟩)
  · exact .some ⟨h.shares.kept, .finished (h.raises.error faults), h.logs.nil⟩
  · cases usable with
    | true =>
      have bound := h.decides.bind registrations clients
      exact .some ⟨h.shares.kept, .finished (h.raises.ok bound), h.logs.usingStored⟩
    | false => exact .some ⟨h.shares.kept, .claiming registrations, h.logs.noneStored⟩

/-- The leader judges the client it found in both calls. -/
theorem rejudging (registrations : R.registration r r') (number : A a a')
    (clients : R.stored c c') :
    Option.Rel (Step.Like R S B) (e.step key env s (.rejudging r a c))
      (e'.step key' env' s' (.rejudging r' a' c')) := by
  have usable := h.decides.isUsable clients env.now
  have number := h.still number
  simp only [Engine.step, h.meets.now]
  revert usable
  generalize e.isUsable c env.now = x, e'.isUsable c' env.now = x'
  rintro (⟨faults⟩ | @⟨usable, -, rfl⟩)
  · exact .some ⟨h.shares.kept, .publishing number (h.raises.error faults), h.logs.nil⟩
  · cases usable with
    | true =>
      have bound := h.decides.bind registrations clients
      exact .some ⟨h.shares.kept, .publishing number (h.raises.ok bound), h.logs.nil⟩
    | false =>
      exact .some ⟨h.shares.kept, proceed_like h.decides h.raises number registrations
        (.some clients), h.logs.nil⟩

/-- The key is taken in both calls, or both wait for the attempt that holds it. -/
theorem claiming (registrations : R.registration r r') :
    Option.Rel (Step.Like R S B) (e.step key env s (.claiming r))
      (e'.step key' env' s' (.claiming r')) := by
  have taken := h.shares.taken
  simp only [Engine.step]
  revert taken
  generalize s.inFlight.get? key = x, s'.inFlight.get? key' = x'
  rintro (⟨number⟩ | _)
  · exact .some ⟨h.shares.kept, .waiting (h.still number), h.logs.waiting⟩
  · obtain ⟨stores, number⟩ := h.shares.take
    exact .some ⟨stores, .reloading registrations number, h.logs.nil⟩

/-- The outcome of the attempt is awaited in both calls. -/
theorem waiting (number : A a a') :
    Option.Rel (Step.Like R S B) (e.step key env s (.waiting a))
      (e'.step key' env' s' (.waiting a')) := by
  have heard := h.shares.outcome number
  simp only [Engine.step]
  revert heard
  generalize s.outcomes[a]? = x, s'.outcomes[a']? = x'
  rintro (⟨_ | _⟩ | _)
  · next outcomes => exact .some ⟨h.shares.kept, .finished outcomes, h.logs.nil⟩
  · exact .none
  · exact .none

/-- The request is sent in both calls. -/
theorem sending (number : A a a') (plans : R.plan q q') (issuedAt : DateTime) :
    Option.Rel (Step.Like R S B) (e.step key env s (.sending a q issuedAt))
      (e'.step key' env' s' (.sending a' q' issuedAt)) := by
  have begins := h.decides.begin plans
  have number := h.still number
  simp only [Engine.step]
  revert begins
  generalize q.client.begin q.request = x, q'.client.begin q'.request = x'
  rintro (⟨failures⟩ | @⟨t, t', sent, logged⟩)
  · obtain ⟨phases, logged⟩ :=
      settle_like h.decides h.raises h.logs number plans issuedAt (.error failures)
    exact .some ⟨h.shares.kept, phases, logged⟩
  · refine .some ⟨h.shares.kept, ?_, logged⟩
    show Phase.Like R _ (.receiving a q issuedAt t (env.ticketOf t))
      (.receiving a' q' issuedAt t' (env'.ticketOf t'))
    rw [h.meets.ticketOf sent]
    exact .receiving number plans issuedAt sent _

/-- The refused client is removed in both calls. -/
theorem dropping {f f' : Failure} (number : A a a') (refusal : R.failure f f') :
    Option.Rel (Step.Like R S B) (e.step key env s (.dropping a f))
      (e'.step key' env' s' (.dropping a' f')) := by
  have faults := h.meets.storeFault
  simp only [Engine.step]
  revert faults
  generalize env.storeFault = x, env'.storeFault = x'
  rintro (⟨faults⟩ | _)
  · exact .some ⟨h.shares.kept, .publishing (h.still number) (h.raises.error faults), h.logs.nil⟩
  · have number := h.shares.grown h.shares.remove number
    have refused := h.raises.error (h.raises.acquisition refusal)
    exact .some ⟨h.shares.remove, .publishing number refused, h.logs.nil⟩

/-- The client is saved in both calls. -/
theorem saving (number : A a a') (grant : GrantType) (clients : R.made c c') :
    Option.Rel (Step.Like R S B) (e.step key env s (.saving a grant c))
      (e'.step key' env' s' (.saving a' grant c')) := by
  have faults := h.meets.storeFault
  have saved := h.shares.save clients
  simp only [Engine.step, h.decides.expiresAt clients]
  revert faults
  generalize env.storeFault = x, env'.storeFault = x'
  rintro (⟨faults⟩ | _)
  · exact .some ⟨h.shares.kept, .publishing (h.still number) (h.raises.error faults), h.logs.nil⟩
  · refine .some ⟨saved, .publishing (h.shares.grown saved number) (h.raises.ok clients), ?_⟩
    cases c.accessToken.expiresAt with
    | none => exact h.logs.nil
    | some expiresAt => exact h.logs.obtained grant expiresAt

/-- **Like steps.** From like phases both calls take like steps, or neither takes any. -/
theorem step (phases : p.Like R A p') :
    Option.Rel (Step.Like R S B) (e.step key env s p) (e'.step key' env' s' p') := by
  cases phases with
  | loading registrations => exact h.loading registrations
  | judging registrations clients => exact h.judging registrations clients
  | claiming registrations => exact h.claiming registrations
  | waiting number => exact h.waiting number
  | reloading registrations number => exact h.reloading registrations number
  | rejudging registrations number clients => exact h.rejudging registrations number clients
  | stamping number plans =>
    simp only [Engine.step, h.meets.now]
    exact .some ⟨h.shares.kept, .sending (h.still number) plans _, h.logs.nil⟩
  | sending number plans issuedAt => exact h.sending number plans issuedAt
  | receiving number plans issuedAt sent ticket =>
    obtain ⟨phases, logged⟩ := settle_like h.decides h.raises h.logs (h.still number) plans issuedAt
      (h.meets.result sent)
    exact .some ⟨h.shares.kept, phases, logged⟩
  | dropping number refusal => exact h.dropping number refusal
  | saving number grant clients => exact h.saving number grant clients
  | publishing number outcomes =>
    have published := h.shares.publish number outcomes
    exact .some ⟨published, .releasing (h.shares.grown published number) outcomes, h.logs.nil⟩
  | releasing number outcomes => exact .some ⟨h.shares.giveBack, .finished outcomes, h.logs.nil⟩
  | finished outcomes => exact .none

end Likeness.Lasts

end Engine

end TokenBroker
