import TokenBroker.Proofs.Engine.Scopes
import TokenBroker.Proofs.Interleaving.RefreshTokens

/-!
# Scopes over time

The scopes of a key whose registration needs an end user, while engines with the built-in clients
are built one after another on one store (`Lineage`) and refresh its client. Where the stored client
has words for scopes and every answer that is accepted repeats the scopes of its request or has
none, all that is held for the key has these scopes at every moment (`HoldsScopes`): the stored
client, what a leader has loaded and plans, the request that it has sent, and the client that it is
about to save.

`scopes_stable_under_refresh` says so of scopes that have come from an answer: these are words,
since they are the parts of a text between blanks.
-/

namespace TokenBroker

namespace Engine

variable {k : Key} {p q : Phase} {r : Interleaving} {token : String} {scopes : List String}
  {i n : Nat}

/-- The stored client of a key and whatever is held for it have the given scopes. -/
structure HoldsScopes (k : Key) (scopes : List String) (s : Scene) : Prop where
  entry : ∀ c, s.entry k = some c → c.HasScopes scopes
  calls : ∀ {i : Nat} {p : Phase}, s.calls[i]? = some ⟨k, p⟩ → p.HasScopes scopes

/-! ## One engine -/

namespace Interleaving

/-- Every answer that is accepted for a key repeats the scope member of its request or has no
scopes. -/
def KeepsScopes (r : Interleaving) (k : Key) (stop : Nat) : Prop :=
  ∀ {n i a : Nat} {pl : Plan} {issuedAt : DateTime} {http : HttpRequest} {requested : List String}
    {ticket : Nat} {env : Surroundings} {answer : HttpAnswer} {response : TokenResponse}, n < stop →
    (r.scene n).calls[i]? = some ⟨k, .receiving a pl issuedAt (.post http requested) ticket⟩ →
    r.event n = .step i env → env.reply = .answer answer →
    TokenResponse.ofAnswer answer requested = .ok response → answer.KeepsScopes http

variable {stop : Nat}

/-- A call that moves holds the scopes. -/
theorem hasScopes_of_moved (h : r.Refreshes k stop) (keeps : r.KeepsScopes k stop)
    (words : TokenResponse.AreWords scopes) (hn : n < stop)
    (holds : HoldsScopes k scopes (r.scene n)) {env : Surroundings} (hev : r.event n = .step i env)
    (before : (r.scene n).calls[i]? = some ⟨k, p⟩)
    (move : Move r.engine k { env with now := (r.scene n).clock } (r.scene n).shared p
      (r.scene (n + 1)).shared q) : q.HasScopes scopes := by
  obtain ⟨settings, builtIn⟩ := h.builtIn
  refine move.hasScopes (r.belongsTo before) h.attended builtIn (holds.calls before) holds.entry ?_
  rintro a pl issuedAt http ticket response rfl answered
  obtain ⟨_, posted, sends⟩ := holds.calls before
  cases posted
  cases reply : env.reply with
  | answer answer =>
    simp only [Surroundings.result, reply, ExchangeClient.conclude] at answered
    exact TokenResponse.scopes_of_keepsScopes words sends (keeps hn before hev reply answered)
      answered
  | _ =>
    simp only [Surroundings.result, reply, ExchangeClient.conclude] at answered
    cases answered

/-- One event leaves the scopes of the key as they are. -/
theorem holdsScopes_succ (h : r.Refreshes k stop) (keeps : r.KeepsScopes k stop)
    (words : TokenResponse.AreWords scopes) (hn : n < stop)
    (holds : HoldsScopes k scopes (r.scene n)) :
    HoldsScopes k scopes (r.scene (n + 1)) where
  calls := by
    intro i q after
    rcases (r.turn n).call_from after with before | ⟨-, -, rfl⟩ | ⟨env, p, hev, before, move⟩
    · exact holds.calls before
    · exact hasScopes_start r.engine k
    · exact hasScopes_of_moved h keeps words hn holds hev before move
  entry := by
    intro c stored
    rcases r.entry_cases (h.alone n hn) with
      same | ⟨-, -, -, -, -, -, removed⟩ | ⟨i, a, g, c', saving, -, saved⟩
    · exact holds.entry c (same ▸ stored)
    · rw [removed] at stored
      cases stored
    · rw [saved, Store.retrieve_eq] at stored
      cases stored
      exact (AuthorizedClient.hasScopes_kept _).2 (holds.calls saving)

/-- Scopes that the stored client has at the start are held at every moment. -/
theorem holdsScopes_at (h : r.Refreshes k stop) (keeps : r.KeepsScopes k stop)
    (words : TokenResponse.AreWords scopes)
    (start : ∀ c, r.store.entry k = some c → c.HasScopes scopes) (hn : n ≤ stop) :
    HoldsScopes k scopes (r.scene n) := by
  induction n with
  | zero =>
    refine ⟨start, ?_⟩
    intro i p at_i
    simp [scene, Scene.initial] at at_i
  | succ n ih => exact holdsScopes_succ h keeps words hn (ih (Nat.le_of_succ_le hn))

end Interleaving

/-- Whichever of two answers a call takes, what follows is the same, if the two differ in their
scopes only and neither changes those of the request. -/
theorem Scene.after_sameButScope {e : Engine} {s : Scene} {a : Nat} {pl : Plan}
    {issuedAt : DateTime} {http : HttpRequest} {ticket : Nat} {env : Surroundings}
    {answer answer' : HttpAnswer} (words : TokenResponse.AreWords scopes)
    (sends : http.SendsScopes scopes)
    (at_i : s.calls[i]? = some ⟨k, .receiving a pl issuedAt (.post http scopes) ticket⟩)
    (keeps : answer.KeepsScopes http) (keeps' : answer'.KeepsScopes http)
    (same : answer.SameButScope answer') :
    s.after e (.step i { env with reply := .answer answer }) =
      s.after e (.step i { env with reply := .answer answer' }) := by
  have results : (({ env with now := s.clock, reply := .answer answer } : Surroundings).result
        (.post http scopes)).map TokenResponse.plain =
      (({ env with now := s.clock, reply := .answer answer' } : Surroundings).result
        (.post http scopes)).map TokenResponse.plain :=
    TokenResponse.ofAnswer_sameButScope words sends keeps keeps' same
  simp only [after, at_i]
  rw [step_congr_plain results]

/-! ## Engines one after another -/

namespace Lineage

variable {l : Lineage} {m : Nat}

/-- Every answer that is accepted for a key, on any of the engines, repeats the scope member of its
request or has no scopes. -/
def KeepsScopes (l : Lineage) (k : Key) : Prop := ∀ m, (l.era m).KeepsScopes k (l.ends m)

/-- Every era begins with the scopes the first one began with. -/
theorem holdsScopes_before (h : l.Refreshes k token) (keeps : l.KeepsScopes k)
    (words : TokenResponse.AreWords scopes)
    (start : ∀ c, l.store.entry k = some c → c.HasScopes scopes) (m : Nat) :
    ∀ c, (l.era m).store.entry k = some c → c.HasScopes scopes := by
  induction m with
  | zero => exact start
  | succ m ih =>
    exact (Interleaving.holdsScopes_at (h.eras m) (keeps m) words ih (Nat.le_refl _)).entry

/-- Within every era the scopes stay as they are. -/
theorem holdsScopes_at (h : l.Refreshes k token) (keeps : l.KeepsScopes k)
    (words : TokenResponse.AreWords scopes)
    (start : ∀ c, l.store.entry k = some c → c.HasScopes scopes) (hn : n ≤ l.ends m) :
    HoldsScopes k scopes ((l.era m).scene n) :=
  Interleaving.holdsScopes_at (h.eras m)
    (keeps m) words (holdsScopes_before h keeps words start m) hn

end Lineage

/-- **Scopes are stable under refresh.** The scopes that an answer with a text for scopes grants are
read again, as they are, from any answer that names them joined by blanks. And let engines with the
built-in clients be built one after another on a store of either kind that holds a client with these
scopes; the registration needs an end user, nobody else writes for the key, its saves succeed, no
refresh token is refused for good, and every answer that is accepted repeats the scope member of its
request or has no scopes. Then at every moment there is a stored client that has these scopes,
unless a call is just about to save a client that has them, every request that is under way has just
them in its form, as one member or none if they are none, and it makes no difference to what follows
whether its answer repeats them or leaves them out. -/
theorem scopes_stable_under_refresh {granted : HttpAnswer} {requested : List String}
    {response : TokenResponse} {text : String}
    (given : TokenResponse.ofAnswer granted requested = .ok response)
    (named : granted.member? "scope" = some text) :
    let scopes := response.scopes
    (∀ {again : HttpAnswer} {requested' : List String} {response' : TokenResponse},
        TokenResponse.ofAnswer again requested' = .ok response' →
        again.member? "scope" = some (" ".intercalate scopes) → response'.scopes = scopes) ∧
      ∀ {l : Lineage} {k : Key} {token : String}, l.Refreshes k token → l.KeepsScopes k →
        (∀ c, l.store.entry k = some c → c.HasScopes scopes) → ∀ {m n : Nat}, n ≤ l.ends m →
        let s := (l.era m).scene n
        ((∃ c, s.entry k = some c ∧ c.HasScopes scopes) ∨
            ∃ (i a : Nat) (g : GrantType) (c : AuthorizedClient),
              s.calls[i]? = some ⟨k, .saving a g c⟩ ∧ c.HasScopes scopes) ∧
          ∀ (i a : Nat) (pl : Plan) (issuedAt : DateTime) (sent : Transmission) (ticket : Nat),
            s.calls[i]? = some ⟨k, .receiving a pl issuedAt sent ticket⟩ →
              ∃ http, sent = .post http scopes ∧ http.SendsScopes scopes ∧
                ∀ (env : Surroundings) (answer answer' : HttpAnswer), answer.KeepsScopes http →
                  answer'.KeepsScopes http → answer.SameButScope answer' →
                  s.after (l.engine m) (.step i { env with reply := .answer answer }) =
                    s.after (l.engine m) (.step i { env with reply := .answer answer' }) := by
  intro scopes
  -- scopes that were read of a text are words, so a text of them is read back
  have words : TokenResponse.AreWords scopes := by
    show TokenResponse.AreWords response.scopes
    rw [TokenResponse.scopes_of_ofAnswer given, named]
    exact TokenResponse.areWords_splitScopes text
  constructor
  · intro again requested' response' again_given joined
    rw [TokenResponse.scopes_of_ofAnswer again_given, joined]
    exact TokenResponse.splitScopes_intercalate words
  · intro l k token refreshes keeps start m n hn s
    have holds : HoldsScopes k scopes s := Lineage.holdsScopes_at refreshes keeps words start hn
    constructor
    · rcases s.notSaving_or k with idle | ⟨i, a, g, c, saving⟩
      · obtain ⟨c, stored, -⟩ := (refreshes.carried_at hn).entry idle
        exact .inl ⟨c, stored, holds.entry c stored⟩
      · exact .inr ⟨i, a, g, c, saving, holds.calls saving⟩
    · intro i a pl issuedAt sent ticket receiving
      obtain ⟨http, rfl, sends⟩ := holds.calls receiving
      exact ⟨http, rfl, sends, fun env answer answer' keeps keeps' same =>
        Scene.after_sameButScope words sends receiving keeps keeps' same⟩

/-! ## An answer that repeats the scopes and one that leaves them out -/

namespace TwoRefreshes

def now : DateTime := default

def web : ClientRegistration :=
  { registrationId := "web", clientId := "app", grantType := .authorizationCode,
    tokenUri := "/token" }

def alice : Key := ⟨"web", "alice"⟩

/-- The answer that the first scopes come from, spaced unevenly. -/
def granted : HttpAnswer :=
  { body := Utf8.encode "\x7b\"access_token\": \"a1\", \"scope\": \" read  write \"\x7d" }

/-- The client that is stored at first. -/
def stale : AuthorizedClient where
  registration := web
  principalName := "alice"
  accessToken := { value := "a1", scopes := ["read", "write"], expiresAt := some now }
  refreshToken := some ⟨"r1", none⟩

def echoing : HttpAnswer :=
  { body := Utf8.encode
      "\x7b\"access_token\": \"a2\", \"expires_in\": 0, \"scope\": \"read write\"\x7d" }

def silent : HttpAnswer :=
  { body := Utf8.encode "\x7b\"access_token\": \"a2\", \"expires_in\": 0\x7d" }

def calm : Surroundings := { now }

/-- A call as far as its request. -/
def sending : List Event := .begin alice :: List.replicate 7 (.step 0 calm)

/-- A call from its beginning to its end. -/
def whole (answer : HttpAnswer) : List Event :=
  sending ++ .step 0 { now, reply := .answer answer } :: List.replicate 3 (.step 0 calm)

/-- Three engines: on the first two, calls that get one answer each, on the third one a call that
has sent its request. -/
def lineage : Lineage where
  store := .memory [(alice, stale)]
  engine _ := ⟨.unlisted [web], .builtIn {}, {}⟩
  clock _ := now
  event
    | 0, n => (whole echoing).getD n .pause
    | 1, n => (whole silent).getD n .pause
    | 2, n => sending.getD n .pause
    | _, _ => .pause
  ends
    | 0 | 1 => 12
    | 2 => 8
    | _ => 0

/-- An event that writes for no key, and in which the store is sound and any answer is one of
success. -/
inductive Harmless : Event → Prop
  | pause : Harmless .pause
  | begins (k : Key) : Harmless (.begin k)
  | steps (i : Nat) : Harmless (.step i calm)
  | answered (i : Nat) {answer : HttpAnswer} (accepted : answer.isSuccess = true) :
      Harmless (.step i { now, reply := .answer answer })

theorem harmless_whole {answer : HttpAnswer} (accepted : answer.isSuccess = true) (n : Nat) :
    Harmless ((whole answer).getD n .pause) := by
  rcases Event.getD_pause_cases (whole answer) n with member | paused
  · generalize (whole answer).getD n .pause = ev at member
    simp only [whole, sending, List.mem_append, List.mem_cons, List.mem_replicate] at member
    rcases member with (rfl | ⟨-, rfl⟩) | rfl | ⟨-, rfl⟩
    · exact .begins alice
    · exact .steps 0
    · exact .answered 0 accepted
    · exact .steps 0
  · rw [paused]
    exact .pause

theorem harmless_sending (n : Nat) : Harmless (sending.getD n .pause) := by
  rcases Event.getD_pause_cases sending n with member | paused
  · generalize sending.getD n .pause = ev at member
    simp only [sending, List.mem_cons, List.mem_replicate] at member
    rcases member with rfl | ⟨-, rfl⟩
    · exact .begins alice
    · exact .steps 0
  · rw [paused]
    exact .pause

theorem harmless : ∀ m n : Nat, Harmless ((lineage.era m).event n)
  | 0, n => harmless_whole rfl n
  | 1, n => harmless_whole rfl n
  | 2, n => harmless_sending n
  | _ + 3, _ => .pause

theorem engine_eq (m : Nat) : (lineage.era m).engine = ⟨.unlisted [web], .builtIn {}, {}⟩ := by
  cases m <;> rfl

theorem refreshes (m : Nat) : (lineage.era m).Refreshes alice (lineage.ends m) where
  builtIn := ⟨{}, by rw [engine_eq]⟩
  attended reg found := by
    rw [engine_eq] at found
    cases found
    rfl
  alone n _ := by
    have safe := harmless m n
    generalize (lineage.era m).event n = ev at safe
    cases safe <;> rfl
  sound {n} _ _ _ _ _ _ _ hev := by
    have safe := harmless m n
    rw [hev] at safe
    cases safe <;> rfl
  transient {n} _ _ _ _ sent _ _ _ _ _ hev failed := by
    have safe := harmless m n
    rw [hev] at safe
    cases sent with
    | ask => cases safe <;> cases failed
    | post http scopes =>
      cases safe with
      | steps => cases failed
      | @answered _ answer accepted =>
        have refused : TokenResponse.ofAnswer answer scopes = .error (.failure _) := failed
        exact TokenResponse.isInvalidGrant_of_isSuccess accepted refused

theorem handedOver (m : Nat) : ((lineage.era m).scene (lineage.ends m)).NotSaving alice := by
  have quiet : ((lineage.era m).scene (lineage.ends m)).calls.all (!·.phase.isSaving) = true := by
    match m with
    | 0 => decide +kernel
    | 1 => decide +kernel
    | 2 => decide +kernel
    | m + 3 => rfl
  intro i p at_i
  simpa using List.all_eq_true.1 quiet _ (List.mem_of_getElem? at_i)

/-- The eras refresh the client that is stored at the beginning. -/
theorem lineage_refreshes : lineage.Refreshes alice "r1" where
  stored := ⟨stale, rfl, rfl⟩
  eras := refreshes
  handedOver := handedOver

/-- A script of one whole call has its answer at one place. -/
theorem answer_of_whole {answer given : HttpAnswer} {i n : Nat} {env : Surroundings}
    (hev : (whole given).getD n .pause = .step i env) (reply : env.reply = .answer answer) :
    n = 8 ∧ i = 0 ∧ answer = given := by
  match n with
  | 8 =>
    cases hev
    cases reply
    exact ⟨rfl, rfl, rfl⟩
  | 0 => cases hev
  | 1 | 2 | 3 | 4 | 5 | 6 | 7 | 9 | 10 | 11 =>
    cases hev
    cases reply
  | n + 12 => cases hev

/-- The scope members of the requests that calls wait for. -/
def scopeFields (s : Scene) : List (List (String × String)) :=
  s.calls.filterMap fun call =>
    match call.phase with
    | .receiving _ _ _ (.post http _) _ => some (http.form.filter (·.1 = "scope"))
    | _ => none

/-- No answer of the run changes the scopes. -/
theorem keepsScopes : lineage.KeepsScopes alice := by
  intro m n i a pl issuedAt http requested ticket env answer response _ receiving hev reply _
    text named
  match m with
  | 0 =>
    obtain ⟨rfl, rfl, rfl⟩ := answer_of_whole hev reply
    have sent : scopeFields ((lineage.era 0).scene 8) = [[("scope", "read write")]] := by
      decide +kernel
    have field : http.form.filter (·.1 = "scope") ∈ scopeFields ((lineage.era 0).scene 8) :=
      List.mem_filterMap.2 ⟨_, List.mem_of_getElem? receiving, rfl⟩
    have among : ("scope", "read write") ∈ http.form.filter (·.1 = "scope") := by
      rw [sent, List.mem_singleton] at field
      rw [field]
      exact List.mem_singleton.2 rfl
    have echoed : echoing.member? "scope" = some "read write" := by decide +kernel
    rw [echoed] at named
    cases named
    exact List.mem_of_mem_filter among
  | 1 =>
    obtain ⟨-, -, rfl⟩ := answer_of_whole hev reply
    have unnamed : silent.member? "scope" = none := by decide +kernel
    rw [unnamed] at named
    cases named
  | 2 =>
    exfalso
    have quiet : env = calm := by
      rcases Event.getD_pause_cases sending n with member | paused
      · rw [show sending.getD n .pause = .step i env from hev] at member
        simp only [sending, List.mem_cons, List.mem_replicate, reduceCtorEq, false_or,
          Event.step.injEq] at member
        exact member.2.2
      · rw [show sending.getD n .pause = .step i env from hev] at paused
        cases paused
    rw [quiet] at reply
    cases reply
  | m + 3 => cases hev

end TwoRefreshes

open TwoRefreshes in
/-- After a refresh that repeats the scopes and one that leaves them out the client has the scopes
of the first answer, and so has the request of the third call. -/
theorem scopes_after_two_refreshes :
    ∃ response, TokenResponse.ofAnswer granted [] = .ok response ∧
    granted.member? "scope" = some " read  write " ∧
      response.scopes = ["read", "write"] ∧ lineage.Refreshes alice "r1" ∧
      lineage.KeepsScopes alice ∧
      (∀ c, lineage.store.entry alice = some c → c.HasScopes response.scopes) ∧ 8 ≤ lineage.ends 2 ∧
      ∃ c, ((lineage.era 2).scene 8).entry alice = some c ∧ c.accessToken.value = "a2" ∧
        c.HasScopes response.scopes := by
  have accepted : (TokenResponse.ofAnswer granted []).toOption.map (·.scopes) =
      some ["read", "write"] := by
    decide +kernel
  have named : granted.member? "scope" = some " read  write " := by decide +kernel
  cases given : TokenResponse.ofAnswer granted [] with
  | error fault =>
    rw [given] at accepted
    cases accepted
  | ok response =>
    rw [given] at accepted
    have scopes : response.scopes = ["read", "write"] := Option.some.inj accepted
    have start : ∀ c, lineage.store.entry alice = some c → c.HasScopes response.scopes := by
      rintro c ⟨⟩
      exact scopes.symm
    obtain ⟨held, -⟩ := (scopes_stable_under_refresh given named).2 lineage_refreshes
      keepsScopes start (m := 2) (n := 8) (Nat.le_refl 8)
    have refreshed : (((lineage.era 2).scene 8).entry alice).map (·.accessToken.value) =
        some "a2" := by
      decide +kernel
    refine ⟨response, rfl, named, scopes, lineage_refreshes, keepsScopes, start, Nat.le_refl 8, ?_⟩
    rcases held with ⟨c, stored, has⟩ | ⟨i, a, g, c, saving, -⟩
    · rw [stored] at refreshed
      exact ⟨c, stored, Option.some.inj refreshed, has⟩
    · cases handedOver 2 i _ saving

end Engine

end TokenBroker
