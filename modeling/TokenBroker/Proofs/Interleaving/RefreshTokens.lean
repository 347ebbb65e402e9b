import TokenBroker.Proofs.Engine.RefreshToken
import TokenBroker.Proofs.Interleaving.InFlight
import TokenBroker.Proofs.Interleaving.Writes

/-!
# Refresh tokens over time

The refresh token of a key whose registration needs an end user, while engines with the built-in
clients are built one after another on one store (`Lineage`) and nobody else writes for the key. At
every moment one token is `Carried`: it is in the stored client, in what a leader has loaded and
plans, in the request that it has sent, and in the client that it is about to save. The token
changes only when an answer is accepted that has a text under `refresh_token`
(`Interleaving.tokenAt`), and then to that text.

`refresh_token_kept_unless_empty` compares this with the last text that is not empty. The two are
the same until an answer comes with an empty one, which takes the place of the token that still
works.
-/

namespace TokenBroker

namespace Engine

variable {k : Key} {p q : Phase} {r : Interleaving} {token : String} {i n : Nat}

/-! ## The token of a key -/

/-- No call for a key is about to save a client. -/
def Scene.NotSaving (s : Scene) (k : Key) : Prop :=
  ∀ (i : Nat) (p : Phase), s.calls[i]? = some ⟨k, p⟩ → p.isSaving = false

/-- Either no call of the key is about to save, or some call is. -/
theorem Scene.notSaving_or (s : Scene) (k : Key) :
    s.NotSaving k ∨ ∃ (i a : Nat) (g : GrantType) (c : AuthorizedClient),
      s.calls[i]? = some ⟨k, .saving a g c⟩ := by
  by_cases idle : s.NotSaving k
  · exact .inl idle
  · unfold NotSaving at idle
    push Not at idle
    obtain ⟨i, p, at_i, saving⟩ := idle
    obtain ⟨a, g, c, rfl⟩ := Phase.eq_saving (Bool.eq_true_of_not_eq_false saving)
    exact .inr ⟨i, a, g, c, at_i⟩

/-- A key that has a leader with nothing to save has no call with something to save. -/
theorem Coordinated.notSaving {s : Scene} (h : Coordinated s) (at_i : s.calls[i]? = some ⟨k, p⟩)
    (leads : p.leads?.isSome) (notSaving : p.isSaving = false) : s.NotSaving k := by
  rcases s.notSaving_or k with idle | ⟨j, a, g, c, at_j⟩
  · exact idle
  · obtain ⟨b, hp⟩ := Option.isSome_iff_exists.1 leads
    obtain ⟨-, rfl⟩ := h.phase_unique at_i hp at_j rfl
    cases notSaving

/-- Whatever is held for a key carries one refresh token; so does the stored client, unless a new
one is about to be saved. -/
structure Carried (k : Key) (token : String) (s : Scene) : Prop where
  entry : s.NotSaving k → ∃ c, s.entry k = some c ∧ c.Carries token
  calls : ∀ {i : Nat} {p : Phase}, s.calls[i]? = some ⟨k, p⟩ → p.Carries token

namespace Interleaving

/-- The text under `refresh_token` in an answer that event `n` brings to a call for a key, if the
answer is accepted and a client made of it. -/
def tokenAt (r : Interleaving) (k : Key) (n : Nat) : Option String :=
  match r.event n with
  | .step i env =>
    match (r.scene n).calls[i]?, (r.scene (n + 1)).calls[i]?, env.reply with
    | some ⟨l, .receiving ..⟩, some ⟨_, .saving ..⟩, .answer answer =>
      if l = k then answer.member? "refresh_token" else none
    | _, _, _ => none
  | _ => none

/-- The last of the texts before event `n` that are to be taken for refresh tokens, or the one at
the start. -/
def tokenAfter (r : Interleaving) (k : Key) (taken : String → Bool) (token : String) : Nat → String
  | 0 => token
  | n + 1 => ((r.tokenAt k n).filter taken).getD (r.tokenAfter k taken token n)

/-- A refresh token is received when a call of the key goes from its request to saving. -/
theorem tokenAt_eq_some (h : r.tokenAt k n = some token) :
    ∃ i env a pl issuedAt sent ticket l a' g c, r.event n = .step i env ∧
      (r.scene n).calls[i]? = some ⟨k, .receiving a pl issuedAt sent ticket⟩ ∧
      (r.scene (n + 1)).calls[i]? = some ⟨l, .saving a' g c⟩ := by
  unfold tokenAt at h
  split at h
  · next i env hev =>
    split at h
    · next l a pl issuedAt sent ticket l' a' g c answer before after reply =>
      split at h
      · next hl =>
        subst hl
        exact ⟨i, env, a, pl, issuedAt, sent, ticket, l', a', g, c, hev, before, after⟩
      · cases h
    · cases h
  · cases h

/-- Engines with the built-in clients serve a key whose registration needs an end user. Nobody else
writes for the key, its saves succeed, and no refresh token of it is refused for good. -/
structure Refreshes (r : Interleaving) (k : Key) (stop : Nat) : Prop where
  builtIn : ∃ settings, r.engine.clients = .builtIn settings
  attended : ∀ reg, r.engine.source.find? k.registrationId = some reg →
    reg.grantType.isUnattended = false
  alone : ∀ n < stop, (r.event n).writes k = false
  sound : ∀ {n i a : Nat} {g : GrantType} {c : AuthorizedClient} {env : Surroundings}, n < stop →
    (r.scene n).calls[i]? = some ⟨k, .saving a g c⟩ → r.event n = .step i env →
      env.storeFault = none
  transient : ∀ {n i a : Nat} {pl : Plan} {issuedAt : DateTime} {sent : Transmission} {ticket : Nat}
    {env : Surroundings} {f : Failure}, n < stop →
    (r.scene n).calls[i]? = some ⟨k, .receiving a pl issuedAt sent ticket⟩ →
      r.event n = .step i env →
    env.result sent = .error (.failure f) → f.isInvalidGrant = false

/-- A call that does not move carries the token that there is now: when the token changes, another
call leads. -/
theorem carries_of_unmoved (before : (r.scene n).calls[i]? = some ⟨k, p⟩)
    (after : (r.scene (n + 1)).calls[i]? = some ⟨k, p⟩) (carried : p.Carries token) :
    p.Carries ((r.tokenAt k n).getD token) := by
  cases changed : r.tokenAt k n with
  | none => exact carried
  | some text =>
    obtain ⟨j, env, a, pl, issuedAt, sent, ticket, l, a', g, c, -, receiving, saving⟩ :=
      tokenAt_eq_some changed
    refine Phase.carries_of_leads? ?_
    cases leads : p.leads? with
    | none => rfl
    | some b =>
      obtain ⟨rfl, rfl⟩ := (r.coordinated n).phase_unique before leads receiving rfl
      rw [after] at saving
      cases saving

namespace Refreshes

variable {stop : Nat}

/-- A call that moves carries the token that there is now. -/
theorem carries_of_moved (h : r.Refreshes k stop) (hn : n < stop)
    (carried : Carried k token (r.scene n)) (hev : r.event n = .step i env)
    (before : (r.scene n).calls[i]? = some ⟨k, p⟩)
    (after : (r.scene (n + 1)).calls[i]? = some ⟨k, q⟩)
    (move : Move r.engine k { env with now := (r.scene n).clock } (r.scene n).shared p
      (r.scene (n + 1)).shared q) :
    q.Carries ((r.tokenAt k n).getD token) := by
  by_cases receiving : ∃ a pl issuedAt sent ticket, p = .receiving a pl issuedAt sent ticket
  · obtain ⟨a, pl, issuedAt, sent, ticket, rfl⟩ := receiving
    rcases move.carries_of_receiving (carried.calls before) with
      ⟨g, c, answer, rfl, reply, obtained⟩ | ⟨f, refused, invalid⟩ | ⟨fault, rfl⟩
    · have text : r.tokenAt k n = answer.member? "refresh_token" := by
        simp only at reply
        simp [tokenAt, hev, before, after, reply]
      rw [text]
      exact obtained
    · have same : ({ env with now := (r.scene n).clock } : Surroundings).result sent =
        env.result sent := by
        cases sent <;> rfl
      rw [same] at refused
      have valid := h.transient hn before hev refused
      rw [invalid] at valid
      cases valid
    · trivial
  · have unchanged : r.tokenAt k n = none := by
      refine Option.eq_none_iff_forall_ne_some.2 fun text changed => ?_
      obtain ⟨j, env', a, pl, issuedAt, sent, ticket, l, a', g, c, hev', received, -⟩ :=
        tokenAt_eq_some changed
      rw [hev] at hev'
      cases hev'
      rw [before] at received
      cases received
      exact receiving ⟨a, pl, issuedAt, sent, ticket, rfl⟩
    rw [unchanged]
    obtain ⟨settings, builtIn⟩ := h.builtIn
    refine move.carries (r.belongsTo before) h.attended builtIn (carried.calls before) ?_ ?_
    · intro c stored leads notSaving
      -- the call leads, so none of the others is about to save a client
      have quiet := (r.coordinated n).notSaving before leads notSaving
      obtain ⟨c', stored', has⟩ := carried.entry quiet
      rw [show (r.scene n).entry k = some c from stored] at stored'
      cases stored'
      exact has
    · intro a pl issuedAt sent ticket same
      exact receiving ⟨a, pl, issuedAt, sent, ticket, same⟩

/-- What a call was about to save, and is no more, is stored. -/
theorem entry_of_saving (h : r.Refreshes k stop) (hn : n < stop) {a : Nat} {g : GrantType}
    {c : AuthorizedClient} (before : (r.scene n).calls[i]? = some ⟨k, .saving a g c⟩)
    (gone : (r.scene (n + 1)).calls[i]? ≠ some ⟨k, .saving a g c⟩) :
    (r.scene (n + 1)).entry k = some (Store.kept r.store.kind c) := by
  rcases (r.turn n).call_cases before with still | ⟨env, q, hev, move, -⟩
  · exact absurd still gone
  · have own := r.belongsTo before
    have sound := h.sound hn before hev
    rw [← Store.retrieve_eq, ← own.key_eq, ← r.kind n]
    generalize hs : (r.scene (n + 1)).shared = t at move
    cases move with
    | saveFails raised =>
      rw [show env.storeFault = some _ from raised] at sound
      cases sound
    | saves =>
      show (r.scene (n + 1)).shared.store.entry c.key = _
      rw [hs]
      exact Store.entry_save_self _ c

/-- One event: the token that there is now is carried on. -/
theorem carried_succ (h : r.Refreshes k stop) (hn : n < stop)
    (carried : Carried k token (r.scene n)) :
    Carried k ((r.tokenAt k n).getD token) (r.scene (n + 1)) where
  calls := by
    intro i q after
    rcases (r.turn n).call_from after with before | ⟨-, -, rfl⟩ | ⟨env, p, hev, before, move⟩
    · exact carries_of_unmoved before after (carried.calls before)
    · exact carries_start r.engine k
    · exact h.carries_of_moved hn carried hev before after move
  entry := by
    intro quiet
    -- a new token is with the call that is about to save it
    have unchanged : r.tokenAt k n = none := by
      refine Option.eq_none_iff_forall_ne_some.2 fun text changed => ?_
      obtain ⟨j, env, a, pl, issuedAt, sent, ticket, l, a', g, c, -, receiving, saving⟩ :=
        tokenAt_eq_some changed
      obtain rfl : l = k := by
        rcases (r.turn n).call_cases receiving with after | ⟨env, q, -, -, after⟩ <;>
          rw [saving] at after <;> cases after
        rfl
      cases quiet j _ saving
    rw [unchanged]
    rcases (r.scene n).notSaving_or k with idle | ⟨i, a, g, c, saving⟩
    · rcases r.entry_cases (h.alone n hn) with
        same | ⟨i, a, f, o, dropping, -⟩ | ⟨i, a, g, c, saving, -⟩
      · rw [same]
        exact carried.entry idle
      · exact (carried.calls dropping).elim
      · cases idle i _ saving
    · refine ⟨_, h.entry_of_saving hn saving fun still => ?_, ?_⟩
      · cases quiet i _ still
      · exact (AuthorizedClient.carries_kept _).2 (carried.calls saving)

/-- At every moment the last text is carried, if the first token is at the start. -/
theorem carried_at (h : r.Refreshes k stop)
    (start : ∃ c, r.store.entry k = some c ∧ c.Carries token) (hn : n ≤ stop) :
    Carried k (r.tokenAfter k (fun _ => true) token n) (r.scene n) := by
  induction n with
  | zero =>
    refine ⟨fun _ => start, ?_⟩
    intro i p at_i
    simp [scene, Scene.initial] at at_i
  | succ n ih =>
    have next := h.carried_succ hn (ih (Nat.le_of_succ_le hn))
    have all : (r.tokenAt k n).filter (fun _ => true) = r.tokenAt k n := by
      cases r.tokenAt k n <;> rfl
    rw [tokenAfter, all]
    exact next

end Refreshes

/-- The last text and the last one that is not empty are the same, unless the last text is empty. -/
theorem tokenAfter_agree {usable : String} (some_usable : usable ≠ "")
    (agree : token = usable ∨ token = "") (n : Nat) :
    r.tokenAfter k (· ≠ "") usable n ≠ "" ∧
      (r.tokenAfter k (fun _ => true) token n = r.tokenAfter k (· ≠ "") usable n ∨
        r.tokenAfter k (fun _ => true) token n = "") := by
  induction n with
  | zero => exact ⟨some_usable, agree⟩
  | succ n ih =>
    simp only [tokenAfter]
    cases r.tokenAt k n with
    | none => exact ih
    | some text =>
      by_cases empty : text = ""
      · subst empty
        exact ⟨ih.1, .inr rfl⟩
      · simp [Option.filter_some, empty]

end Interleaving

/-! ## Engines one after another -/

/-- Engines that are built one after another on one store. Each has a clock and events of its own,
and the next one is built after a number of them, on what the store holds then. -/
structure Lineage where
  store : Store
  engine : Nat → Engine
  clock : Nat → DateTime
  event : Nat → Nat → Event
  ends : Nat → Nat

namespace Lineage

/-- The calls on one of the engines. -/
def era (l : Lineage) : Nat → Interleaving
  | 0 => ⟨l.engine 0, l.clock 0, l.store, l.event 0⟩
  | m + 1 =>
    ⟨l.engine (m + 1), l.clock (m + 1), ((l.era m).scene (l.ends m)).shared.store, l.event (m + 1)⟩

/-- The last of the texts before an engine is built that are to be taken for refresh tokens. -/
def tokenBefore (l : Lineage) (k : Key) (taken : String → Bool) (token : String) : Nat → String
  | 0 => token
  | m + 1 => (l.era m).tokenAfter k taken (l.tokenBefore k taken token m) (l.ends m)

/-- The last of the texts before an event that are to be taken for refresh tokens. -/
def tokenAfter (l : Lineage) (k : Key) (taken : String → Bool) (token : String) (m n : Nat) :
    String :=
  (l.era m).tokenAfter k taken (l.tokenBefore k taken token m) n

/-- A client with a refresh token is stored for a key, every engine refreshes it, and none is
replaced while it is about to save one. -/
structure Refreshes (l : Lineage) (k : Key) (token : String) : Prop where
  stored : ∃ c, l.store.entry k = some c ∧ c.Carries token
  eras : ∀ m, (l.era m).Refreshes k (l.ends m)
  handedOver : ∀ m, ((l.era m).scene (l.ends m)).NotSaving k

variable {l : Lineage} {m : Nat}

/-- Each era begins with a stored client that carries the last refresh token. -/
theorem Refreshes.stored_before (h : l.Refreshes k token) (m : Nat) :
    ∃ c, (l.era m).store.entry k = some c ∧
    c.Carries (l.tokenBefore k (fun _ => true) token m) := by
  induction m with
  | zero => exact h.stored
  | succ m ih => exact ((h.eras m).carried_at ih (Nat.le_refl _)).entry (h.handedOver m)

/-- Within an era the stored client carries the last refresh token received. -/
theorem Refreshes.carried_at (h : l.Refreshes k token) (hn : n ≤ l.ends m) :
    Carried k (l.tokenAfter k (fun _ => true) token m n) ((l.era m).scene n) :=
  (h.eras m).carried_at (h.stored_before m) hn

/-- The last token is the last usable one, or the empty one was received since. -/
theorem tokenBefore_agree (some_usable : token ≠ "") (m : Nat) :
    l.tokenBefore k (· ≠ "") token m ≠ "" ∧
      (l.tokenBefore k (fun _ => true) token m = l.tokenBefore k (· ≠ "") token m ∨
        l.tokenBefore k (fun _ => true) token m = "") := by
  induction m with
  | zero => exact ⟨some_usable, .inl rfl⟩
  | succ m ih => exact Interleaving.tokenAfter_agree ih.1 ih.2 (l.ends m)

end Lineage

/-- **A refresh token is kept until an empty one comes.** Engines with the built-in clients are
built one after another on a store of either kind that holds a client with a refresh token; the
registration needs an end user, nobody else writes for the key, its saves succeed, and whatever else
comes of its exchanges, no refresh token is refused for good. Then at every moment the last text
that an accepted answer has had under `refresh_token`, or the first token if none has had one, is
the refresh token of the stored client, unless a call is just about to save a client that has it,
and every request that is under way sends it. It is the last text that is not empty exactly if it is
not empty itself. -/
theorem refresh_token_kept_unless_empty {l : Lineage} {m : Nat} (h : l.Refreshes k token)
    (usable : token ≠ "") (hn : n ≤ l.ends m) :
    let s := (l.era m).scene n
    let last := l.tokenAfter k (fun _ => true) token m n
    let lastUsable := l.tokenAfter k (· ≠ "") token m n
    ((∃ c, s.entry k = some c ∧ c.Carries last) ∨
        ∃ (i a : Nat) (g : GrantType) (c : AuthorizedClient),
          s.calls[i]? = some ⟨k, .saving a g c⟩ ∧ c.Carries last) ∧
      (∀ (i a : Nat) (pl : Plan) (issuedAt : DateTime) (sent : Transmission) (ticket : Nat),
        s.calls[i]? = some ⟨k, .receiving a pl issuedAt sent ticket⟩ →
          ∃ http scopes, sent = .post http scopes ∧ http.Sends last) ∧
      (last = lastUsable ↔ last ≠ "") := by
  intro s last lastUsable
  -- along the eras the invariant goes from each store to the next
  have carried : Carried k last s := h.carried_at hn
  refine ⟨?_, ?_, ?_⟩
  · rcases s.notSaving_or k with idle | ⟨i, a, g, c, saving⟩
    · exact .inl (carried.entry idle)
    · exact .inr ⟨i, a, g, c, saving, carried.calls saving⟩
  · intro i a pl issuedAt sent ticket receiving
    exact (carried.calls receiving).2
  · obtain ⟨nonempty, agree⟩ : lastUsable ≠ "" ∧ (last = lastUsable ∨ last = "") := by
      obtain ⟨before, same⟩ := l.tokenBefore_agree (k := k) usable m
      exact Interleaving.tokenAfter_agree before same n
    constructor
    · intro same
      rw [same]
      exact nonempty
    · intro given
      exact agree.resolve_right given

/-! ## An empty refresh token -/

namespace EmptyToken

def now : DateTime := default

def web : ClientRegistration :=
  { registrationId := "web", clientId := "app", grantType := .authorizationCode,
    tokenUri := "/token" }

def alice : Key := ⟨"web", "alice"⟩

/-- The client that is stored at first. -/
def stale : AuthorizedClient where
  registration := web
  principalName := "alice"
  accessToken := { value := "a1", expiresAt := some now }
  refreshToken := some ⟨"r1", none⟩

/-- An accepted answer whose refresh token is empty. -/
def answer : HttpAnswer :=
  { body := Utf8.encode
      "\x7b\"access_token\": \"a2\", \"expires_in\": 0, \"refresh_token\": \"\"\x7d" }

def calm : Surroundings := { now }

def answered : Surroundings := { now, reply := .answer answer }

/-- A call as far as its request. -/
def sending : List Event := .begin alice :: List.replicate 7 (.step 0 calm)

/-- A call on the first engine, from its beginning to its end. -/
def whole : List Event :=
  sending ++ .step 0 answered :: List.replicate 3 (.step 0 calm)

/-- A call that gets the answer, and a call on the next engine that has sent its request. -/
def lineage : Lineage where
  store := .memory [(alice, stale)]
  engine _ := ⟨.unlisted [web], .builtIn {}, {}⟩
  clock _ := now
  event
    | 0, n => whole.getD n .pause
    | 1, n => sending.getD n .pause
    | _, _ => .pause
  ends
    | 0 => 12
    | 1 => 8
    | _ => 0

/-- Every event of the two eras begins the call, lets it step, or is a pause. -/
theorem event_cases (m n : Nat) :
    (lineage.era m).event n = .pause ∨ (lineage.era m).event n = .begin alice ∨
      ∃ env, (env = calm ∨ env = answered) ∧ (lineage.era m).event n = .step 0 env := by
  have scripted : ∀ script : List Event, script ⊆ whole →
      script.getD n .pause = .pause ∨ script.getD n .pause = .begin alice ∨
        ∃ env, (env = calm ∨ env = answered) ∧ script.getD n .pause = .step 0 env := by
    intro script sub
    rcases Event.getD_pause_cases script n with member | paused
    · have among := sub member
      simp only [whole, sending, List.mem_append, List.mem_cons, List.mem_replicate] at among
      rcases among with (begins | ⟨-, steps⟩) | gets | ⟨-, steps⟩
      · exact .inr (.inl begins)
      · exact .inr (.inr ⟨calm, .inl rfl, steps⟩)
      · exact .inr (.inr ⟨answered, .inr rfl, gets⟩)
      · exact .inr (.inr ⟨calm, .inl rfl, steps⟩)
    · exact .inl paused
  match m with
  | 0 => exact scripted whole (List.Subset.refl _)
  | 1 => exact scripted sending (List.subset_append_left _ _)
  | m + 2 => exact .inl rfl

theorem engine_eq (m : Nat) : (lineage.era m).engine = ⟨.unlisted [web], .builtIn {}, {}⟩ := by
  cases m <;> rfl

/-- What comes of an exchange refuses no refresh token. -/
theorem not_refused {sent : Transmission} {env : Surroundings} {f : Failure}
    (surroundings : env = calm ∨ env = answered) (failed : env.result sent = .error (.failure f)) :
    f.isInvalidGrant = false := by
  rcases surroundings with rfl | rfl
  · cases sent <;> cases failed
  · cases sent with
    | ask => cases failed
    | post http scopes =>
      have accepted : TokenResponse.ofAnswer answer scopes = .error (.failure f) := failed
      exact TokenResponse.isInvalidGrant_of_isSuccess rfl accepted

/-- Each era refreshes the client of its user. -/
theorem refreshes (m : Nat) : (lineage.era m).Refreshes alice (lineage.ends m) where
  builtIn := ⟨{}, by rw [engine_eq]⟩
  attended reg found := by
    rw [engine_eq] at found
    cases found
    rfl
  alone n _ := by
    rcases event_cases m n with h | h | ⟨env, -, h⟩ <;> rw [h] <;> rfl
  sound {n} _ _ _ _ _ _ _ hev := by
    rcases event_cases m n with h | h | ⟨env, rfl | rfl, h⟩ <;> rw [h] at hev <;> cases hev <;> rfl
  transient {n} _ _ _ _ _ _ _ _ _ _ hev failed := by
    rcases event_cases m n with h | h | ⟨env, surroundings, h⟩ <;> rw [h] at hev <;> cases hev
    exact not_refused surroundings failed

/-- Each era is handed over with no client about to be saved. -/
theorem handedOver (m : Nat) : ((lineage.era m).scene (lineage.ends m)).NotSaving alice := by
  have quiet : ((lineage.era m).scene (lineage.ends m)).calls.all (!·.phase.isSaving) = true := by
    match m with
    | 0 => decide +kernel
    | 1 => decide +kernel
    | m + 2 => rfl
  intro i p at_i
  simpa using List.all_eq_true.1 quiet _ (List.mem_of_getElem? at_i)

/-- The two eras refresh the client that is stored at the beginning. -/
theorem lineage_refreshes : lineage.Refreshes alice "r1" where
  stored := ⟨stale, rfl, rfl⟩
  eras := refreshes
  handedOver := handedOver

/-- The request that a call waits for. -/
def request? : Phase → Option HttpRequest
  | .receiving _ _ _ (.post http _) _ => some http
  | _ => none

end EmptyToken

open EmptyToken in
/-- The second call is on the next engine, and the last text is empty, so the stored client carries
it. -/
theorem empty_token_stored :
    lineage.Refreshes alice "r1" ∧ ("r1" : String) ≠ "" ∧ 8 ≤ lineage.ends 1 ∧
      lineage.tokenAfter alice (fun _ => true) "r1" 1 8 ≠ lineage.tokenAfter alice
        (· ≠ "") "r1" 1 8 ∧
      ∃ c, ((lineage.era 1).scene 8).entry alice = some c ∧ c.Carries "" := by
  have last : lineage.tokenAfter alice (fun _ => true) "r1" 1 8 = "" := by decide +kernel
  obtain ⟨held, -, same_iff⟩ :=
    refresh_token_kept_unless_empty lineage_refreshes (m := 1) (n := 8) (by decide) (Nat.le_refl 8)
  refine ⟨lineage_refreshes, by decide, Nat.le_refl 8, fun same => same_iff.1 same last, ?_⟩
  rw [last] at held
  rcases held with stored | ⟨i, a, g, c, saving, -⟩
  · exact stored
  · cases handedOver 1 i _ saving

open EmptyToken in
/-- The server has accepted the refresh with an empty refresh token. The stored client has lost the
one that still works, and the next request sends the empty one. -/
theorem empty_token_replaces :
    lineage.Refreshes alice "r1" ∧ lineage.tokenAfter alice (· ≠ "") "r1" 1 8 = "r1" ∧
      (((lineage.era 1).scene 8).entry alice).map (·.refreshToken.map (·.value)) = some (some "") ∧
      ((((lineage.era 1).scene 8).calls[0]?.bind (request? ·.phase)).map fun http =>
        http.form.filter (·.1 = "refresh_token")) = some [("refresh_token", "")] :=
  ⟨lineage_refreshes, by decide +kernel, by decide +kernel, by decide +kernel⟩

end Engine

end TokenBroker
