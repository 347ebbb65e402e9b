import TokenBroker.Proofs.Service.Cache

/-!
# A call as a step of the cache

What a call does that runs alone, in terms of the cache, as long as the store is not in trouble and
no clock goes back (`World.Sound`). `OnWay` says of every phase what has happened since the call
began; each step keeps it (`OnWay.next`), so the call ends, and it ends as the cache resolves
(`World.resolve_cache`). In particular the second look into the store, at a later reading of the
clock, comes to what the first one has come to (`OnWay.of_rejudging`).
-/

namespace TokenBroker

/-! ## Steps in a sound world -/

namespace World

variable {w w' : World} {e : Engine} {key : Key} {p q : Engine.Phase}

/-- The cache of an engine in a world. -/
def cache (w : World) (e : Engine) : Cache where
  engine := e
  kind := w.shared.store.kind
  transport := w.transport
  plugin := w.plugin
  entry := w.entry
  now := w.clock
  sent := w.sent
  asked := w.asked

/-- The store is not in trouble, and neither readings nor exchanges turn the clock back. -/
structure Sound (w : World) : Prop where
  trouble : w.trouble = {}
  forward : ∀ (n : Nat) (t : DateTime), t.notAfter (w.tick.next n t) = true
  delay : ∀ n, 0 ≤ (w.transport n).elapsed

/-- What a sound world contributes to a step: its time, and no trouble. -/
theorem Sound.contribution (h : w.Sound) (n : Need) :
    (w.supply n).1.now = w.clock ∧ (w.supply n).1.storeFault = none ∧
    (w.supply n).1.hidden = false := by
  cases n with
  | load | save | remove => simp [supply, h.trouble]
  | _ => exact ⟨rfl, rfl, rfl⟩

/-- Of what the cache sees, only the time goes on when a sound world contributes to a step. -/
theorem Sound.supplied (h : w.Sound) (n : Need) :
    (w.supply n).2.Sound ∧ w.clock.notAfter (w.supply n).2.clock = true ∧
      (w.supply n).2.cache e = { w.cache e with now := (w.supply n).2.clock } := by
  have reflexive := w.clock.notAfter_refl
  cases n with
  | load =>
    have same : (w.supply .load).2 = w := by simp [supply, h.trouble]
    rw [same]
    exact ⟨h, reflexive, rfl⟩
  | clock => exact ⟨⟨h.trouble, h.forward, h.delay⟩, h.forward w.readings w.clock, rfl⟩
  | reply ticket =>
    exact ⟨⟨h.trouble, h.forward, h.delay⟩, w.clock.notAfter_shift? (h.delay ticket), rfl⟩
  | nothing | save | remove | ticket | response => exact ⟨h, reflexive, rfl⟩

/-- Noting changes what has been sent, in the same way whatever else there is. -/
theorem note_eq {v : World} (sent : v.sent = w.sent) (asked : v.asked = w.asked)
    (p : Engine.Phase) :
    v.note p = { v with sent := (w.note p).sent, asked := (w.note p).asked } := by
  unfold note
  split <;> simp [← sent, ← asked]

/-- Of what the cache sees, a step changes what is stored, the time, and what has been sent. -/
theorem Sound.step (h : w.Sound) (taken : w.step e key p = some (w', q)) :
    w'.Sound ∧ w.clock.notAfter w'.clock = true ∧
      w'.cache e = { (w.note q).cache e with entry := w'.entry, now := w'.clock } := by
  have kind := (move_of_step taken).kind
  obtain ⟨sound, later, seen⟩ := h.supplied (e := e) (needOf p)
  rw [step_eq] at taken
  obtain ⟨next, -, absorbed⟩ := Option.map_eq_some_iff.1 taken
  unfold absorb at absorbed
  generalize (w.supply (needOf p)).2 = v at absorbed sound later seen
  have sent : v.sent = w.sent := congrArg Cache.sent seen
  have asked : v.asked = w.asked := congrArg Cache.asked seen
  have transport : v.transport = w.transport := congrArg Cache.transport seen
  have plugin : v.plugin = w.plugin := congrArg Cache.plugin seen
  have noted := note_eq (w := w) (v := { v with shared := next.shared, log := v.log ++ next.log })
    sent asked next.phase
  rw [noted] at absorbed
  cases absorbed
  refine ⟨⟨sound.trouble, sound.forward, sound.delay⟩, later, ?_⟩
  rw [note_eq (w := w) rfl rfl]
  simp only [cache, kind, transport, plugin]

/-- Time passes with a reading of the clock and with an exchange only. -/
theorem Sound.clock_of_step (h : w.Sound) (taken : w.step e key p = some (w', q))
    (timeless : needOf p ≠ .clock ∧ ∀ ticket, needOf p ≠ .reply ticket) : w'.clock = w.clock := by
  have still : (w.supply (needOf p)).2.clock = w.clock := by
    cases need : needOf p with
    | clock => exact absurd need timeless.1
    | reply ticket => exact absurd need (timeless.2 ticket)
    | load => simp [supply, h.trouble]
    | nothing | save | remove | ticket | response => rfl
  rw [step_eq] at taken
  obtain ⟨next, -, absorbed⟩ := Option.map_eq_some_iff.1 taken
  cases absorbed
  rw [← still]
  exact clock_note _ next.phase

end World

/-! ## On the way -/

open Engine

/-- Since a call began, time has passed and nothing else. -/
structure Quiet (e : Engine) (w₀ w : World) : Prop where
  sound : w.Sound
  later : w₀.clock.notAfter w.clock = true
  seen : w.cache e = { w₀.cache e with now := w.clock }

/-- When a call began there was no good client for its key, which is registered. -/
structure Lacking (e : Engine) (key : Key) (w₀ : World) (r : ClientRegistration) : Prop where
  registered : e.source.find? key.registrationId = some r
  lacks : (w₀.cache e).Lacks key

/-- When a call began a certain exchange was due. -/
def Planned (e : Engine) (key : Key) (w₀ : World) (pl : Plan) : Prop :=
  ∃ r, Lacking e key w₀ r ∧ (w₀.cache e).Due key r pl

/-- Since a call began, its exchange has been started. -/
structure Sent (e : Engine) (key : Key) (w₀ w : World) (pl : Plan) (issuedAt : DateTime)
    (t : Transmission) : Prop where
  sound : w.Sound
  planned : Planned e key w₀ pl
  begun : pl.client.begin pl.request = .ok t
  issued : w₀.clock.notAfter issuedAt = true
  later : issuedAt.notAfter w.clock = true
  seen : w.cache e = { (w₀.cache e).noting t with now := w.clock }

/-- The exchange of a call is over: what was sent has just come back. -/
structure Back (e : Engine) (key : Key) (w₀ w : World) (pl : Plan) (issuedAt : DateTime)
    (t : Transmission) : Prop where
  sent : Sent e key w₀ w pl issuedAt t
  arrived : ∃ sentAt, issuedAt.notAfter sentAt = true ∧ (w₀.cache e).arrival sentAt t = w.clock

/-- The key of a call is the only one in flight. -/
def Held (key : Key) (w : World) : Prop := w.shared.inFlight.erase key = []

/-- What has happened since a call began, by the phase that it is in. -/
def OnWay (e : Engine) (key : Key) (w₀ w : World) : Phase → Prop
  | .loading r => w.shared.inFlight = [] ∧ Quiet e w₀ w ∧ w.clock = w₀.clock ∧
      e.source.find? key.registrationId = some r
  | .judging r c => w.shared.inFlight = [] ∧ Quiet e w₀ w ∧ w.clock = w₀.clock ∧
      e.source.find? key.registrationId = some r ∧ w₀.entry key = some c
  | .claiming r => w.shared.inFlight = [] ∧ Quiet e w₀ w ∧ Lacking e key w₀ r
  | .waiting _ => False
  | .reloading r _ => Held key w ∧ Quiet e w₀ w ∧ Lacking e key w₀ r
  | .rejudging r _ c => Held key w ∧ Quiet e w₀ w ∧ Lacking e key w₀ r ∧ w₀.entry key = some c
  | .stamping _ pl => Held key w ∧ Quiet e w₀ w ∧ Planned e key w₀ pl
  | .sending _ pl issuedAt => Held key w ∧ Quiet e w₀ w ∧ Planned e key w₀ pl ∧
      w₀.clock.notAfter issuedAt = true ∧ issuedAt.notAfter w.clock = true
  | .receiving _ pl issuedAt t ticket => Held key w ∧ Sent e key w₀ w pl issuedAt t ∧
      ticket = (w₀.cache e).nextTicket t
  | .dropping _ f => Held key w ∧ ∃ pl issuedAt t, Back e key w₀ w pl issuedAt t ∧
      (w₀.cache e).answerTo t = .error (.failure f) ∧ pl.previous.isSome = true ∧
      f.isInvalidGrant = true
  | .saving _ _ c => Held key w ∧ ∃ pl issuedAt t response, Back e key w₀ w pl issuedAt t ∧
      (w₀.cache e).answerTo t = .ok response ∧ e.clientOf key pl issuedAt response = .ok c
  | .publishing _ o | .releasing _ o => Held key w ∧ w.Sound ∧
      (w₀.cache e).ResolvesTo key (w.cache e) o
  | .finished o => w.shared.inFlight = [] ∧ w.Sound ∧ (w₀.cache e).ResolvesTo key (w.cache e) o

variable {e : Engine} {key : Key} {w₀ w w' : World} {r : ClientRegistration} {p q : Phase}
  {pl : Plan} {issuedAt : DateTime} {t : Transmission} {o : Outcome} {a : Nat}
  {c : AuthorizedClient}

/-- A key stays held while what is in flight stays. -/
theorem Held.kept (h : Held key w) (same : w'.shared.inFlight = w.shared.inFlight) :
    Held key w' := by
  unfold Held
  rw [same]
  exact h

/-! ## Time passes -/

/-- On a quiet way the entries stay as they are. -/
theorem Quiet.entry_eq (h : Quiet e w₀ w) (k : Key) : w.entry k = w₀.entry k :=
  congrFun (congrArg Cache.entry h.seen) k

/-- A step that writes nothing and logs nothing leaves the way quiet. -/
theorem Quiet.step (h : Quiet e w₀ w) (taken : w.step e key p = some (w', q))
    (silent : w.note q = w) (kept : ∀ k, w'.entry k = w.entry k) : Quiet e w₀ w' := by
  obtain ⟨sound, later, seen⟩ := h.sound.step taken
  refine ⟨sound, DateTime.notAfter_trans h.later later, ?_⟩
  rw [seen, silent, funext fun k => (kept k).trans (h.entry_eq k), h.seen]
  rfl

/-- When the request is sent the entries are still as they were. -/
theorem Sent.entry_eq (h : Sent e key w₀ w pl issuedAt t) (k : Key) : w.entry k = w₀.entry k := by
  have seen := congrFun (congrArg Cache.entry h.seen) k
  cases t <;> exact seen

/-- A step that writes nothing and logs nothing leaves the request sent. -/
theorem Sent.step (h : Sent e key w₀ w pl issuedAt t) (taken : w.step e key p = some (w', q))
    (silent : w.note q = w) (kept : ∀ k, w'.entry k = w.entry k) :
    Sent e key w₀ w' pl issuedAt t := by
  obtain ⟨sound, later, seen⟩ := h.sound.step taken
  refine ⟨sound, h.planned, h.begun, h.issued, DateTime.notAfter_trans h.later later, ?_⟩
  rw [seen, silent, funext fun k => (kept k).trans (h.entry_eq k), h.seen]
  cases t <;> rfl

/-- Sending the request leaves the transport as it was. -/
theorem Sent.transport (h : Sent e key w₀ w pl issuedAt t) : w.transport = w₀.transport := by
  have seen := congrArg Cache.transport h.seen
  cases t <;> exact seen

/-- What was sent comes back when the cache has it come back. -/
theorem Sent.arrives (h : Sent e key w₀ w pl issuedAt t)
    (taken : w.step e key (.receiving a pl issuedAt t ((w₀.cache e).nextTicket t)) = some (w', q)) :
    ∃ sentAt, issuedAt.notAfter sentAt = true ∧ (w₀.cache e).arrival sentAt t = w'.clock := by
  refine ⟨w.clock, h.later, ?_⟩
  rw [World.step_eq] at taken
  obtain ⟨next, -, absorbed⟩ := Option.map_eq_some_iff.1 taken
  cases absorbed
  refine Eq.trans ?_ (World.clock_note _ next.phase).symm
  cases t with
  | post http scopes =>
    show (w.clock.shift? (w₀.transport _).elapsed).getD w.clock = _
    rw [← h.transport]
    rfl
  | ask number => rfl

/-- What an exchange brings is what the cache comes to by one. -/
theorem Sent.resolves (h : Sent e key w₀ w pl issuedAt t) (taken : w.step e key p = some (w', q))
    (silent : w.note q = w)
    (arrived : ∃ sentAt, issuedAt.notAfter sentAt = true ∧ (w₀.cache e).arrival sentAt t = w'.clock)
    (concludes : (w₀.cache e).Concludes key pl issuedAt ((w₀.cache e).answerTo t) w'.entry o) :
    w'.Sound ∧ (w₀.cache e).ResolvesTo key (w'.cache e) o := by
  obtain ⟨sound, later, seen⟩ := h.sound.step taken
  obtain ⟨r, lacking, due⟩ := h.planned
  obtain ⟨sentAt, issued, arrives⟩ := arrived
  refine ⟨sound, ?_⟩
  refine ⟨issuedAt, h.issued, DateTime.notAfter_trans h.later later, ?_⟩
  rw [seen, silent, h.seen]
  exact .fetched lacking.registered lacking.lacks (.exchanged due h.begun issued arrives concludes)

/-- What comes after an exchange takes no time. -/
theorem Back.resolves (h : Back e key w₀ w pl issuedAt t) (taken : w.step e key p = some (w', q))
    (silent : w.note q = w) (timeless : World.needOf p ≠ .clock ∧
      ∀ ticket, World.needOf p ≠ .reply ticket)
    (concludes : (w₀.cache e).Concludes key pl issuedAt ((w₀.cache e).answerTo t) w'.entry o) :
    w'.Sound ∧ (w₀.cache e).ResolvesTo key (w'.cache e) o := by
  refine h.sent.resolves taken silent ?_ concludes
  rw [h.sent.sound.clock_of_step taken timeless]
  exact h.arrived

/-! ## One step after another -/

/-- A sound world has no trouble with its store. -/
theorem env_sound (h : w.Sound) (p : Phase) {fault : Fault} :
    (w.supply (World.needOf p)).1.storeFault ≠ some fault := by
  rw [(h.contribution _).2.1]
  exact nofun

/-- In a sound world the entry itself is loaded. -/
theorem entry_of_loads {u : Shared} {found : Option AuthorizedClient} (h : w.Sound)
    (loads : Loads (w.supply (World.needOf p)).1 key w.shared found u) : found = w.entry key := by
  rcases loads.client with same | ⟨hidden, -⟩
  · exact same
  · rw [(h.contribution _).2.2] at hidden
    cases hidden

/-- After the store was looked at the call is on its way. -/
theorem OnWay.of_loading (h : OnWay e key w₀ w (.loading r))
    (taken : w.step e key (.loading r) = some (w', q)) : OnWay e key w₀ w' q := by
  obtain ⟨idle, quiet, clock, registered⟩ := h
  have clock' := (quiet.sound.clock_of_step taken ⟨nofun, nofun⟩).trans clock
  have move := World.move_of_step taken
  generalize hu : w'.shared = u at move
  cases move with
  | loadFails raised => exact absurd raised (env_sound quiet.sound _)
  | loadsNone loads =>
    have quiet' := quiet.step taken rfl fun k => by rw [World.entry, hu]; exact loads.entry k
    refine ⟨?_, quiet', registered, ?_⟩
    · rw [hu, loads.inFlight, idle]
    · intro c stored
      have nothing := entry_of_loads quiet.sound loads
      rw [quiet.entry_eq] at nothing
      rw [show w₀.entry key = some c from stored] at nothing
      cases nothing
  | @loadsSome _ c _ loads =>
    have quiet' := quiet.step taken rfl fun k => by rw [World.entry, hu]; exact loads.entry k
    refine ⟨?_, quiet', clock', registered, ?_⟩
    · rw [hu, loads.inFlight, idle]
    · rw [← quiet.entry_eq, ← entry_of_loads quiet.sound loads]

/-- After the client was judged the call is on its way. -/
theorem OnWay.of_judging (h : OnWay e key w₀ w (.judging r c))
    (taken : w.step e key (.judging r c) = some (w', q)) : OnWay e key w₀ w' q := by
  obtain ⟨idle, quiet, clock, registered, stored⟩ := h
  have now := (quiet.sound.contribution (World.needOf (.judging r c))).1.trans clock
  have move := World.move_of_step taken
  generalize hu : w'.shared = u at move
  have same : u = w.shared → (∀ k, w'.entry k = w.entry k) := by
    rintro rfl k
    rw [World.entry, hu]
    rfl
  cases move with
  | judgeFails judged =>
    have quiet' := quiet.step taken rfl (same rfl)
    obtain ⟨rfl, undated⟩ := isUsable_eq_error judged
    refine ⟨by rw [hu, idle], quiet'.sound, _, quiet'.later, DateTime.notAfter_refl _, ?_⟩
    rw [quiet'.seen]
    exact .undated registered stored undated
  | judgesUsable judged =>
    have quiet' := quiet.step taken rfl (same rfl)
    rw [now] at judged
    obtain ⟨dated, good⟩ := isUsable_eq_true judged
    refine ⟨by rw [hu, idle], quiet'.sound, _, quiet'.later, DateTime.notAfter_refl _, ?_⟩
    rw [quiet'.seen]
    exact .reused registered stored dated good
  | judgesExpired judged =>
    have quiet' := quiet.step taken rfl (same rfl)
    rw [now] at judged
    refine ⟨by rw [hu, idle], quiet', registered, ?_⟩
    intro c' stored'
    obtain rfl : c = c' := Option.some.inj (stored.symm.trans stored')
    exact isUsable_eq_false judged

/-- After the key was taken the call is on its way. -/
theorem OnWay.of_claiming (h : OnWay e key w₀ w (.claiming r))
    (taken : w.step e key (.claiming r) = some (w', q)) : OnWay e key w₀ w' q := by
  obtain ⟨idle, quiet, lacking⟩ := h
  have move := World.move_of_step taken
  generalize hu : w'.shared = u at move
  cases move with
  | joins found =>
    rw [idle] at found
    cases found
  | leads free =>
    refine ⟨?_, quiet.step taken rfl fun k => by rw [World.entry, hu]; rfl, lacking⟩
    unfold Held
    rw [hu, idle]
    simp [Table.put, Table.erase]

/-- A leader that has found no good client goes on as the cache has it. -/
theorem onWay_proceed (held : Held key w) (quiet : Quiet e w₀ w) (lacking : Lacking e key w₀ r)
    (a : Nat) :
    OnWay e key w₀ w (e.proceed key r a (w₀.entry key)) := by
  rcases proceed_cases e key r a (w₀.entry key) with ⟨pl, planned, hq⟩ | ⟨f, refused, hq⟩
  · rw [hq]
    exact ⟨held, quiet, r, lacking, Cache.due_of_plan planned⟩
  · rw [hq]
    refine ⟨held, quiet.sound, _, quiet.later, DateTime.notAfter_refl _, ?_⟩
    rw [quiet.seen]
    rcases Cache.refused_of_plan (s := w₀.cache e) refused with ⟨needsUser, rfl⟩ | ⟨grant, missing⟩
    · exact .fetched lacking.registered lacking.lacks (.interactive needsUser)
    · exact .fetched lacking.registered lacking.lacks (.unserved grant missing)

/-- Going on to the attempt logs nothing. -/
theorem silent_proceed (e : Engine) (key : Key) (w : World) (r : ClientRegistration) (a : Nat)
    (existing : Option AuthorizedClient) : w.note (e.proceed key r a existing) = w := by
  rcases proceed_cases e key r a existing with ⟨pl, -, hq⟩ | ⟨f, -, hq⟩
  · rw [hq]; rfl
  · rw [hq]; rfl

/-- After the store was looked at once more the call is on its way. -/
theorem OnWay.of_reloading (h : OnWay e key w₀ w (.reloading r a))
    (taken : w.step e key (.reloading r a) = some (w', q)) : OnWay e key w₀ w' q := by
  obtain ⟨held, quiet, lacking⟩ := h
  have move := World.move_of_step taken
  generalize hu : w'.shared = u at move
  cases move with
  | reloadFails raised => exact absurd raised (env_sound quiet.sound _)
  | reloadsNone loads =>
    have held' : Held key w' := held.kept (by rw [hu, loads.inFlight])
    have quiet' := quiet.step taken (silent_proceed ..) fun k => by
      rw [World.entry, hu]; exact loads.entry k
    have nothing := entry_of_loads quiet.sound loads
    rw [quiet.entry_eq] at nothing
    rw [nothing]
    exact onWay_proceed held' quiet' lacking a
  | @reloadsSome _ _ c _ loads =>
    have held' : Held key w' := held.kept (by rw [hu, loads.inFlight])
    have quiet' := quiet.step taken rfl fun k => by rw [World.entry, hu]; exact loads.entry k
    refine ⟨held', quiet', lacking, ?_⟩
    rw [← quiet.entry_eq, ← entry_of_loads quiet.sound loads]

/-- The second look at the clock finds expired what the first one has found expired. -/
theorem OnWay.of_rejudging (h : OnWay e key w₀ w (.rejudging r a c))
    (taken : w.step e key (.rejudging r a c) = some (w', q)) : OnWay e key w₀ w' q := by
  obtain ⟨held, quiet, lacking, stored⟩ := h
  have now := (quiet.sound.contribution (World.needOf (.rejudging r a c))).1
  obtain ⟨dated, expired⟩ := lacking.lacks c stored
  have move := World.move_of_step taken
  generalize hu : w'.shared = u at move
  cases move with
  | rejudgeFails judged => exact absurd dated (isUsable_eq_error judged).2
  | rejudgesUsable judged =>
    rw [now] at judged
    exact absurd ((isUsable_eq_true judged).2.mono quiet.later) expired
  | rejudgesExpired =>
    have held' : Held key w' := held.kept (by rw [hu])
    have quiet' := quiet.step taken (silent_proceed ..) fun k => by rw [World.entry, hu]; rfl
    rw [← stored]
    exact onWay_proceed held' quiet' lacking a

/-- After the request was stamped the call is on its way. -/
theorem OnWay.of_stamping (h : OnWay e key w₀ w (.stamping a pl))
    (taken : w.step e key (.stamping a pl) = some (w', q)) : OnWay e key w₀ w' q := by
  obtain ⟨held, quiet, planned⟩ := h
  have now := (quiet.sound.contribution (World.needOf (.stamping a pl))).1
  have later := (quiet.sound.step taken).2.1
  have move := World.move_of_step taken
  generalize hu : w'.shared = u at move
  cases move with
  | stamps =>
    have held' : Held key w' := held.kept (by rw [hu])
    have quiet' := quiet.step taken rfl fun k => by rw [World.entry, hu]; rfl
    rw [now]
    exact ⟨held', quiet', planned, quiet.later, later⟩

/-- Sending the request changes no shared state and takes the next ticket. -/
theorem step_sending (begun : pl.client.begin pl.request = .ok t)
    (taken : w.step e key (.sending a pl issuedAt) = some (w', q)) :
    w'.shared = w.shared ∧ q = .receiving a pl issuedAt t ((w.cache e).nextTicket t) := by
  rw [World.step_eq, World.shared_supply] at taken
  simp only [Engine.step, begun, Option.map_some] at taken
  cases taken
  refine ⟨World.shared_note _ _, ?_⟩
  cases t <;> rfl

/-- After the request was sent the call is on its way. -/
theorem OnWay.of_sending (h : OnWay e key w₀ w (.sending a pl issuedAt))
    (taken : w.step e key (.sending a pl issuedAt) = some (w', q)) : OnWay e key w₀ w' q := by
  obtain ⟨held, quiet, ⟨r, lacking, due⟩, issued, later⟩ := h
  obtain ⟨t, begun⟩ := due.begins
  obtain ⟨sound, later', seen⟩ := quiet.sound.step taken
  obtain ⟨same, rfl⟩ := step_sending begun taken
  have entry : w'.entry = w₀.entry := by
    funext k
    rw [World.entry, same]
    exact quiet.entry_eq k
  refine ⟨?_, ⟨sound, ⟨r, lacking, due⟩, begun, issued, DateTime.notAfter_trans later later', ?_⟩,
    ?_⟩
  · rw [Held, same]
    exact held
  · have noted : (w.note (.receiving a pl issuedAt t ((w.cache e).nextTicket t))).cache e =
        (w.cache e).noting t := by
      cases t <;> rfl
    rw [seen, noted, quiet.seen, entry]
    cases t <;> rfl
  · rw [quiet.seen]
    cases t <;> rfl

/-- What comes back is what the cache has come back. -/
theorem Sent.result (h : Sent e key w₀ w pl issuedAt t) (a : Nat) :
    (w.supply (World.needOf (.receiving a pl issuedAt t ((w₀.cache e).nextTicket t)))).1.result t =
      (w₀.cache e).answerTo t := by
  have plugin : w.plugin = w₀.plugin := by
    have seen := congrArg Cache.plugin h.seen
    cases t <;> exact seen
  cases t with
  | post http scopes =>
    show ExchangeClient.conclude _ _ (w.transport _).reply = _
    rw [h.transport]
    rfl
  | ask number =>
    show w.plugin _ _ = _
    rw [plugin]
    rfl

/-- When an exchange comes to nothing, the stored clients stay. -/
theorem concludes_of_settle {result : Except Fault TokenResponse} {fault : Fault}
    (settled : (e.settle key a pl issuedAt result).1 = .publishing a (.error fault)) :
    (w₀.cache e).Concludes key pl issuedAt result w₀.entry (.error fault) := by
  unfold settle at settled
  cases result with
  | ok response =>
    simp only [] at settled
    rw [clientOf_eq] at settled
    cases ends : issuedAt.shift? (e.lifetimeOf response * 1000000) with
    | some expiresAt =>
      simp only [ends] at settled
      cases settled
    | none =>
      simp only [ends] at settled
      cases settled
      exact .endless ends
  | error fault' =>
    cases fault' with
    | failure f =>
      simp only [] at settled
      split at settled
      · next exchange =>
        split at settled
        · cases settled
        · next alive =>
          cases settled
          refine .failed exchange fun refreshing => ?_
          simpa [refreshing] using alive
      · next other =>
        cases settled
        refine .broken ?_
        rintro _ ⟨⟩
        simpa using other
    | _ =>
      cases settled
      exact .broken fun _ => nofun

/-- After the answer was received the call is on its way. -/
theorem OnWay.of_receiving {ticket : Nat} (h : OnWay e key w₀ w (.receiving a pl issuedAt t ticket))
    (taken : w.step e key (.receiving a pl issuedAt t ticket) = some (w', q)) :
    OnWay e key w₀ w' q := by
  obtain ⟨held, sent, rfl⟩ := h
  have result := sent.result a
  have arrived := sent.arrives taken
  have move := World.move_of_step taken
  generalize hu : w'.shared = u at move
  cases move with
  | obtains answered made =>
    rw [result] at answered
    have sent' := sent.step taken rfl fun k => by rw [World.entry, hu]; rfl
    exact ⟨held.kept (by rw [hu]), pl, issuedAt, t, _, ⟨sent', arrived⟩, answered, made⟩
  | isRefused answered refreshing refused =>
    rw [result] at answered
    have sent' := sent.step taken rfl fun k => by rw [World.entry, hu]; rfl
    exact ⟨held.kept (by rw [hu]), pl, issuedAt, t, ⟨sent', arrived⟩, answered, refreshing, refused⟩
  | fails settled =>
    have entry : w'.entry = w₀.entry := by
      funext k
      rw [World.entry, hu]
      exact sent.entry_eq k
    refine ⟨held.kept (by rw [hu]), sent.resolves taken rfl arrived ?_⟩
    rw [entry, ← result]
    exact concludes_of_settle settled

/-- After the refused client was removed the call is on its way. -/
theorem OnWay.of_dropping {f : Failure} (h : OnWay e key w₀ w (.dropping a f))
    (taken : w.step e key (.dropping a f) = some (w', q)) : OnWay e key w₀ w' q := by
  obtain ⟨held, pl, issuedAt, t, back, answered, refreshing, dead⟩ := h
  have sent := back.sent
  have move := World.move_of_step taken
  generalize hu : w'.shared = u at move
  cases move with
  | dropFails raised => exact absurd raised (env_sound sent.sound _)
  | drops =>
    have entry : w'.entry = Function.update w₀.entry key none := by
      funext k
      rw [World.entry, hu]
      by_cases hk : k = key
      · subst hk
        rw [Function.update_self]
        exact Store.entry_remove_self _ k
      · rw [Function.update_of_ne hk]
        exact (Store.entry_remove_of_ne hk _).trans (sent.entry_eq k)
    refine ⟨held.kept (by rw [hu]), back.resolves taken rfl ⟨nofun, nofun⟩ ?_⟩
    rw [entry, answered]
    exact .refused (Failure.isExchangeFailure_of_isInvalidGrant dead) refreshing dead

/-- After the client was saved the call is on its way. -/
theorem OnWay.of_saving {g : GrantType} (h : OnWay e key w₀ w (.saving a g c))
    (taken : w.step e key (.saving a g c) = some (w', q)) : OnWay e key w₀ w' q := by
  obtain ⟨held, pl, issuedAt, t, response, back, answered, made⟩ := h
  have sent := back.sent
  -- the client is for the registration of the plan, which was found under the key
  have belongs : c.key = key := by
    obtain ⟨r, lacking, due⟩ := sent.planned
    obtain ⟨registration, principalName⟩ := clientOf_eq_ok made
    have planned : pl.request.registration = r := by cases due <;> rfl
    rw [AuthorizedClient.key, registration, principalName, planned,
      RegistrationSource.registrationId_of_find? lacking.registered]
  have move := World.move_of_step taken
  generalize hu : w'.shared = u at move
  cases move with
  | saveFails raised => exact absurd raised (env_sound sent.sound _)
  | saves =>
    have kind : w.shared.store.kind = w₀.shared.store.kind := by
      have seen := congrArg Cache.kind sent.seen
      cases t <;> exact seen
    have entry : w'.entry = Function.update w₀.entry key
        (some (Store.kept w₀.shared.store.kind c)) := by
      funext k
      rw [World.entry, hu]
      by_cases hk : k = key
      · subst hk
        have saved := Store.entry_save_self w.shared.store c
        rw [belongs, Store.retrieve_eq, kind] at saved
        rw [Function.update_self]
        exact saved
      · rw [Function.update_of_ne hk]
        exact (Store.entry_save_of_ne (by rw [belongs]; exact hk) _).trans (sent.entry_eq k)
    refine ⟨held.kept (by rw [hu]), back.resolves taken rfl ⟨nofun, nofun⟩ ?_⟩
    rw [entry, answered]
    rw [clientOf_eq] at made
    cases ends : issuedAt.shift? (e.lifetimeOf response * 1000000) with
    | none =>
      simp only [ends] at made
      cases made
    | some expiresAt =>
      simp only [ends] at made
      cases made
      exact .obtained ends

/-- Publishing an outcome and giving the key back are not seen. -/
theorem unseen (sound : w.Sound) (taken : w.step e key p = some (w', q)) (silent : w.note q = w)
    (timeless : World.needOf p = .nothing) (same : w'.shared.store = w.shared.store) :
    w'.Sound ∧ w'.cache e = w.cache e := by
  have clock := sound.clock_of_step taken (by rw [timeless]; exact ⟨nofun, nofun⟩)
  obtain ⟨sound', -, seen⟩ := sound.step taken
  have entry : w'.entry = w.entry := by
    funext k
    rw [World.entry, same]
    rfl
  refine ⟨sound', ?_⟩
  rw [seen, silent, entry, clock]
  rfl

/-- After the outcome was published the call is on its way. -/
theorem OnWay.of_publishing (h : OnWay e key w₀ w (.publishing a o))
    (taken : w.step e key (.publishing a o) = some (w', q)) : OnWay e key w₀ w' q := by
  obtain ⟨held, sound, resolves⟩ := h
  have move := World.move_of_step taken
  generalize hu : w'.shared = u at move
  cases move with
  | publishes =>
    obtain ⟨sound', same⟩ := unseen sound taken rfl rfl (by rw [hu])
    refine ⟨held.kept (by rw [hu]), sound', ?_⟩
    rw [same]
    exact resolves

/-- After the key was given back the call is on its way. -/
theorem OnWay.of_releasing (h : OnWay e key w₀ w (.releasing a o))
    (taken : w.step e key (.releasing a o) = some (w', q)) : OnWay e key w₀ w' q := by
  obtain ⟨held, sound, resolves⟩ := h
  have move := World.move_of_step taken
  generalize hu : w'.shared = u at move
  cases move with
  | releases =>
    obtain ⟨sound', same⟩ := unseen sound taken rfl rfl (by rw [hu])
    refine ⟨by rw [hu]; exact held, sound', ?_⟩
    rw [same]
    exact resolves

/-- Every step leaves a call on its way. -/
theorem OnWay.next (h : OnWay e key w₀ w p) (taken : w.step e key p = some (w', q)) :
    OnWay e key w₀ w' q := by
  cases p with
  | loading => exact h.of_loading taken
  | judging => exact h.of_judging taken
  | claiming => exact h.of_claiming taken
  | waiting => exact h.elim
  | reloading => exact h.of_reloading taken
  | rejudging => exact h.of_rejudging taken
  | stamping => exact h.of_stamping taken
  | sending => exact h.of_sending taken
  | receiving => exact h.of_receiving taken
  | dropping => exact h.of_dropping taken
  | saving => exact h.of_saving taken
  | publishing => exact h.of_publishing taken
  | releasing => exact h.of_releasing taken
  | finished o => cases taken

/-! ## Whole operations -/

namespace World

/-- A call that runs alone ends, and as the cache resolves. -/
theorem resolve_cache (sound : w.Sound) (idle : w.shared.inFlight = []) (e : Engine) (key : Key) :
    ∃ w' o, w.resolve e key = (w', some o) ∧ w'.Sound ∧ w'.shared.inFlight = [] ∧
      (w.cache e).ResolvesTo key (w'.cache e) o := by
  cases registered : e.source.find? key.registrationId with
  | none =>
    exact ⟨w, _, resolve_unknown w registered, sound, idle, _, w.clock.notAfter_refl,
      w.clock.notAfter_refl, .unknown registered⟩
  | some r =>
    have began : OnWay e key w w (e.start key) := by
      unfold start
      rw [registered]
      exact ⟨idle, ⟨sound, w.clock.notAfter_refl, rfl⟩, rfl, registered⟩
    obtain ⟨w', o, ran, ended⟩ := runOut_induction
      (fun {w p} (h : OnWay e key _ w p) a hp => by rw [hp] at h; exact h) OnWay.next began
    refine ⟨w', o, ?_, ended.2.1, ended.1, ended.2.2⟩
    unfold resolve
    rw [ran]
    rfl

end World

end TokenBroker
