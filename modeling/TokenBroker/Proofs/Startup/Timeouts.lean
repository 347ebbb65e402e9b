import TokenBroker.Proofs.Decimal.WholePart
import TokenBroker.Proofs.Interleaving.Wiring
import TokenBroker.Proofs.Settings.Loaded
import TokenBroker.Proofs.Settings.Written
import TokenBroker.Proofs.Startup

/-!
# The timeout of every request

A timeout that has passed its check is greater than zero, and nothing else is asked of it: it has a
value, or it is infinite (`Binary64.positive_cases`). It is infinite exactly if the settings name an
infinite number (`Settings.timeout_eq_infinite_iff`), as a numeral beyond all binary numbers or in
words; all integers and booleans that pass have a value, and so has the default.

The requests of an engine that has been started from settings are posted by the built-in clients,
whatever extensions offer, and carry the request settings of the settings (`Engine.PostsWith`). So
their timeout is the one of the settings file. `Engine.timeout_finite_unless_endless` says of all
files, engines and runs when it is finite: unless the file names an infinite one, as it may.
-/

namespace TokenBroker

/-! ## The timeout of settings -/

/-- A positive number is infinite or has a positive value. -/
theorem Binary64.positive_cases {x : Binary64} (positive : x.isPositive = true) :
    x = .infinite false ∨ ∃ q : ℚ, x.value? = some q ∧ 0 < q := by
  cases x with
  | nan => cases positive
  | infinite negative =>
    cases negative with
    | false => exact .inl rfl
    | true => cases positive
  | finite negative significand exponent =>
    simp only [isPositive, Bool.and_eq_true, Bool.not_eq_true', bne_iff_ne] at positive
    obtain ⟨rfl, nonzero⟩ := positive
    refine .inr ⟨_, rfl, ?_⟩
    have significant : (0 : ℚ) < significand := by exact_mod_cast Nat.pos_of_ne_zero nonzero
    simp only [Bool.false_eq_true, if_false, one_mul]
    positivity

namespace Json

/-- A value that is read as an infinite number: a number beyond all finite ones, or a text that is
read so. -/
inductive Endless : Json → Prop
  | number : Endless (.float (.infinite false))
  | text {s : String} (read : Numeral.settingFloat? s = some (.infinite false)) : Endless (.str s)

/-- Settings as a JSON value that name an infinite timeout. -/
def NamesEndlessTimeout (j : Json) : Prop :=
  ∃ requests timeout, j.get? "request" = some requests ∧ requests.get? "timeout" = some timeout ∧
  timeout.Endless

end Json

/-- An integer is never read as an infinite number. -/
theorem Binary64.ofInt?_ne_infinite (n : Int) (negative : Bool) :
    ofInt? n ≠ some (.infinite negative) := by
  unfold ofInt?
  split
  · nofun
  · nofun

/-- A value is read as the infinite number exactly if it is endless. -/
theorem Validate.float_eq_infinite_iff {j : Json} : float j = .ok (.infinite false) ↔
    j.Endless := by
  constructor
  · intro h
    cases j with
    | float x =>
      cases h
      exact .number
    | str s =>
      unfold float at h
      dsimp only at h
      split at h
      · next x read =>
        cases h
        exact .text read
      · cases h
    | int n =>
      unfold float at h
      dsimp only at h
      split at h
      · next x made =>
        cases h
        exact absurd made (Binary64.ofInt?_ne_infinite n false)
      · cases h
    | bool b =>
      -- both truth values are small numbers
      have finite : ∀ b : Bool, (if b then Binary64.ofRatio false 1 1 else .zero false) ≠
          .infinite false := by decide
      exact absurd (Checked.ok.inj h) (finite b)
    | null | arr | obj => cases h
  · rintro (_ | read)
    · rfl
    · unfold float
      dsimp only
      rw [read]

namespace RequestSettings

variable {r : RequestSettings} {j : Json}

/-- The timeout is infinite exactly if the one given is endless. -/
theorem timeout_eq_infinite_iff (h : ofJson j = .ok r) :
    r.timeout = .infinite false ↔ ∃ timeout, j.get? "timeout" = some timeout ∧ timeout.Endless := by
  obtain ⟨ms, rfl, checked⟩ := timeout_of_ofJson h
  show r.timeout = .infinite false ↔ ∃ value, Json.lookup? "timeout" ms = some value ∧ value.Endless
  rcases Validate.cases_of_defaulted checked with ⟨absent, same⟩ | ⟨value, found, checked⟩
  · have finite : Binary64.ofRatio false 30 1 ≠ .infinite false := by decide
    simp [absent, same, finite]
  · obtain ⟨x, read, positive⟩ := Checked.exists_of_andThen checked
    rw [← (Validate.positive_eq_ok positive).1]
    simp only [found, Option.some.injEq, exists_eq_left', ← Validate.float_eq_infinite_iff, read,
      Checked.ok.injEq]

end RequestSettings

namespace Settings

variable {s : Settings} {j : Json}

/-- The timeout is infinite exactly if the settings name an infinite one. -/
theorem timeout_eq_infinite_iff (h : ofJson j = .ok s) :
    s.requests.timeout = .infinite false ↔ j.NamesEndlessTimeout := by
  obtain ⟨ms, rfl, -, -, checked, -⟩ := members_of_ofJson h
  show s.requests.timeout = .infinite false ↔
    ∃ value timeout, Json.lookup? "request" ms = some value ∧ value.get? "timeout" = some timeout ∧
    timeout.Endless
  rcases Validate.cases_of_defaulted checked with ⟨absent, same⟩ | ⟨value, found, checked⟩
  · have finite : ({} : RequestSettings).timeout ≠ .infinite false := by decide
    simpa only [absent, same, reduceCtorEq, false_and, exists_false, iff_false] using finite
  · rw [RequestSettings.timeout_eq_infinite_iff checked]
    simp [found]

end Settings

/-! ## The timeout of requests -/

namespace Engine

/-- The clients that get the requests of an engine post them with given settings. -/
def PostsWith (e : Engine) (settings : RequestSettings) : Prop :=
  ∀ (request : GrantRequest) (c : ExchangeClient), e.clients.find? request.grantType = some c →
    c = .clientCredentials settings ∨ c = .refreshToken settings

variable {e : Engine} {settings : RequestSettings}

/-- What is sent under such an engine is a posted request with its settings. -/
theorem PostsWith.sent (posts : e.PostsWith settings) {a : Nat} {pl : Plan} {issuedAt : DateTime}
    {sent : Transmission} {ticket : Nat}
    (dispatched : (Phase.receiving a pl issuedAt sent ticket).Dispatched e) :
    ∃ http scopes, sent = .post http scopes ∧ http.settings = settings := by
  obtain ⟨client, request, previous⟩ := pl
  obtain ⟨found, begun⟩ := dispatched
  rcases posts request client found with rfl | rfl
  · cases request with
    | clientCredentials =>
      cases begun
      exact ⟨_, _, rfl, rfl⟩
    | refreshToken => cases begun
  · cases request with
    | clientCredentials => cases begun
    | refreshToken =>
      cases begun
      exact ⟨_, _, rfl, rfl⟩

end Engine

/-- The built-in clients stand first in an engine of the program, so they get its requests. -/
theorem Assembly.Standard.postsWith {a : Assembly} {catalog : Catalog} {store : Store}
    {settings : RequestSettings} {made : Assembled} (standard : a.Standard catalog store settings)
    (h : a.build.2 = .ok made) :
    made.engine.PostsWith settings := by
  obtain ⟨cs, listed⟩ := standard.clients_eq h
  intro request c found
  unfold Registry.find? at found
  rw [listed] at found
  cases request with
  | clientCredentials =>
    cases found
    exact .inl rfl
  | refreshToken =>
    cases found
    exact .inr rfl

/-- An engine that was started posts with the requests of its settings. -/
theorem Action.postsWith_of_start {s : Settings} {discover : Bool} {h h' : Host} {x : Started}
    (ran : start s discover h = (.ok x, h')) : x.engine.PostsWith s.requests := by
  obtain ⟨a, catalog, store, made, standard, built, engine, -⟩ := built_of_start ran
  rw [engine]
  exact standard.postsWith built

namespace Engine

open TokenBroker.Action (loadSettings readText)

/-- **Timeouts are finite unless the file says otherwise.** Settings are loaded, from a file or
without one, and an engine is started from them on any host, with extensions or without. Then in
every run of the engine, whatever the store and the transport do, each request under way is a posted
one with the request settings of the settings. Its timeout is infinite if the settings are those of
a file that names an infinite one, as a number or in words, and otherwise it is a rational number
greater than zero. -/
theorem timeout_finite_unless_endless {path : Option Path} {s : Settings} {h h₁ h₂ h₃ : Host}
    {discover : Bool} {x : Started} (loaded : loadSettings path h = (.ok s, h₁))
    (started : Action.start s discover h₂ = (.ok x, h₃)) {r : Interleaving}
    (engine : r.engine = x.engine) {n i : Nat} {k : Key} {a : Nat} {pl : Plan} {issuedAt : DateTime}
    {sent : Transmission} {ticket : Nat}
    (sending : (r.scene n).calls[i]? = some ⟨k, .receiving a pl issuedAt sent ticket⟩) :
    let endless := ∃ p text j, path = some p ∧ readText p h = (.ok text, h₁) ∧
    Json.read text = .ok j ∧
      j.NamesEndlessTimeout
    ∃ http scopes, sent = .post http scopes ∧ http.settings = s.requests ∧
      (endless → http.settings.timeout = .infinite false) ∧
        (¬ endless → ∃ q : ℚ, http.settings.timeout.value? = some q ∧ 0 < q) := by
  intro endless
  obtain ⟨http, scopes, posted, settings⟩ :=
    (Action.postsWith_of_start started).sent (engine ▸ r.dispatched sending)
  refine ⟨http, scopes, posted, settings, ?_⟩
  rw [settings]
  rcases Action.cases_of_loadSettings loaded with ⟨rfl, rfl⟩ | ⟨p, text, j, rfl, read, parsed,
    checked⟩
  · refine ⟨?_, fun _ => ?_⟩
    · rintro ⟨p, -, -, none, -⟩
      cases none
    · exact (Binary64.positive_cases RequestSettings.isPositive_default).resolve_left (by decide)
  · have infinite_iff : s.requests.timeout = .infinite false ↔ j.NamesEndlessTimeout :=
      Settings.timeout_eq_infinite_iff checked
    constructor
    · rintro ⟨p', text', j', same, read', parsed', names⟩
      -- the file holds one text, and the text one value
      cases same
      rw [read] at read'
      cases read'
      rw [parsed] at parsed'
      cases parsed'
      exact infinite_iff.2 names
    · intro given
      refine (Binary64.positive_cases (Settings.isPositive_timeout checked)).resolve_left
        fun infinite => given ?_
      exact ⟨p, text, j, rfl, read, parsed, infinite_iff.1 infinite⟩

/-! ## Runs -/

namespace Patience

/-- Settings with one registration, whose timeout is given as it is written. -/
def settings (timeout : String) : String :=
  "\x7b\"registrations\": \x7b\"svc\": \x7b\"client_id\": \"app\", " ++
    "\"client_secret_source\": \"env:S\", \"token_uri\": \"/token\"\x7d\x7d, " ++
    "\"request\": \x7b\"timeout\": " ++ timeout ++ "\x7d\x7d"

def file : Path := ⟨.root, ["config.json"]⟩

/-- A host with a settings file. -/
def host (timeout : String) : Host where
  tree := { nodes := [(["config.json"], .file (Utf8.encode (settings timeout)) 0o600)] }
  here := []
  environment := [("S", "secret"), ("HOME", "/home")]
  world := { clock := default, transport := fun _ => { reply := .interrupted },
             shared := { store := .memory [] } }

def svc : Key := ⟨"svc", "alice"⟩

/-- One call as far as its request. -/
def run (x : Started) : Interleaving where
  engine := x.engine
  clock := default
  store := .memory []
  event n := (.begin svc :: List.replicate 5 (.step 0 { now := default })).getD n .pause

/-- A call waits for the answer to a request. -/
def Awaits (s : Scene) (http : HttpRequest) : Prop :=
  ∃ (i : Nat) (k : Key) (a : Nat) (pl : Plan) (issuedAt : DateTime) (scopes : List String)
    (ticket : Nat), s.calls[i]? = some ⟨k, .receiving a pl issuedAt (.post http scopes) ticket⟩

/-- The timeouts of the requests under way. -/
def timeouts (s : Scene) : List Binary64 :=
  s.calls.filterMap fun call =>
    match call.phase with
    | .receiving _ _ _ (.post http _) _ => some http.settings.timeout
    | _ => none

/-- A timeout that is seen is that of a request that is awaited. -/
theorem exists_awaits_of_timeouts {s : Scene} {x : Binary64} (h : timeouts s = [x]) :
    ∃ http, Awaits s http ∧ http.settings.timeout = x := by
  have member : x ∈ timeouts s := by
    rw [h]
    exact List.mem_singleton_self x
  obtain ⟨⟨k, p⟩, listed, found⟩ := List.mem_filterMap.1 member
  obtain ⟨i, at_i⟩ := List.getElem?_of_mem listed
  cases p with
  | receiving a pl issuedAt sent ticket =>
    cases sent with
    | post http scopes =>
      exact ⟨http, ⟨i, k, a, pl, issuedAt, scopes, ticket, at_i⟩, Option.some.inj found⟩
    | ask => cases found
  | _ => cases found

/-- Loads the settings and starts an engine from them. -/
def startUp : Action Started := do Action.start (← loadSettings (some file)) false

/-- The host starts an engine whose request carries the timeout of the settings. -/
theorem exists_started {timeout : String} {x : Binary64}
    (sends : (startUp (host timeout)).1.toOption.map
      (fun started => timeouts ((run started).scene 6)) = some [x]) :
    ∃ s h₁ started h₂, loadSettings (some file) (host timeout) = (.ok s, h₁) ∧
      Action.start s false h₁ = (.ok started, h₂) ∧ timeouts ((run started).scene 6) = [x] := by
  rcases ran : startUp (host timeout) with ⟨fault | started, h₂⟩
  · rw [ran] at sends
    cases sends
  · rw [ran] at sends
    obtain ⟨s, h₁, loaded, begun⟩ := Action.exists_of_bind ran
    exact ⟨s, h₁, started, h₂, loaded, begun, Option.some.inj sends⟩

end Patience

open Patience in
/-- A timeout that is given as a text is the number that it denotes. -/
theorem timeout_of_text_finite :
    ∃ s h₁ started h₂ http, loadSettings (some file) (host "\"7.5\"") = (.ok s, h₁) ∧
      Action.start s false h₁ = (.ok started, h₂) ∧ (run started).engine = started.engine ∧
      Awaits ((run started).scene 6) http ∧ ∃ q : ℚ, http.settings.timeout.value? = some q ∧
      0 < q := by
  have sends : (startUp (host "\"7.5\"")).1.toOption.map
      (fun started => timeouts ((run started).scene 6)) =
      some [.ofRatio false 15 2] := by decide +kernel
  obtain ⟨s, h₁, started, h₂, loaded, begun, waits⟩ := exists_started sends
  obtain ⟨http, awaits, timeout⟩ := exists_awaits_of_timeouts waits
  obtain ⟨i, k, a, pl, issuedAt, scopes, ticket, sending⟩ := id awaits
  obtain ⟨_, _, same, -, infinite, finite⟩ := timeout_finite_unless_endless loaded begun rfl sending
  cases same
  have named : http.settings.timeout ≠ .infinite false := by
    rw [timeout]
    decide
  exact ⟨s, h₁, started, h₂, http, loaded, begun, rfl, awaits, finite fun endless =>
    named (infinite endless)⟩

open Patience in
/-- A file whose timeout is beyond all binary numbers is accepted, and a request carries an infinite
timeout. -/
theorem endless_timeout_sent :
    ∃ s h₁ started h₂ http, loadSettings (some file) (host "1e400") = (.ok s, h₁) ∧
      Action.start s false h₁ = (.ok started, h₂) ∧ Awaits ((run started).scene 6) http ∧
      http.settings.timeout = .infinite false ∧ http.settings.timeout.value? = none := by
  have sends : (startUp (host "1e400")).1.toOption.map
      (fun started => timeouts ((run started).scene 6)) =
      some [.infinite false] := by decide +kernel
  obtain ⟨s, h₁, started, h₂, loaded, begun, waits⟩ := exists_started sends
  obtain ⟨http, awaits, timeout⟩ := exists_awaits_of_timeouts waits
  refine ⟨s, h₁, started, h₂, http, loaded, begun, awaits, timeout, ?_⟩
  rw [timeout]
  rfl

end Engine

end TokenBroker
