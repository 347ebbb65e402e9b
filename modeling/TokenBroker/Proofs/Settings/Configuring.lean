import Mathlib.Data.List.Forall2
import TokenBroker.Proofs.Settings.Saving
import TokenBroker.Settings.Credential

/-!
# Configured registrations

Settings are loaded, and a registration is made of each of their entries. None of this changes
anything on the host, so each part of it comes to a result on a host: the source of a secret
(`Host.Yields`), an entry (`Host.Registers`), a settings file (`Host.Loads`), and all together.

What goes wrong with it is reported as a failure of the configuration, but for the ways of
`Host.Escapes` (`Action.configuration_problems_reported_unless_escaped`). This is said of settings
files whose strings are texts (`Host.SpellsOut`): a string with half of a character in it is none.
-/

namespace TokenBroker

/-! ## Lists of computations -/

section Lists

variable {ε α β : Type} {g : α → Except ε β} {xs : List α} {e : ε}

/-- A list of computations fails with the first of them that fails. -/
theorem mapM_eq_error_iff : xs.mapM g = .error e ↔
    ∃ front x rest, xs = front ++ x :: rest ∧ (∀ y ∈ front, ∃ z, g y = .ok z) ∧ g x = .error e := by
  induction xs with
  | nil =>
    refine ⟨fun failed => ?_, ?_⟩
    · cases failed
    · rintro ⟨front, x, rest, order, -⟩
      cases front <;> cases order
  | cons x xs ih =>
    rw [List.mapM_cons]
    cases first : g x with
    | error e' =>
      constructor
      · rintro ⟨⟩
        exact ⟨[], x, xs, rfl, nofun, first⟩
      · rintro ⟨_ | ⟨y, front⟩, x', rest, order, earlier, failed⟩
        · cases order
          cases first.symm.trans failed
          rfl
        · cases order
          obtain ⟨z, ended⟩ := earlier x List.mem_cons_self
          cases first.symm.trans ended
    | ok z =>
      -- behind an element that ends well only the rest can fail
      have later : (do let ys ← xs.mapM g; pure (z :: ys)) = Except.error e ↔
          xs.mapM g = .error e := by
        cases xs.mapM g with
        | error e' => exact Iff.rfl
        | ok ys => exact ⟨nofun, nofun⟩
      refine later.trans (ih.trans ⟨?_, ?_⟩)
      · rintro ⟨front, x', rest, rfl, earlier, failed⟩
        exact ⟨x :: front, x', rest, rfl, List.forall_mem_cons.2 ⟨⟨z, first⟩, earlier⟩, failed⟩
      · rintro ⟨_ | ⟨y, front⟩, x', rest, order, earlier, failed⟩
        · cases order
          cases first.symm.trans failed
        · cases order
          exact ⟨front, x', rest, rfl, (List.forall_mem_cons.1 earlier).2, failed⟩

/-- A list of computations succeeds if all of them do, with their results in order. -/
theorem mapM_eq_ok_iff {ys : List β} :
    xs.mapM g = .ok ys ↔ List.Forall₂ (fun x y => g x = .ok y) xs ys := by
  induction xs generalizing ys with
  | nil =>
    rw [List.mapM_nil, List.forall₂_nil_left_iff]
    exact ⟨fun h => (Except.ok.inj h).symm, fun h => h ▸ rfl⟩
  | cons x xs ih =>
    rw [List.mapM_cons]
    cases first : g x with
    | error e =>
      refine ⟨nofun, ?_⟩
      rintro (_ | ⟨ended, _⟩)
      cases first.symm.trans ended
    | ok z =>
      cases rest : xs.mapM g with
      | error e =>
        refine ⟨nofun, ?_⟩
        rintro (_ | ⟨-, later⟩)
        cases rest.symm.trans (ih.2 later)
      | ok zs =>
        constructor
        · rintro ⟨⟩
          exact .cons first (ih.1 rest)
        · rintro (_ | ⟨ended, later⟩)
          cases first.symm.trans ended
          cases rest.symm.trans (ih.2 later)
          rfl

end Lists

/-! ## Paths that lead nowhere -/

/-- A home fails to be put in for a null byte only. -/
theorem Homes.fault_of_expand {homes : Homes} {s : String} {fault : Fault}
    (failed : homes.expand s = .error fault) :
    fault = .file .nullByte := by
  unfold expand at failed
  split at failed
  · simp only [] at failed
    split at failed
    · cases failed
      rfl
    · split at failed <;> cases failed
  · cases failed

/-- A path is not expanded for want of a home or because of a null byte. -/
theorem Path.fault_of_expandHome {homes : Homes} {p : Path} {fault : Fault}
    (failed : p.expandHome homes = .error fault) : fault = .noHome ∨ fault = .file .nullByte := by
  unfold expandHome at failed
  split at failed
  · next first rest _ _ =>
    split at failed
    · cases expanded : homes.expand first with
      | error fault' =>
        rw [expanded] at failed
        cases failed
        exact .inr (Homes.fault_of_expand expanded)
      | ok home =>
        simp only [expanded, bind, Except.bind] at failed
        split at failed
        · cases failed
          exact .inl rfl
        · cases failed
    · cases failed
  · cases failed

/-- The text that a content holds, with each line end as one line feed. -/
def Host.textOf (content : List UInt8) : Except Fault String :=
  ((Utf8.decode content).mapError .undecodable).map Text.unifyLines

namespace Action

theorem readText_run (p : Path) (h : Host) :
    readText p h = (((h.content p).mapError .file).bind Host.textOf, h) := by
  unfold readText
  rw [get_bind_run, bind_run]
  cases h.content p with
  | error e => rfl
  | ok content =>
    simp only [ofFile_run, Except.mapError, Except.bind, Host.textOf]
    cases Utf8.decode content <;> rfl

end Action

/-! ## Secrets -/

/-- What the source of a secret, as it is configured, comes to on a host. -/
inductive Host.Yields (h : Host) (source : String) : Except Fault String → Prop
  | variable {name value : String}
      (names : CredentialSource.ofText? source = some (.environment name))
      (set : h.environment.get? name = some value) : Yields h source (.ok value)
  | unset {name : String} (names : CredentialSource.ofText? source = some (.environment name))
      (unset : h.environment.get? name = none) :
      Yields h source (.error
        (.failure (.config s!"Environment variable '{name}' is not set (source: {source})")))
  /-- The home directory that the path starts with is not known, or its account cannot be looked
  up. -/
  | homeless {text : String} {fault : Fault}
      (names : CredentialSource.ofText? source = some (.file text))
      (lost : (Path.ofText text).expandHome h.homes = .error fault) : Yields h source (.error fault)
  /-- What stands at the path cannot be looked at: it is too long, or that is refused. -/
  | unseen {text : String} {p : Path} {e : FileError}
      (names : CredentialSource.ofText? source = some (.file text))
      (leads : (Path.ofText text).expandHome h.homes = .ok p) (unseen : h.isFile p = .error e) :
      Yields h source (.error (.file e))
  | missing {text : String} {p : Path} (names : CredentialSource.ofText? source = some (.file text))
      (leads : (Path.ofText text).expandHome h.homes = .ok p) (absent : h.isFile p = .ok false) :
      Yields h source (.error
        (.failure (.config s!"Credential file not found: {p.text} (source: {source})")))
  | unreadable {text : String} {p : Path} {e : FileError}
      (names : CredentialSource.ofText? source = some (.file text))
      (leads : (Path.ofText text).expandHome h.homes = .ok p) (stands : h.isFile p = .ok true)
      (refused : h.content p = .error e) :
      Yields h source (.error
        (.failure (.config s!"Cannot read credential file {p.text}: {e.message}")))
  /-- The file is not UTF-8. -/
  | undecodable {text : String} {p : Path} {content : List UInt8} {e : Utf8.Error}
      (names : CredentialSource.ofText? source = some (.file text))
      (leads : (Path.ofText text).expandHome h.homes = .ok p) (stands : h.isFile p = .ok true)
      (read : h.content p = .ok content) (garbled : Utf8.decode content = .error e) :
      Yields h source (.error (.undecodable e))
  /-- The secret stands in the file, between white space. -/
  | text {text secret : String} {p : Path} {content : List UInt8}
      (names : CredentialSource.ofText? source = some (.file text))
      (leads : (Path.ofText text).expandHome h.homes = .ok p) (stands : h.isFile p = .ok true)
      (read : h.content p = .ok content) (decoded : Utf8.decode content = .ok secret) :
      Yields h source (.ok (Text.trimWide (Text.unifyLines secret)))
  | unknown (names : CredentialSource.ofText? source = none) :
      Yields h source (.error (.failure (.config s!"Unknown credential source format: {source}")))

namespace Action

variable {h : Host} {source : String} {r : Except Fault String}

/-- A secret is looked up as its source yields it. -/
theorem credential_of_yields (yields : h.Yields source r) : credential source h = (r, h) := by
  unfold credential
  cases yields with
  | «variable» names set | unset names set =>
    rw [names]
    simp only
    rw [get_bind_run, set]
    rfl
  | homeless names lost =>
    rw [names]
    simp only [bind_run, expand_run, lost]
  | unseen names leads unseen =>
    rw [names]
    simp only [bind_run, expand_run, leads, isFile_run, unseen, Except.mapError]
  | missing names leads absent =>
    rw [names]
    simp only [bind_run, expand_run, leads, isFile_run, absent, Except.mapError]
    rfl
  | unreadable names leads stands refused =>
    rw [names]
    simp only [bind_run, expand_run, leads, isFile_run, stands, Except.mapError, if_true, adapt_run,
      readText_run, refused, Except.bind]
    rfl
  | undecodable names leads stands read garbled =>
    rw [names]
    simp only [bind_run, expand_run, leads, isFile_run, stands, Except.mapError, if_true, adapt_run,
      readText_run, read, Except.bind, Host.textOf, garbled]
    rfl
  | text names leads stands read decoded =>
    rw [names]
    simp only [bind_run, expand_run, leads, isFile_run, stands, Except.mapError, if_true, adapt_run,
      readText_run, read, Except.bind, Host.textOf, decoded]
    rfl
  | unknown names =>
    rw [names]
    rfl

/-- Every source comes to something. -/
theorem exists_yields (h : Host) (source : String) : ∃ r, h.Yields source r := by
  cases names : CredentialSource.ofText? source with
  | none => exact ⟨_, .unknown names⟩
  | some place =>
    cases place with
    | environment name =>
      cases set : h.environment.get? name with
      | none => exact ⟨_, .unset names set⟩
      | some value => exact ⟨_, .variable names set⟩
    | file text =>
      cases leads : (Path.ofText text).expandHome h.homes with
      | error fault => exact ⟨_, .homeless names leads⟩
      | ok p =>
        cases stands : h.isFile p with
        | error e =>
          exact ⟨_, .unseen names leads stands⟩
        | ok file =>
          cases file with
          | false => exact ⟨_, .missing names leads stands⟩
          | true =>
            cases read : h.content p with
            | error e => exact ⟨_, .unreadable names leads stands read⟩
            | ok content =>
              cases decoded : Utf8.decode content with
              | error e => exact ⟨_, .undecodable names leads stands read decoded⟩
              | ok secret => exact ⟨_, .text names leads stands read decoded⟩

end Action

/-! ## Entries -/

namespace RegistrationEntry

/-- The source of the secret, if there is to be one. -/
def source? (entry : RegistrationEntry) : Option String := entry.secretSource.filter (· ≠ "")

/-- The registration of an entry, with its secret. -/
def registered (entry : RegistrationEntry) (id : String) (secret : Option String) :
    ClientRegistration where
  registrationId := id
  clientId := entry.clientId
  clientSecret := secret
  authentication := entry.authentication
  grantType := entry.grantType
  tokenUri := entry.tokenUri
  scopes := entry.scopes
  authorizationUri := entry.authorizationUri
  redirectUri := entry.redirectUri
  clientName := entry.clientName

end RegistrationEntry

/-- What an entry of the settings comes to on a host. -/
inductive Host.Registers (h : Host) : String × RegistrationEntry → Except Fault ClientRegistration →
    Prop
  | «public» {id : String} {entry : RegistrationEntry} (bare : entry.source? = none) :
      Registers h (id, entry) (.ok (entry.registered id none))
  | secret {id source value : String} {entry : RegistrationEntry}
      (given : entry.source? = some source)
      (yields : h.Yields source (.ok value)) :
        Registers h (id, entry) (.ok (entry.registered id (some value)))
  | failed {id source : String} {entry : RegistrationEntry} {fault : Fault}
      (given : entry.source? = some source)
      (yields : h.Yields source (.error fault)) :
        Registers h (id, entry) (.error (Action.ofRegistration id fault))

/-- Each entry comes to its registration, with its secret if it is to have one. -/
def Host.RegistersAll (h : Host) : List (String × RegistrationEntry) → List ClientRegistration →
    Prop :=
  List.Forall₂ fun x r => h.Registers x (.ok r)

namespace Action

variable {h : Host} {id : String} {entry : RegistrationEntry} {r : Except Fault ClientRegistration}

theorem registration_eq (id : String) (entry : RegistrationEntry) :
    registration id entry = match entry.source? with
      | none => return entry.registered id none
      | some source =>
        (entry.registered id ∘ some) <$> (credential source).adapt (ofRegistration id) := by
  unfold registration RegistrationEntry.source?
  cases entry.secretSource with
  | none => rfl
  | some source =>
    by_cases empty : source = ""
    · rw [empty]
      rfl
    · simp [Option.filter, empty, RegistrationEntry.registered, Function.comp_def]

/-- An entry becomes the registration it is said to become. -/
theorem registration_of_registers (registers : h.Registers (id, entry) r) :
    registration id entry h = (r, h) := by
  rw [registration_eq]
  cases registers with
  | «public» bare =>
    rw [bare]
    rfl
  | secret given yields =>
    rw [given]
    simp only [map_eq_pure_bind, bind_run, adapt_run, credential_of_yields yields]
    rfl
  | failed given yields =>
    rw [given]
    simp only [map_eq_pure_bind, bind_run, adapt_run, credential_of_yields yields]
    rfl

/-- Every entry comes to something. -/
theorem exists_registers (h : Host) (id : String) (entry : RegistrationEntry) :
    ∃ r, h.Registers (id, entry) r := by
  cases given : entry.source? with
  | none => exact ⟨_, .public given⟩
  | some source =>
    obtain ⟨_ | _, yields⟩ := exists_yields h source
    · exact ⟨_, .failed given yields⟩
    · exact ⟨_, .secret given yields⟩

theorem registration_run (id : String) (entry : RegistrationEntry) (h : Host) :
    registration id entry h = ((registration id entry h).1, h) := by
  obtain ⟨r, registers⟩ := exists_registers h id entry
  rw [registration_of_registers registers]

/-- What an entry becomes is the result of reading it. -/
theorem registers_iff {x : String × RegistrationEntry} :
    h.Registers x r ↔ (registration x.1 x.2 h).1 = r := by
  obtain ⟨id, entry⟩ := x
  obtain ⟨r', registers⟩ := exists_registers h id entry
  constructor
  · intro registers
    rw [registration_of_registers registers]
  · intro ended
    rw [registration_of_registers registers] at ended
    exact ended ▸ registers

/-- Reading the registrations leaves the host as it is. -/
theorem registrations_run (s : Settings) (h : Host) :
    registrations s h = (s.registrations.mapM fun x => (registration x.1 x.2 h).1, h) := by
  unfold registrations
  apply mapM_run
  rintro ⟨id, entry⟩
  exact registration_run id entry h

/-- Registrations are made of all entries, each of which comes to one. -/
theorem registrations_eq_ok_iff {s : Settings} {rs : List ClientRegistration} :
    (registrations s h).1 = .ok rs ↔ h.RegistersAll s.registrations rs := by
  rw [registrations_run, mapM_eq_ok_iff, Host.RegistersAll]
  simp only [registers_iff]

/-- Or the first entry that does not come to one ends it. -/
theorem registrations_eq_error_iff {s : Settings} {fault : Fault} :
    (registrations s h).1 = .error fault ↔ ∃ front x rest, s.registrations = front ++ x :: rest ∧
      (∀ y ∈ front, ∃ r, h.Registers y (.ok r)) ∧ h.Registers x (.error fault) := by
  rw [registrations_run, mapM_eq_error_iff]
  simp only [registers_iff]

end Action

/-! ## Settings files -/

/-- What loading the settings comes to on a host. -/
inductive Host.Loads (h : Host) : Option Path → Except Fault Settings → Prop
  | default : Loads h none (.ok {})
  /-- What stands at the path cannot be looked at: it is too long, or that is refused. -/
  | unseen {p : Path} {e : FileError} (unseen : h.isFile p = .error e) :
      Loads h (some p) (.error (.file e))
  | missing {p : Path} (absent : h.isFile p = .ok false) :
      Loads h (some p) (.error (.failure (.config s!"Config file not found: {p.text}")))
  /-- The file system refuses to read the file. -/
  | refused {p : Path} {e : FileError} (stands : h.isFile p = .ok true)
      (refused : h.content p = .error e) :
      Loads h (some p) (.error (.file e))
  | undecodable {p : Path} {content : List UInt8} {e : Utf8.Error} (stands : h.isFile p = .ok true)
      (read : h.content p = .ok content) (garbled : Utf8.decode content = .error e) :
      Loads h (some p) (.error (.failure (.config s!"Invalid config at {p.text}: {e.message}")))
  /-- Containers stand deeper within each other than the host can follow. -/
  | tooDeep {p : Path} {content : List UInt8} {text : String} {e : Json.SyntaxError}
      {container : Json.Container} (stands : h.isFile p = .ok true)
      (read : h.content p = .ok content) (decoded : Utf8.decode content = .ok text)
      (stopped : Json.readWithin h.nesting.levels (Text.unifyLines text) = .error e)
      (deep : e.problem = .tooDeep container) : Loads h (some p) (.error (.tooDeep container))
  | notJson {p : Path} {content : List UInt8} {text : String} {e : Json.SyntaxError}
      (stands : h.isFile p = .ok true) (read : h.content p = .ok content)
      (decoded : Utf8.decode content = .ok text)
      (garbled : Json.readWithin h.nesting.levels (Text.unifyLines text) = .error e)
      (shallow : ∀ container, e.problem ≠ .tooDeep container) :
      Loads h (some p) (.error (.failure (.config s!"Invalid config at {p.text}: {e.message}")))
  | unfit {p : Path} {content : List UInt8} {text : String} {j : Json} {i : Invalid}
      (stands : h.isFile p = .ok true) (read : h.content p = .ok content)
      (decoded : Utf8.decode content = .ok text)
      (json : Json.readWithin h.nesting.levels (Text.unifyLines text) = .ok j)
      (unfit : Settings.parse j = .error i) :
      Loads h (some p)
        (.error (.failure (.plain .config s!"Invalid config at {p.text}: {i.headline}" none
          i.issues)))
  | settings {p : Path} {content : List UInt8} {text : String} {j : Json} {s : Settings}
      (stands : h.isFile p = .ok true) (read : h.content p = .ok content)
      (decoded : Utf8.decode content = .ok text)
      (json : Json.readWithin h.nesting.levels (Text.unifyLines text) = .ok j)
      (fits : Settings.parse j = .ok s) : Loads h (some p) (.ok s)

theorem Fault.ofSyntax_of_shallow {e : Json.SyntaxError}
    (shallow : ∀ container, e.problem ≠ .tooDeep container) : ofSyntax e = .syntaxError e := by
  unfold ofSyntax
  split
  · next container deep => exact absurd deep (shallow container)
  · rfl

namespace Action

variable {h : Host} {path : Option Path} {r : Except Fault Settings}

/-- The settings are loaded as the host is said to load them. -/
theorem loadSettings_of_loads (loads : h.Loads path r) : loadSettings path h = (r, h) := by
  cases loads with
  | default => rfl
  | unseen unseen => simp only [loadSettings, bind_run, isFile_run, unseen, Except.mapError]
  | missing absent =>
    simp only [loadSettings, bind_run, isFile_run, absent, Except.mapError]
    rfl
  | refused stands refused =>
    simp only [loadSettings, bind_run, isFile_run, stands, Except.mapError, if_true, adapt_run,
      readText_run, refused, Except.bind]
    rfl
  | undecodable stands read garbled =>
    simp only [loadSettings, bind_run, isFile_run, stands, Except.mapError, if_true, adapt_run,
      readText_run, read, Except.bind, Host.textOf, garbled]
    rfl
  | tooDeep stands read decoded stopped deep =>
    simp only [loadSettings, bind_run, isFile_run, stands, Except.mapError, if_true, adapt_run,
      readText_run, read, Except.bind, Host.textOf, decoded, Except.map, settingsOf_run,
      Settings.ofText, stopped, Fault.ofSyntax, deep]
    rfl
  | notJson stands read decoded garbled shallow =>
    simp only [loadSettings, bind_run, isFile_run, stands, Except.mapError, if_true, adapt_run,
      readText_run, read, Except.bind, Host.textOf, decoded, Except.map, settingsOf_run,
      Settings.ofText, garbled, Fault.ofSyntax_of_shallow shallow]
    rfl
  | unfit stands read decoded json unfit =>
    simp only [loadSettings, bind_run, isFile_run, stands, Except.mapError, if_true, adapt_run,
      readText_run, read, Except.bind, Host.textOf, decoded, Except.map, settingsOf_run,
      Settings.ofText, json, unfit]
    rfl
  | settings stands read decoded json fits =>
    simp only [loadSettings, bind_run, isFile_run, stands, Except.mapError, if_true, adapt_run,
      readText_run, read, Except.bind, Host.textOf, decoded, Except.map, settingsOf_run,
      Settings.ofText, json, fits]

/-- Loading comes to something, whatever stands at the path. -/
theorem exists_loads (h : Host) (path : Option Path) : ∃ r, h.Loads path r := by
  cases path with
  | none => exact ⟨_, .default⟩
  | some p =>
    cases stands : h.isFile p with
    | error e =>
      exact ⟨_, .unseen stands⟩
    | ok file =>
      cases file with
      | false => exact ⟨_, .missing stands⟩
      | true =>
        cases read : h.content p with
        | error e => exact ⟨_, .refused stands read⟩
        | ok content =>
          cases decoded : Utf8.decode content with
          | error e => exact ⟨_, .undecodable stands read decoded⟩
          | ok text =>
            cases json : Json.readWithin h.nesting.levels (Text.unifyLines text) with
            | error e =>
              by_cases deep : ∃ container, e.problem = .tooDeep container
              · exact ⟨_, .tooDeep stands read decoded json deep.choose_spec⟩
              · exact ⟨_, .notJson stands read decoded json (not_exists.1 deep)⟩
            | ok j =>
              cases fits : Settings.parse j with
              | error i => exact ⟨_, .unfit stands read decoded json fits⟩
              | ok s => exact ⟨_, .settings stands read decoded json fits⟩

/-- What a host loads is the result of loading it. -/
theorem loads_iff : h.Loads path r ↔ (loadSettings path h).1 = r := by
  obtain ⟨r', loads⟩ := exists_loads h path
  constructor
  · intro loads
    rw [loadSettings_of_loads loads]
  · intro ended
    rw [loadSettings_of_loads loads] at ended
    exact ended ▸ loads

end Action

/-! ## Settings and their registrations -/

namespace Host

/-- The secret of an entry is looked up in this source, as those of all entries before it have been
found. -/
def LooksUp (h : Host) (path : Option Path) (id source : String) : Prop :=
  ∃ s front entry rest, h.Loads path (.ok s) ∧ s.registrations = front ++ (id, entry) :: rest ∧
    (∀ x ∈ front, ∃ r, h.Registers x (.ok r)) ∧ entry.source? = some source

/-- The settings file spells all its strings out, if it is text: none of them has half of a
character in it. -/
def SpellsOut (h : Host) (path : Option Path) : Prop :=
  ∀ p content text, path = some p → h.content p = .ok content → Utf8.decode content = .ok text →
    Json.SpellsOut text

/-- The ways in which a fault of configuring gets past the failures that report one. -/
inductive Escapes (h : Host) (path : Option Path) : Fault → Prop
  /-- What stands at the path of the settings file cannot be looked at. -/
  | unseen {p : Path} {e : FileError} (given : path = some p) (unseen : h.isFile p = .error e) :
      Escapes h path (.file e)
  /-- The file system refuses to read the settings file. -/
  | refused {p : Path} {e : FileError} (given : path = some p) (stands : h.isFile p = .ok true)
      (refused : h.content p = .error e) : Escapes h path (.file e)
  /-- Containers stand deeper within each other in the settings file than the host can follow. -/
  | tooDeep {p : Path} {content : List UInt8} {text : String} {e : Json.SyntaxError}
      {container : Json.Container} (given : path = some p) (stands : h.isFile p = .ok true)
      (read : h.content p = .ok content) (decoded : Utf8.decode content = .ok text)
      (stopped : Json.readWithin h.nesting.levels (Text.unifyLines text) = .error e)
      (deep : e.problem = .tooDeep container) : Escapes h path (.tooDeep container)
  /-- A secret is kept below a home directory that is not known, or whose account cannot be looked
  up. -/
  | homeless {id source text : String} {fault : Fault} (looksUp : h.LooksUp path id source)
      (names : CredentialSource.ofText? source = some (.file text))
      (lost : (Path.ofText text).expandHome h.homes = .error fault) : Escapes h path fault
  /-- What stands at the path of a secret cannot be looked at. -/
  | unseenSecret {id source text : String} {p : Path} {e : FileError}
      (looksUp : h.LooksUp path id source)
      (names : CredentialSource.ofText? source = some (.file text))
      (leads : (Path.ofText text).expandHome h.homes = .ok p) (unseen : h.isFile p = .error e) :
      Escapes h path (.file e)
  /-- The file of a secret is not UTF-8. -/
  | undecodableSecret {id source text : String} {p : Path} {content : List UInt8} {e : Utf8.Error}
      (looksUp : h.LooksUp path id source)
      (names : CredentialSource.ofText? source = some (.file text))
      (leads : (Path.ofText text).expandHome h.homes = .ok p) (stands : h.isFile p = .ok true)
      (read : h.content p = .ok content) (garbled : Utf8.decode content = .error e) :
        Escapes h path (.undecodable e)

/-- What escapes is no failure of the program's own. -/
theorem Escapes.ne_failure {h : Host} {path : Option Path} {fault : Fault}
    (escapes : h.Escapes path fault) (f : Failure) : fault ≠ .failure f := by
  cases escapes with
  | homeless looksUp names lost =>
    rcases Path.fault_of_expandHome lost with rfl | rfl
    · exact nofun
    · exact nofun
  | _ => exact nofun

end Host

namespace Action

variable {h : Host} {path : Option Path} {fault : Fault}

/-- Loads the settings, and makes registrations of their entries. -/
def configure (path : Option Path) : Action (List ClientRegistration) := do
    registrations (← loadSettings path)

/-- Configuring changes nothing. It fails where loading does, or where the first entry does that
comes to no registration. -/
theorem configure_run (path : Option Path) (h : Host) : (configure path h).2 = h := by
  obtain ⟨r, loads⟩ := exists_loads h path
  unfold configure
  rw [bind_run, loadSettings_of_loads loads]
  cases r with
  | error => rfl
  | ok s => exact congrArg Prod.snd (registrations_run s h)

/-- Configuring fails exactly if the settings or one of the registrations do. -/
theorem configure_eq_error_iff : (configure path h).1 = .error fault ↔
    h.Loads path (.error fault) ∨ ∃ s, h.Loads path (.ok s) ∧
    (registrations s h).1 = .error fault := by
  obtain ⟨r, loads⟩ := exists_loads h path
  have loaded := loadSettings_of_loads loads
  unfold configure
  rw [bind_run, loaded]
  simp only [loads_iff, loaded]
  cases r with
  | error fault' => simp
  | ok s => simp

/-- A fault of an entry is one of looking up its secret. -/
theorem registrations_eq_error_iff_of_loads {s : Settings} (loads : h.Loads path (.ok s)) :
    (registrations s h).1 = .error fault ↔ ∃ id source fault', h.LooksUp path id source ∧
      h.Yields source (.error fault') ∧ fault = ofRegistration id fault' := by
  rw [registrations_eq_error_iff]
  constructor
  · rintro ⟨front, ⟨id, entry⟩, rest, order, earlier, failed⟩
    cases failed with
    | failed given yields =>
      exact ⟨id, _, _, ⟨s, front, entry, rest, loads, order, earlier, given⟩, yields, rfl⟩
  · rintro ⟨id, source, fault', ⟨s', front, entry, rest, loads', order, earlier, given⟩,
      yields, rfl⟩
    cases (loadSettings_of_loads loads).symm.trans (loadSettings_of_loads loads')
    exact ⟨front, (id, entry), rest, order, earlier, .failed given yields⟩

/-- A fault of a secret is passed on as it is, unless it is a failure. -/
theorem ofRegistration_of_ne_failure {id : String} (other : ∀ f, fault ≠ .failure f) :
    ofRegistration id fault = fault := by
  cases fault with
  | failure f => exact absurd rfl (other f)
  | _ => rfl

/-- Settings that fail to load do so by a problem of the configuration. -/
theorem config_of_loads {f : Failure} (loads : h.Loads path (.error (.failure f))) :
    ∃ message issues, f = .plain .config message none issues := by
  cases loads with
  | unfit => exact ⟨_, _, rfl⟩
  | _ => exact ⟨_, [], rfl⟩

/-- A fault of loading that is no failure of the program's own escapes. -/
theorem escapes_of_loads (loads : h.Loads path (.error fault)) (other : ∀ f, fault ≠ .failure f) :
    h.Escapes path fault := by
  cases loads with
  | unseen unseen => exact .unseen rfl unseen
  | tooDeep stands read decoded stopped deep => exact .tooDeep rfl stands read decoded stopped deep
  | refused stands refused => exact .refused rfl stands refused
  | _ => exact absurd rfl (other _)

/-- A fault of a source that is no failure of the program's own escapes. -/
theorem escapes_of_yields {id source : String} (looksUp : h.LooksUp path id source)
    (yields : h.Yields source (.error fault)) (other : ∀ f, fault ≠ .failure f) :
    h.Escapes path fault := by
  cases yields with
  | homeless names lost => exact .homeless looksUp names lost
  | unseen names leads unseen => exact .unseenSecret looksUp names leads unseen
  | undecodable names leads stands read garbled =>
    exact .undecodableSecret looksUp names leads stands read garbled
  | _ => exact absurd rfl (other _)

/-- What escapes is how configuring ends. -/
theorem configure_of_escapes (escapes : h.Escapes path fault) :
    (configure path h).1 = .error fault := by
  have unreported := escapes.ne_failure
  -- a secret that is looked up and yields the fault ends the whole with it
  have ofSecret {id source : String} (looksUp : h.LooksUp path id source)
      (yields : h.Yields source (.error fault)) :
      (configure path h).1 = .error fault := by
    have ⟨s, _, _, _, loads, _⟩ := looksUp
    refine configure_eq_error_iff.2
      (.inr ⟨s, loads, (registrations_eq_error_iff_of_loads loads).2 ?_⟩)
    exact ⟨id, source, fault, looksUp, yields, (ofRegistration_of_ne_failure unreported).symm⟩
  cases escapes with
  | unseen given unseen =>
    cases given
    exact configure_eq_error_iff.2 (.inl (.unseen unseen))
  | tooDeep given stands read decoded stopped deep =>
    cases given
    exact configure_eq_error_iff.2 (.inl (.tooDeep stands read decoded stopped deep))
  | refused given stands refused =>
    cases given
    exact configure_eq_error_iff.2 (.inl (.refused stands refused))
  | homeless looksUp names lost => exact ofSecret looksUp (.homeless names lost)
  | unseenSecret looksUp names leads unseen =>
    exact ofSecret looksUp (.unseen names leads unseen)
  | undecodableSecret looksUp names leads stands read garbled =>
    exact ofSecret looksUp (.undecodable names leads stands read garbled)

/-- A failure that a secret ends with is passed on under the id of its registration; any other fault
as it is. -/
theorem exists_failure_of_registrations {s : Settings} {f : Failure} (loads : h.Loads path (.ok s))
    (failed : (registrations s h).1 = .error (.failure f)) :
    ∃ id source cause, h.LooksUp path id source ∧ h.Yields source (.error (.failure cause)) ∧
      f = .config s!"Registration '{id}': {cause.message}" := by
  obtain ⟨id, source, fault, looksUp, yields, same⟩ :=
    (registrations_eq_error_iff_of_loads loads).1 failed
  by_cases reported : ∃ cause, fault = .failure cause
  · obtain ⟨cause, rfl⟩ := reported
    cases same
    exact ⟨id, source, cause, looksUp, yields, rfl⟩
  · rw [ofRegistration_of_ne_failure fun cause is => reported ⟨cause, is⟩] at same
    exact absurd ⟨f, same.symm⟩ reported

/-- Whatever problem there is with the configuration is reported as a failure of it, unless it
escapes: what stands at the path of the settings file and what it spells out, what the environment
gives and what the files of the secrets hold can be anything. The failure of a secret names the
registration. Nothing on the host is changed.

A settings file with half of a character in a string is left out. The proof has no need of that, but
what is read in the place of such a half is a replacement character, which is another text. -/
theorem configuration_problems_reported_unless_escaped (path : Option Path) (h : Host)
    (_ : h.SpellsOut path) :
    (configure path h).2 = h ∧
      (∀ f, (configure path h).1 = .error (.failure f) →
        ∃ message issues, f = .plain .config message none issues) ∧
      (∀ s f, h.Loads path (.ok s) → (configure path h).1 = .error (.failure f) →
        ∃ id source cause, h.LooksUp path id source ∧ h.Yields source (.error (.failure cause)) ∧
          f = .config s!"Registration '{id}': {cause.message}") ∧
      ∀ fault, (∀ f, fault ≠ .failure f) →
        ((configure path h).1 = .error fault ↔ h.Escapes path fault) := by
  have ofSecret {s : Settings} {f : Failure} (loads : h.Loads path (.ok s))
      (failed : (configure path h).1 = .error (.failure f)) :
        (registrations s h).1 = .error (.failure f) := by
    rcases configure_eq_error_iff.1 failed with other | ⟨s', loads', failed⟩
    · cases (loads_iff.1 loads).symm.trans (loads_iff.1 other)
    · cases (loads_iff.1 loads).symm.trans (loads_iff.1 loads')
      exact failed
  refine ⟨configure_run path h, ?_, ?_, ?_⟩
  · intro f failed
    rcases configure_eq_error_iff.1 failed with loads | ⟨s, loads, failed⟩
    · exact config_of_loads loads
    · obtain ⟨id, source, cause, -, -, rfl⟩ := exists_failure_of_registrations loads failed
      exact ⟨_, [], rfl⟩
  · intro s f loads failed
    exact exists_failure_of_registrations loads (ofSecret loads failed)
  · refine fun fault other => ⟨fun failed => ?_, configure_of_escapes⟩
    rcases configure_eq_error_iff.1 failed with loads | ⟨s, loads, failed⟩
    · exact escapes_of_loads loads other
    · obtain ⟨id, source, fault', looksUp, yields, rfl⟩ :=
        (registrations_eq_error_iff_of_loads loads).1 failed
      have unreported : ∀ f, fault' ≠ .failure f := by
        rintro f rfl
        exact other _ rfl
      rw [ofRegistration_of_ne_failure unreported]
      exact escapes_of_yields looksUp yields unreported

end Action

namespace OneSecret

/-- Settings of one registration, whose secret has the given source. -/
def settings (source : String) : Settings where
  registrations :=
    [("svc-a", { clientId := "svc-client", secretSource := some source,
                 tokenUri := "https://auth/token" })]

/-- A host with these settings. The file `/secret` holds a byte that is never UTF-8. -/
def host (source : String) (environment : Environment) : Host where
  environment
  tree := { nodes :=
    [(["a.json"], .file (Utf8.encode (settings source).fileText) 0o600),
      (["secret"], .file [0xff] 0o600)] }
  world :=
    { clock := default
      transport _ := { reply := .interrupted }
      shared := { store := .memory [] } }

def file : Path := ⟨.root, ["a.json"]⟩

variable (source : String) (environment : Environment)

theorem loads (writable : (settings source).toJson.isWritable = true) :
    (host source environment).Loads (some file) (.ok (settings source)) := by
  have accepted : Settings.ofJson (settings source).toJson = .ok (settings source) := by rfl
  have nodup : ((settings source).registrations.map (·.1)).Nodup := List.nodup_singleton _
  have json : Json.readWithin (host source environment).nesting.levels (settings source).fileText =
      .ok (settings source).toJson :=
    Json.readWithin_render .portable (Settings.distinct_toJson nodup) writable
      ((settings source).allow_height (host source environment).nesting) "\n"
        (by simp [Json.isSpace])
  have lines : Text.unifyLines (settings source).fileText = (settings source).fileText :=
    Json.unifyLines_render .portable (settings source).toJson
  refine .settings rfl rfl (Utf8.decode_encode (settings source).fileText)
    ((congrArg (Json.readWithin _) lines).trans json) ?_
  unfold Settings.parse
  rw [accepted]
  rfl

theorem spellsOut
    (plain : '\\' ∉ Json.renderValue .portable 0 (settings source).toJson) :
    (host source environment).SpellsOut (some file) := by
  rintro p content text ⟨⟩ held decoded
  have content : (host source environment).content file =
      .ok (Utf8.encode (settings source).fileText) := rfl
  obtain rfl := Except.ok.inj (content.symm.trans held)
  obtain rfl := Except.ok.inj ((Utf8.decode_encode _).symm.trans decoded)
  apply Json.spellsOut_of_not_mem
  rw [Settings.fileText, String.toList_append, Json.render, String.toList_ofList,
    List.mem_append, not_or]
  exact ⟨plain, by decide⟩

theorem looksUp (loads : (host source environment).Loads (some file) (.ok (settings source)))
    (given : source ≠ "") : (host source environment).LooksUp (some file) "svc-a" source :=
  ⟨settings source, [], _, [], loads, rfl, List.forall_mem_nil _, by
    simp [RegistrationEntry.source?, Option.filter, given]⟩

end OneSecret

namespace Action

open OneSecret

/-- A secret from a variable that is not set is reported under the id of its registration. -/
theorem unset_secret_reported :
    (host "env:APP_SECRET" []).SpellsOut (some file) ∧
      ∃ f, (configure (some file) (host "env:APP_SECRET" [])).1 = .error (.failure f) ∧
        ∃ id source cause, (host "env:APP_SECRET" []).LooksUp (some file) id source ∧
          (host "env:APP_SECRET" []).Yields source (.error (.failure cause)) ∧
          f = .config s!"Registration '{id}': {cause.message}" := by
  have spelled := spellsOut "env:APP_SECRET" [] (by decide +kernel)
  have read := loads "env:APP_SECRET" [] (by decide)
  have looked := looksUp "env:APP_SECRET" [] read (by decide)
  have unset : (host "env:APP_SECRET" []).Yields "env:APP_SECRET" _ := .unset rfl rfl
  have failed := configure_eq_error_iff.2 (.inr ⟨_, read,
    (registrations_eq_error_iff_of_loads read).2 ⟨_, _, _, looked, unset, rfl⟩⟩)
  obtain ⟨-, -, named, -⟩ :=
    configuration_problems_reported_unless_escaped (some file) (host "env:APP_SECRET" []) spelled
  exact ⟨spelled, _, failed, named _ _ read failed⟩

/-- A secret that is not UTF-8 ends it with a fault that is no failure of the configuration. -/
theorem garbled_secret_escapes :
    ∃ e, (configure (some file) (host "file:/secret" [])).1 = .error (.undecodable e) ∧
      e.message = "'utf-8' codec can't decode byte 0xff in position 0: invalid start byte" := by
  have looked := looksUp "file:/secret" [] (loads "file:/secret" [] (by decide)) (by decide)
  exact ⟨_, configure_of_escapes (.undecodableSecret looked rfl rfl rfl rfl rfl), rfl⟩

end Action

end TokenBroker
