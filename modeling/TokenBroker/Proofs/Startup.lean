import TokenBroker.Proofs.Assembly
import TokenBroker.Proofs.Host
import TokenBroker.Proofs.Service.Failing
import TokenBroker.Proofs.Settings.Configuring
import TokenBroker.Startup

/-!
# What starting comes to

From the settings in force to an engine (`Action.prepare`). What fails on the way, as the broker's
own failure, is a matter of the configuration or of the wiring (`Action.failsOnly_prepare`). An
engine that has been started serves all its unattended registrations and asks nobody but the
built-in clients, whatever extensions have been found (`Action.ready_of_prepare`).
-/

namespace TokenBroker

/-- A failure of the configuration, or of the wiring. -/
inductive Failure.OfStarting : Failure → Prop
  | config (message : String) (issues : List Issue) :
      OfStarting (.plain .config message none issues)
  | wiring (message : String) : OfStarting (.wiring message)

/-- A failure of starting ends with one of two exit codes. -/
theorem Failure.OfStarting.exitCode_cases {f : Failure} (h : f.OfStarting) :
    f.exitCode ∈ [ExitStatus.generalFailure, .wiring].map ExitStatus.code := by
  cases h with
  | config => simp [Failure.exitCode, FailureKind.status]
  | wiring => simp [Failure.exitCode, Failure.wiring, Failure.of, FailureKind.status]

open Failure (OfStarting)

/-! ## Failures of the parts -/

theorem Homes.expand_ne (h : Homes) (s : String) (f : Failure) : h.expand s ≠ .error (.failure f) :=
  fun failed => nomatch Homes.fault_of_expand failed

theorem Path.expandHome_ne (h : Homes) (p : Path) (f : Failure) :
    p.expandHome h ≠ .error (.failure f) := by
  intro failed
  rcases Path.fault_of_expandHome failed with same | same
  · cases same
  · cases same

theorem Host.directory_ne (h : Host) (purpose : Purpose) (f : Failure) :
    h.directory purpose ≠ .error (.failure f) := by
  have home (g : Path → Path) : (Path.home h.homes).map g ≠ .error (.failure f) := by
    intro failed
    have unexpanded := Path.expandHome_ne h.homes ⟨.here, ["~"]⟩ f
    unfold Path.home at failed
    cases expanded : Path.expandHome h.homes ⟨.here, ["~"]⟩ with
    | error fault =>
      rw [expanded] at failed unexpanded
      cases failed
      exact unexpanded rfl
    | ok p =>
      rw [expanded] at failed
      cases failed
  unfold directory
  simp only []
  split
  · split
    · intro same
      cases same
    · exact home _
  · exact home _

/-- A list of registrations fails to be a catalog by a failure of starting. -/
theorem Catalog.ofStarting_of_ofList {rs : List ClientRegistration} {f : Failure}
    (h : ofList rs = .error f) : f.OfStarting := by
  unfold ofList at h
  split at h
  · split at h <;> cases h
    exact .config _ []
  · cases h
    exact .config _ []

theorem Registry.ofStarting_of_register {r : Registry} {c : ExchangeClient} {f : Failure}
    (h : r.register c = .error f) : f.OfStarting := by
  unfold register at h
  split at h <;> cases h
  exact .wiring _

theorem Registry.ofStarting_of_foldlM {cs : List ExchangeClient} {r : Registry} {f : Failure}
    (h : cs.foldlM register r = .error f) : f.OfStarting := by
  induction cs generalizing r with
  | nil => cases h
  | cons c cs ih =>
    rw [List.foldlM_cons] at h
    cases registered : r.register c with
    | error f' =>
      rw [registered] at h
      cases h
      exact ofStarting_of_register registered
    | ok next =>
      rw [registered] at h
      exact ih h

namespace Assembly

variable {a a' : Assembly} {name : String} {c : Component} {f : Failure}

theorem ofStarting_of_register (h : a.register name c = .error f) : f.OfStarting := by
  unfold register at h
  split at h <;> cases h
  exact .wiring _

theorem ofStarting_of_discover {xs : List Extension} (h : (a.discover xs).names = .error f) :
    f.OfStarting := by
  induction xs generalizing a with
  | nil => cases h
  | cons x xs ih =>
    unfold discover at h
    split at h
    · exact ih h
    · exact ih h
    · split at h
      · next refused =>
        cases h
        exact ofStarting_of_register refused
      · next a' added =>
        rcases rest : (a'.discover xs).names with f' | names
        · have failed : (a'.discover xs).names.map (x.name :: ·) = .error f := h
          rw [rest] at failed
          cases failed
          exact ih rest
        · have failed : (a'.discover xs).names.map (x.name :: ·) = .error f := h
          rw [rest] at failed
          cases failed

theorem ofStarting_of_single {α : Type} {role : String} {candidates : List (String × α)}
    (h : single role candidates = .error f) : f.OfStarting := by
  unfold single at h
  split at h <;> cases h <;> exact .wiring _

theorem ofStarting_of_registryOf {clients : List (String × ExchangeClient)}
    (h : registryOf clients = .error f) : f.OfStarting := by
  unfold registryOf at h
  split at h
  · cases h
    exact .wiring _
  · exact Registry.ofStarting_of_foldlM h

theorem ofStarting_of_checkRegistrations {roles : Roles} {registry : Registry}
    {source : RegistrationSource} (h : checkRegistrations roles registry source = .error f) :
    f.OfStarting := by
  unfold checkRegistrations at h
  simp only [] at h
  split at h <;> cases h
  exact .wiring _

/-- The parts of an assembly are missing by a failure of starting. -/
theorem ofStarting_of_parts {roles : Roles} (h : a.parts roles = .error f) : f.OfStarting := by
  unfold parts at h
  rcases Except.cases_of_bind_error h with h | ⟨⟨_, source⟩, -, h⟩
  · exact ofStarting_of_single h
  rcases Except.cases_of_bind_error h with h | ⟨store, -, h⟩
  · exact ofStarting_of_single h
  rcases Except.cases_of_bind_error h with h | ⟨registry, -, h⟩
  · exact ofStarting_of_registryOf h
  rcases Except.cases_of_bind_error h with h | ⟨_, -, h⟩
  · exact ofStarting_of_checkRegistrations h
  · cases h

/-- An assembly fails to be built by a failure of starting. -/
theorem ofStarting_of_build (h : a.build.2 = .error (.failure f)) : f.OfStarting := by
  unfold build buildBy at h
  cases parts : a.parts .usual with
  | error f' =>
    rw [parts] at h
    cases h
    exact ofStarting_of_parts parts
  | ok found =>
    obtain ⟨source, ⟨name, store⟩, registry⟩ := found
    rw [parts] at h
    unfold Engine.create checkDuration at h
    simp only [] at h
    split at h <;> cases h

end Assembly

/-! ## Failures of the steps -/

namespace Action

/-- The engine of the settings in force, with the extensions that are found. -/
def prepare (given : Option String) : Action Started := do
  start (← loadSettings (← settingsFile given)) true

variable {P : Failure → Prop}

theorem failsOnly_expand (s : String) (h : Host) : FailsOnly P h (expand s) :=
  .get_bind (.ofExcept fun f failed => absurd failed (Path.expandHome_ne h.homes _ f))

theorem failsOnly_isFile (p : Path) (h : Host) : FailsOnly P h (isFile p) :=
  .get_bind (.ofFile _)

theorem failsOnly_makeDirectories (p : Path) (h : Host) : FailsOnly P h (makeDirectories p) :=
  .get_bind (.bind (.setHost rfl) fun _ _ _ => .ofFile _)

theorem failsOnly_readText (p : Path) (h : Host) : FailsOnly P h (readText p) := by
  refine .get_bind (.bind (.ofFile _) fun content h' _ => ?_)
  split
  · exact .pure _
  · exact .throw nofun

theorem failsOnly_directory (purpose : Purpose) (h : Host) : FailsOnly P h (directory purpose) := by
  refine .get_bind (.bind (.ofExcept fun f failed => absurd failed (h.directory_ne purpose f)) ?_)
  exact fun p h' _ => .bind (failsOnly_makeDirectories p h') fun _ _ _ => .pure p

/-- Looking for the settings file ends in no failure of the program's own. -/
theorem failsOnly_settingsFile (given : Option String) (h : Host) :
    FailsOnly P h (settingsFile given) := by
  refine .get_bind ?_
  split
  · exact .map some (failsOnly_expand _ h)
  · split
    · exact .map some (failsOnly_expand _ h)
    · refine .bind (failsOnly_isFile _ h) fun found h' _ => .ite (.pure _) ?_
      refine .bind (.bind (failsOnly_directory .config h') fun _ _ _ => .pure _) fun user h' _ => ?_
      exact .bind (failsOnly_isFile user h') fun found _ _ => .ite (.pure _) (.pure _)

/-- The settings fail to be loaded by a failure of starting. -/
theorem failsOnly_loadSettings (path : Option Path) (h : Host) :
    FailsOnly OfStarting h (loadSettings path) := by
  cases path with
  | none => exact .pure _
  | some p =>
    refine .bind (failsOnly_isFile p h) fun found h' _ => .ite ?_ (.fail (.config _ []))
    refine .adapt (.bind (failsOnly_readText p h') fun text between _ =>
      .get_bind (.ofExcept fun f failed => ?_)) ?_
    · unfold Settings.ofText at failed
      split at failed
      · next e stopped =>
        unfold Fault.ofSyntax at failed
        split at failed <;> cases failed
      · next j read => cases parsed : Settings.parse j <;> rw [parsed] at failed <;> cases failed
    · intro fault f same
      cases fault with
      | invalid | syntaxError | undecodable =>
        cases same
        exact .inr (.config _ _)
      | _ => exact .inl same

/-- A secret fails to be found by a failure of starting. -/
theorem failsOnly_credential (source : String) (h : Host) :
    FailsOnly OfStarting h (credential source) := by
  unfold credential
  split
  · refine .get_bind ?_
    split
    · exact .pure _
    · exact .fail (.config _ [])
  · refine .bind (failsOnly_expand _ h) fun p h' _ =>
      .bind (failsOnly_isFile p h') fun found h' _ => ?_
    refine .ite (.bind (.adapt (failsOnly_readText p h') fun fault f same => ?_) fun _ _ _ =>
      .pure _) (.fail (.config _ []))
    cases fault with
    | file =>
      cases same
      exact .inr (.config _ _)
    | _ => exact .inl same
  · exact .fail (.config _ [])

/-- A registration fails to be read by a failure of starting. -/
theorem failsOnly_registration (id : String) (entry : RegistrationEntry) (h : Host) :
    FailsOnly OfStarting h (registration id entry) := by
  unfold registration
  split
  · exact .bind (.pure _) fun _ _ _ => .pure _
  · exact .bind (.pure _) fun _ _ _ => .pure _
  · refine .bind (.map some (.adapt (failsOnly_credential _ h) fun fault f same => ?_)) fun _ _ _ =>
      .pure _
    cases fault with
    | failure =>
      cases same
      exact .inr (.config _ _)
    | _ => exact .inl same

theorem failsOnly_openDisk (p : Path) (h : Host) : FailsOnly P h (openDisk p) := by
  refine .get_bind (.bind (.ofExcept fun f failed => ?_) fun p h' ended => ?_)
  · unfold entriesPath at failed
    cases expanded : h.homes.expand (p.child entriesName).text with
    | error fault =>
      rw [expanded] at failed
      cases failed
      exact absurd expanded (Homes.expand_ne _ _ _)
    | ok s =>
      rw [expanded] at failed
      cases failed
  · obtain rfl : h = h' := congrArg Prod.snd ended
    refine .bind (.setHost rfl) fun _ h' _ => .bind (.ofFile _) fun _ h' _ => ?_
    refine .bind (.ofFile _) fun place h' _ => ?_
    exact .ite (.bind (.throw fun _ => nofun) fun _ _ _ => .pure _) (.pure _)

/-- A store fails to be opened by a failure of starting. -/
theorem failsOnly_openStore (s : StoreSettings) (h : Host) :
    FailsOnly OfStarting h (openStore s) := by
  unfold openStore
  split
  · exact .pure _
  · split
    · exact .bind (failsOnly_expand _ h) fun p h' _ => failsOnly_openDisk p h'
    · exact .bind (failsOnly_directory _ h) fun p h' _ => failsOnly_openDisk p h'
  · exact .fail (.config _ [])

theorem failsOnly_register (a : Assembly) (name : String) (c : Component) (h : Host) :
    FailsOnly OfStarting h (register a name c) :=
  .ofExcept_mapError fun _ => Assembly.ofStarting_of_register

/-- The engine fails to be started by a failure of starting. -/
theorem failsOnly_start (s : Settings) (discover : Bool) (h : Host) :
    FailsOnly OfStarting h (start s discover) := by
  refine .bind (.mapM (fun entry h => failsOnly_registration _ _ h) _) fun rs h' _ => ?_
  refine .bind (.ofExcept_mapError fun _ => Catalog.ofStarting_of_ofList) fun catalog h' _ => ?_
  refine .bind (failsOnly_register _ _ _ h') fun a h' _ =>
    .bind (failsOnly_openStore _ h') fun opened h' _ => ?_
  refine .bind (failsOnly_register _ _ _ h') fun a h' _ =>
    .bind (failsOnly_register _ _ _ h') fun a h' _ => ?_
  refine .bind (failsOnly_register _ _ _ h') fun a h' _ => ?_
  -- with extensions or without, an assembly is built last
  have last (a : Assembly) (h : Host) : FailsOnly OfStarting h (do
      log a.build.1
      let built ← ofExcept a.build.2
      modify fun h => { h with world := { h.world with shared := { store := built.store } } }
      return Started.mk built.engine opened.place) :=
    .bind (.modifyHost rfl) fun _ _ _ => .bind (.ofExcept fun _ => Assembly.ofStarting_of_build)
      fun _ _ _ =>
      .bind (.modifyHost rfl) fun _ _ _ => .pure _
  refine .ite (.get_bind (.bind (.modifyHost rfl) fun _ h' _ => ?_))
    (.bind (.pure _) fun a h' _ => last a h')
  refine .bind (.ofExcept_mapError fun _ => Assembly.ofStarting_of_discover) fun _ h' _ => ?_
  exact .bind (.pure _) fun a h' _ => last a h'

/-- The engine fails to be made ready by a failure of starting. -/
theorem failsOnly_prepare (given : Option String) (h : Host) :
    FailsOnly OfStarting h (prepare given) :=
  .bind (failsOnly_settingsFile given h) fun path h' _ =>
    .bind (failsOnly_loadSettings path h') fun s h' _ =>
    failsOnly_start s true h'

end Action

/-! ## The engine that is started -/

namespace Assembly

variable {a a' : Assembly} {name : String} {c : Component} {made : Assembled}

/-- Extensions add nothing but exchange clients, behind what there is. -/
theorem components_discover (a : Assembly) (xs : List Extension) :
    ∃ cs : List (String × ExchangeClient), (a.discover xs).assembly.components =
      a.components ++ cs.map fun client => (client.1, .client client.2) := by
  induction xs generalizing a with
  | nil => exact ⟨[], by simp [discover]⟩
  | cons x xs ih =>
    unfold discover
    split
    · exact ih a
    · exact ih a
    · next client offered =>
      split
      · exact ⟨[], by simp⟩
      · next a' added =>
        obtain ⟨cs, same⟩ := ih a'
        refine ⟨(x.name, client) :: cs, ?_⟩
        simp only [same, components_of_register added, List.map_cons, List.append_assoc,
          List.singleton_append]

/-- The source of what was built is one of the assembly. -/
theorem mem_sources_of_build (h : a.build.2 = .ok made) :
    ∃ name, (name, made.engine.source) ∈ a.sources := by
  obtain ⟨⟨name, found⟩, -⟩ := parts_eq_ok (parts_of_build h)
  unfold single at found
  split at found
  · next listed =>
    cases found
    have alone : a.sources = [(name, made.engine.source)] := listed
    exact ⟨name, by rw [alone]; exact List.mem_singleton_self _⟩
  · cases found
  · cases found

/-- The components of a program: a catalog, a store, the built-in clients, and clients from
extensions. -/
def Standard (a : Assembly) (catalog : Catalog) (store : Store) (settings : RequestSettings) :
    Prop :=
  ∃ cs : List (String × ExchangeClient), a.components =
    [("client_registration_store", .registrations (.catalog catalog)),
      ("authorized_client_store", .store store),
      ("client_credentials_token_client", .client (.clientCredentials settings)),
      ("refresh_token_client", .client (.refreshToken settings))] ++
      cs.map fun client => (client.1, .client client.2)

variable {catalog : Catalog} {store : Store} {settings : RequestSettings}

theorem mem_components_of_sources {source : RegistrationSource} (h : (name, source) ∈ a.sources) :
    (name, Component.registrations source) ∈ a.components := by
  obtain ⟨⟨name', c⟩, member, same⟩ := List.mem_filterMap.1 h
  cases c with
  | registrations =>
    cases same
    exact member
  | _ => cases same

/-- What is built of a standard assembly reads the registrations of its catalog. -/
theorem Standard.source_eq (standard : a.Standard catalog store settings)
    (h : a.build.2 = .ok made) :
    made.engine.source = .catalog catalog := by
  obtain ⟨cs, same⟩ := standard
  obtain ⟨name, listed⟩ := mem_sources_of_build h
  have member := mem_components_of_sources listed
  simp only [same, List.cons_append, List.nil_append, List.mem_cons, List.mem_map, Prod.mk.injEq,
    Component.registrations.injEq, reduceCtorEq, and_false, exists_false, or_false] at member
  exact member.2

/-- What is built of a standard assembly has the two built-in clients first. -/
theorem Standard.clients_eq (standard : a.Standard catalog store settings)
    (h : a.build.2 = .ok made) :
    ∃ cs, made.engine.clients.clients = .clientCredentials settings :: .refreshToken settings ::
      cs := by
  obtain ⟨cs, same⟩ := standard
  rw [clients_of_build h]
  unfold clients candidates
  rw [same]
  exact ⟨_, rfl⟩

/-- The engine of a program serves the unattended registrations. -/
theorem Standard.servesUnattended (standard : a.Standard catalog store settings)
    (h : a.build.2 = .ok made) : made.engine.ServesUnattended :=
  servesUnattended_of_build h (by rw [standard.source_eq h]; rfl)

/-- The engine of a program asks no extension for a token: the built-in clients stand first. -/
theorem Standard.asksBuiltIn (standard : a.Standard catalog store settings)
    (h : a.build.2 = .ok made) : made.engine.AsksBuiltIn := by
  obtain ⟨cs, listed⟩ := standard.clients_eq h
  intro request c found
  unfold Registry.find? at found
  rw [listed] at found
  cases request with
  | clientCredentials =>
    cases found
    rfl
  | refreshToken =>
    cases found
    rfl

end Assembly

namespace Action

variable {given : Option String} {host host' : Host} {s : Settings} {x : Started}

theorem eq_of_ofExcept {α : Type} {r : Except Fault α} {y : α}
    (ran : ofExcept r host = (.ok y, host')) :
    r = .ok y ∧ host' = host := by
  obtain ⟨result, same⟩ := Prod.mk.inj ran
  exact ⟨result, same.symm⟩

/-- A component that is registered comes after all the others. -/
theorem components_of_register {a a' : Assembly} {name : String} {c : Component}
    (ran : register a name c host = (.ok a', host')) :
    a'.components = a.components ++ [(name, c)] := by
  obtain ⟨registered, -⟩ := eq_of_ofExcept ran
  cases taken : a.register name c with
  | error f =>
    rw [taken] at registered
    cases registered
  | ok made =>
    rw [taken] at registered
    cases registered
    exact Assembly.components_of_register taken

/-- The last part of a start: an assembly is built. -/
def startBuilt (a : Assembly) (place : Option Location) : Action Started := do
  let (entries, result) := a.build
  log entries
  let built ← ofExcept result
  modify fun h => { h with world := { h.world with shared := { store := built.store } } }
  return ⟨built.engine, place⟩

/-- An engine that was started was built, and its store is the one that is shared. -/
theorem built_of_startBuilt {a : Assembly} {place : Option Location}
    (ran : startBuilt a place host = (.ok x, host')) :
    ∃ made, a.build.2 = .ok made ∧ x.engine = made.engine ∧
    host'.world.shared = { store := made.store } := by
  obtain ⟨_, h₁, -, ran⟩ := exists_of_bind ran
  obtain ⟨made, h₂, built, ran⟩ := exists_of_bind ran
  obtain ⟨_, h₃, begun, ran⟩ := exists_of_bind ran
  obtain ⟨built, -⟩ := eq_of_ofExcept built
  cases begun
  cases ran
  exact ⟨made, built, rfl, rfl⟩

/-- A start builds an assembly of the program: its own components, and those of extensions if
asked. -/
theorem standard_of_start {discover : Bool} (ran : start s discover host = (.ok x, host')) :
    ∃ (a : Assembly) (catalog : Catalog) (store : Store) (place : Option Location) (between : Host),
      a.Standard catalog store s.requests ∧ startBuilt a place between = (.ok x, host') := by
  obtain ⟨rs, h₁, -, ran⟩ := exists_of_bind ran
  obtain ⟨catalog, h₂, -, ran⟩ := exists_of_bind ran
  obtain ⟨a₁, h₃, first, ran⟩ := exists_of_bind ran
  obtain ⟨opened, h₄, -, ran⟩ := exists_of_bind ran
  obtain ⟨a₂, h₅, second, ran⟩ := exists_of_bind ran
  obtain ⟨a₃, h₆, third, ran⟩ := exists_of_bind ran
  obtain ⟨a₄, h₇, fourth, ran⟩ := exists_of_bind ran
  have own : a₄.Standard catalog opened.store s.requests := by
    refine ⟨[], ?_⟩
    rw [components_of_register fourth, components_of_register third, components_of_register second,
      components_of_register first]
    rfl
  cases discover with
  | false => exact ⟨a₄, catalog, opened.store, opened.place, h₇, own, ran⟩
  | true =>
    simp only [if_true] at ran
    obtain ⟨h, h₈, -, ran⟩ := exists_of_bind ran
    obtain ⟨_, h₉, -, ran⟩ := exists_of_bind ran
    obtain ⟨_, h₁₀, -, ran⟩ := exists_of_bind ran
    obtain ⟨cs, discovered⟩ := a₄.components_discover h.extensions
    obtain ⟨own, same⟩ := own
    refine ⟨_, catalog, opened.store, opened.place, h₁₀, ⟨own ++ cs, ?_⟩, ran⟩
    rw [discovered, same, List.map_append, List.append_assoc]

/-- What is started is the engine of an assembly of the program, on which nothing is in flight. -/
theorem built_of_start {discover : Bool} (ran : start s discover host = (.ok x, host')) :
    ∃ (a : Assembly) (catalog : Catalog) (store : Store) (made : Assembled),
      a.Standard catalog store s.requests ∧ a.build.2 = .ok made ∧ x.engine = made.engine ∧
        host'.world.shared = { store := made.store } := by
  obtain ⟨a, catalog, store, place, between, standard, ran⟩ := standard_of_start ran
  obtain ⟨made, built⟩ := built_of_startBuilt ran
  exact ⟨a, catalog, store, made, standard, built⟩

/-- What holds of an engine that has been started, and of the host that it has been started on. -/
structure Ready (x : Started) (h : Host) : Prop where
  served : x.engine.ServesUnattended
  builtIn : x.engine.AsksBuiltIn
  idle : h.world.shared.inFlight = []

/-- An engine that was prepared is ready. -/
theorem ready_of_prepare (ran : prepare given host = (.ok x, host')) : Ready x host' := by
  obtain ⟨path, h₁, -, ran⟩ := exists_of_bind ran
  obtain ⟨s, h₂, -, ran⟩ := exists_of_bind ran
  obtain ⟨a, catalog, store, made, standard, built, engine, shared⟩ := built_of_start ran
  refine ⟨?_, ?_, ?_⟩
  · rw [engine]
    exact standard.servesUnattended built
  · rw [engine]
    exact standard.asksBuiltIn built
  · rw [shared]

end Action

end TokenBroker
