import TokenBroker.Proofs.Assembly.Building
import TokenBroker.Proofs.Host
import TokenBroker.Proofs.Startup

/-!
# Which settings an engine can be started from

A start comes to what its parts come to, one after the other (`Action.start_eq`): the registrations
with their secrets, the store, the built-in components together with the clients that extensions
offer, and the assembly that is built of them. An engine is started just if all of them fit together
and the margin is a duration (`Settings.Startable`, `Action.started_iff_startable_within_margin`);
or else the first thing that is wrong ends it (`Settings.Unstartable`). An extension that cannot be
loaded, or that offers something else than an exchange client, makes no difference.
-/

namespace TokenBroker

/-- The exchange clients that extensions offer, by name. -/
def Extension.offered (xs : List Extension) : List (String × ExchangeClient) :=
  xs.filterMap fun x => match x.offer with
    | .client c => some (x.name, c)
    | _ => none

open Extension (offered)

namespace Assembly

/-! ## Clients from outside -/

/-- Registers exchange clients in turn. -/
def enlist (a : Assembly) (clients : List (String × ExchangeClient)) : Except Failure Assembly :=
  clients.foldlM (fun a client => a.register client.1 (.client client.2)) a

/-- Extensions count by what they offer: one that fails or offers something else is as good as
none. -/
theorem discover_eq (a : Assembly) (xs : List Extension) :
    ((a.discover xs).names.map fun _ => (a.discover xs).assembly) = a.enlist (offered xs) := by
  induction xs generalizing a with
  | nil => rfl
  | cons x xs ih =>
    unfold discover offered
    rw [List.filterMap_cons]
    cases offer : x.offer with
    | failed => exact ih a
    | other => exact ih a
    | client c =>
      simp only [enlist, List.foldlM_cons]
      cases a.register x.name (.client c) with
      | error f => rfl
      | ok a' =>
        refine Eq.trans ?_ (ih a')
        simp only
        cases (a'.discover xs).names <;> rfl

/-- Clients are registered as long as their names are free. -/
theorem enlist_cases {a : Assembly} (distinct : (a.components.map (·.1)).Nodup)
    (clients : List (String × ExchangeClient)) :
    ((a.components.map (·.1) ++ clients.map (·.1)).Nodup ∧
        a.enlist clients =
          .ok { a with
            components :=
              a.components ++ clients.map fun client => (client.1, .client client.2) }) ∨
      ∃ front name c rest, clients = front ++ (name, c) :: rest ∧
        (a.components.map (·.1) ++ front.map (·.1)).Nodup ∧
        name ∈ a.components.map (·.1) ++ front.map (·.1) ∧
        a.enlist clients = .error (.wiring s!"Component '{name}' is already registered") := by
  induction clients generalizing a with
  | nil => exact .inl ⟨by simpa using distinct, by simp [enlist, pure, Except.pure]⟩
  | cons client clients ih =>
    obtain ⟨name, c⟩ := client
    by_cases taken : name ∈ a.components.map (·.1)
    · refine .inr ⟨[], name, c, clients, rfl, by simpa using distinct, by simpa using taken, ?_⟩
      simp only [enlist, List.foldlM_cons, register_of_mem taken]
      rfl
    · have next : a.enlist ((name, c) :: clients) =
          enlist { a with components := a.components ++ [(name, .client c)] } clients := by
        simp only [enlist, List.foldlM_cons, register_of_not_mem taken]
        rfl
      have distinct' : ((a.components ++ [(name, Component.client c)]).map (·.1)).Nodup := by
        rw [List.map_append]
        exact List.concat_eq_append ▸ List.Nodup.concat taken distinct
      rcases ih (a := { a with components := a.components ++ [(name, .client c)] }) distinct' with
        ⟨free, enlisted⟩ | ⟨front, name', c', rest, rfl, earlier, taken', refused⟩
      · exact .inl ⟨by simpa using free, next.trans (by simpa using enlisted)⟩
      · exact .inr ⟨(name, c) :: front, name', c', rest, rfl,
          by simpa using earlier, by simpa using taken', next.trans refused⟩

end Assembly

/-! ## A start, part by part -/

namespace Settings

/-- The built-in exchange clients, by name. -/
def builtInClients (s : Settings) : List (String × ExchangeClient) :=
  [("client_credentials_token_client", .clientCredentials s.requests),
    ("refresh_token_client", .refreshToken s.requests)]

/-- The built-in components. -/
def assembly (s : Settings) (catalog : Catalog) (store : Store) : Assembly where
  policy := s.lifetimes
  components :=
    [("client_registration_store", .registrations (.catalog catalog)),
      ("authorized_client_store", .store store)] ++
      s.builtInClients.map fun client => (client.1, .client client.2)

/-- What a start gives, from the registrations, the store and the clients from outside. -/
def startedFrom (s : Settings) (rs : Except Fault (List ClientRegistration))
    (opened : Except Fault OpenStore) (clients : List (String × ExchangeClient)) :
    Except Fault Started :=
  rs.bind fun rs => ((Catalog.ofList rs).mapError .failure).bind fun catalog =>
    opened.bind fun opened =>
    (((s.assembly catalog opened.store).enlist clients).mapError .failure).bind fun a =>
      a.build.2.map fun built => ⟨built.engine, opened.place⟩

end Settings

/-- The host with other extensions. -/
def Host.withExtensions (h : Host) (xs : List Extension) : Host := { h with extensions := xs }

namespace Action

variable {xs : List Extension}

/-! ### Extensions are looked at last -/

/-- A source yields its secret whatever extensions are installed. -/
theorem yields_withExtensions {h : Host} {source : String} {r : Except Fault String}
    (yields : h.Yields source r) :
    (h.withExtensions xs).Yields source r := by
  cases yields with
  | «variable» names set => exact .variable names set
  | unset names unset => exact .unset names unset
  | homeless names lost => exact .homeless names lost
  | unseen names leads unseen => exact .unseen names leads unseen
  | missing names leads absent => exact .missing names leads absent
  | unreadable names leads stands refused => exact .unreadable names leads stands refused
  | undecodable names leads stands read garbled =>
    exact .undecodable names leads stands read garbled
  | text names leads stands read decoded => exact .text names leads stands read decoded
  | unknown names => exact .unknown names

/-- An entry becomes its registration whatever extensions are installed. -/
theorem registers_withExtensions {h : Host} {x : String × RegistrationEntry}
    {r : Except Fault ClientRegistration} (registers : h.Registers x r) :
    (h.withExtensions xs).Registers x r := by
  cases registers with
  | «public» bare => exact .public bare
  | secret given yields => exact .secret given (yields_withExtensions yields)
  | failed given yields => exact .failed given (yields_withExtensions yields)

/-- The registrations do not depend on the extensions installed. -/
theorem registrations_withExtensions (s : Settings) (h : Host) :
    (registrations s (h.withExtensions xs)).1 = (registrations s h).1 := by
  rw [registrations_run, registrations_run]
  refine congrArg s.registrations.mapM (funext fun x => ?_)
  exact registers_iff.1 (registers_withExtensions (registers_iff.2 rfl))

theorem passes_ofFile {α : Type} (r : Except FileError α) :
    Passes (Host.withExtensions · xs) (ofFile r) :=
  fun _ => rfl

theorem passes_openDisk (p : Path) : Passes (Host.withExtensions · xs) (openDisk p) := by
  intro h
  have same : entriesPath (h.withExtensions xs).homes p = entriesPath h.homes p := rfl
  unfold openDisk
  rw [get_bind_run, get_bind_run, bind_run, bind_run, ofExcept_run, ofExcept_run, same]
  cases entriesPath h.homes p with
  | error fault => rfl
  | ok p =>
    refine Passes.bind (passes_ofFile _) (fun _ => .bind (passes_ofFile _) fun place => ?_)
      (h.withTree (h.tree.makeMissing h.here p).1)
    exact .ite (.bind (.throw _) fun _ => .pure _) (.pure _)

theorem passes_openStore (s : StoreSettings) : Passes (Host.withExtensions · xs) (openStore s) := by
  have passes_expand (s : String) : Passes (Host.withExtensions · xs) (expand s) := fun _ => rfl
  have passes_ofExcept (r : Except Fault Path) : Passes (Host.withExtensions · xs) (ofExcept r) :=
    fun _ => rfl
  have passes_makeDirectories (p : Path) : Passes (Host.withExtensions · xs) (makeDirectories p) :=
    fun _ => rfl
  have passes_directory (purpose : Purpose) :
      Passes (Host.withExtensions · xs) (directory purpose) := by
    intro h
    have same : (h.withExtensions xs).directory purpose = h.directory purpose := rfl
    unfold directory
    rw [get_bind_run, get_bind_run, same]
    exact (passes_ofExcept _).bind (fun p => (passes_makeDirectories p).bind fun _ => .pure p) h
  unfold openStore
  split
  · exact .pure _
  · split
    · exact .bind (passes_expand _) passes_openDisk
    · exact .bind (passes_directory _) passes_openDisk
  · exact .throw _

/-- Opening the store leaves the extensions as they are. -/
theorem extensions_of_openStore (s : StoreSettings) (h : Host) :
    (openStore s h).2.extensions = h.extensions :=
  have same : openStore s (h.withExtensions h.extensions) =
      ((openStore s h).1, (openStore s h).2.withExtensions h.extensions) := passes_openStore s h
  congrArg (fun ended => ended.2.extensions) same

/-- A component with a free name is registered. -/
theorem register_run {a : Assembly} {name : String} (names : List String)
    (listed : a.components.map (·.1) = names) (free : name ∉ names) (c : Component) (h : Host) :
    register a name c h = (.ok { a with components := a.components ++ [(name, c)] }, h) := by
  unfold register
  rw [Assembly.register_of_not_mem (listed ▸ free)]
  rfl

/-- With the built-in components in place, the extensions are registered and the engine is built. -/
theorem assembled_run (a : Assembly) (place : Option Location) (h : Host) :
    ((do
      let found := a.discover (← get).extensions
      log found.log
      let _ ← ofExcept (found.names.mapError .failure)
      let a ← pure found.assembly
      log a.build.1
      let built ← ofExcept a.build.2
      modify fun h => { h with world := { h.world with shared := { store := built.store } } }
      return Started.mk built.engine place : Action Started) h).1 =
      ((a.enlist (offered h.extensions)).mapError .failure).bind fun a =>
        a.build.2.map fun built => ⟨built.engine, place⟩ := by
  rw [get_bind_run, ← Assembly.discover_eq]
  cases (a.discover h.extensions).names with
  | error f => rfl
  | ok names =>
    simp only [Except.map, Except.mapError, Except.bind, pure_bind]
    cases (a.discover h.extensions).assembly.build.2 with
    | error fault => rfl
    | ok built => rfl

/-- A start comes to what its parts come to: the registrations, the store that is opened and the
clients that extensions offer. -/
theorem start_eq (s : Settings) (h : Host) :
    (start s true h).1 =
      s.startedFrom (registrations s h).1 (openStore s.store h).1 (offered h.extensions) := by
  have unchanged := registrations_run s h
  generalize (s.registrations.mapM fun x => (registration x.1 x.2 h).1) = r at unchanged
  unfold start Settings.startedFrom
  cases r with
  | error fault =>
    rw [bind_of_error unchanged, unchanged]
    rfl
  | ok rs =>
    rw [bind_of_ok unchanged, unchanged]
    simp only [Except.bind]
    cases Catalog.ofList rs with
    | error f => exact congrArg Prod.fst (bind_of_error rfl)
    | ok catalog =>
      simp only [Except.mapError]
      rw [bind_of_ok (ofExcept_run _ h), bind_of_ok (register_run [] rfl (by decide) _ h)]
      rcases opens : openStore s.store h with ⟨_ | opened, h'⟩
      · exact congrArg Prod.fst (bind_of_error opens)
      · have extensions : h'.extensions = h.extensions :=
          (congrArg (·.2.extensions) opens).symm.trans (extensions_of_openStore s.store h)
        -- each of the four components comes under a name that is still free
        rw [bind_of_ok opens,
          bind_of_ok (register_run ["client_registration_store"] rfl (by decide) _ h'),
          bind_of_ok (register_run ["client_registration_store", "authorized_client_store"]
            rfl (by decide) _ h'),
          bind_of_ok (register_run
            ["client_registration_store", "authorized_client_store",
              "client_credentials_token_client"] rfl (by decide) _ h'),
          if_pos trivial]
        refine (assembled_run (s.assembly catalog opened.store) opened.place h').trans ?_
        rw [extensions]
        rfl

end Action

/-! ## What can be started -/

/-- A client has nothing against a registration of its grant: there is an endpoint, and a secret if
the method needs one. Any registration with an endpoint can be refreshed by the built-in client. -/
def ExchangeClient.Accepts (c : ExchangeClient) (r : ClientRegistration) : Prop :=
  r.tokenUri ≠ "" ∧ ((∃ settings, c = .refreshToken settings) ∨ r.authentication = .none ∨
    ∃ secret, r.clientSecret = some secret ∧ secret ≠ "")

namespace Settings

/-- The names of the built-in components. -/
def builtInNames : List String :=
  ["client_registration_store", "authorized_client_store", "client_credentials_token_client",
    "refresh_token_client"]

/-- The exchange clients of a program on a host, by name: the built-in ones, and those that
extensions offer. -/
def clients (s : Settings) (h : Host) : List (String × ExchangeClient) :=
  s.builtInClients ++ offered h.extensions

/-- What is wrong with the registrations on a host, one after another. -/
def issues (s : Settings) (h : Host) (rs : List ClientRegistration) : List String :=
  rs.flatMap (Assembly.registrationIssues ExchangeClient.validate ⟨(s.clients h).map (·.2)⟩)

/-- An engine for registrations can be started from settings on a host, as far as its parts go. -/
structure Startable (s : Settings) (h : Host) (rs : List ClientRegistration) : Prop where
  resolved : h.RegistersAll s.registrations rs
  declared : s.registrations ≠ []
  backend : s.store.backend = "memory" ∨ s.store.backend = "disk"
  names : (builtInNames ++ (offered h.extensions).map (·.1)).Nodup
  grants : ((s.clients h).map (·.2.grantType)).Nodup
  accepted : ∀ r ∈ rs, ∀ client ∈ s.clients h, client.2.grantType = r.grantType → client.2.Accepts r

/-- The first thing that keeps an engine from being started, and the fault that tells of it. -/
inductive Unstartable (s : Settings) (h : Host) : Fault → Prop
  /-- The secret of an entry is not found, or ends the start in another way. -/
  | secret {front rest : List (String × RegistrationEntry)} {id source : String}
      {entry : RegistrationEntry}
      {fault : Fault} (order : s.registrations = front ++ (id, entry) :: rest)
      (earlier : ∀ x ∈ front, ∃ r, h.Registers x (.ok r)) (given : entry.source? = some source)
      (yields : h.Yields source (.error fault)) : Unstartable s h (Action.ofRegistration id fault)
  | undeclared (none : s.registrations = []) :
      Unstartable s h (.failure (.config "At least one client registration is required"))
  | backend {rs : List ClientRegistration} (resolved : h.RegistersAll s.registrations rs)
      (declared : s.registrations ≠ []) (unknown : s.store.backend ≠ "memory" ∧
        s.store.backend ≠ "disk") :
      Unstartable s h (.failure
        (.config s!"Unknown store backend '{s.store.backend}' (expected: memory, disk)"))
  /-- An extension offers a client under a name that is taken. -/
  | name {rs : List ClientRegistration} {front rest : List (String × ExchangeClient)}
      {name : String}
      {c : ExchangeClient} (resolved : h.RegistersAll s.registrations rs)
        (declared : s.registrations ≠ [])
      (backend : s.store.backend = "memory" ∨ s.store.backend = "disk")
      (order : offered h.extensions = front ++ (name, c) :: rest)
      (earlier : (builtInNames ++ front.map (·.1)).Nodup)
        (taken : name ∈ builtInNames ++ front.map (·.1)) :
      Unstartable s h (.failure (.wiring s!"Component '{name}' is already registered"))
  /-- Several clients serve one grant type. -/
  | grant {rs : List ClientRegistration} {message : String}
      (resolved : h.RegistersAll s.registrations rs)
      (declared : s.registrations ≠ []) (backend : s.store.backend = "memory" ∨
        s.store.backend = "disk")
      (names : (builtInNames ++ (offered h.extensions).map (·.1)).Nodup)
      (contested : Assembly.Contested (s.clients h) message) :
        Unstartable s h (.failure (.wiring message))
  /-- Clients have something against registrations. -/
  | registrations {rs : List ClientRegistration} (resolved : h.RegistersAll s.registrations rs)
      (declared : s.registrations ≠ []) (backend : s.store.backend = "memory" ∨
        s.store.backend = "disk")
      (names : (builtInNames ++ (offered h.extensions).map (·.1)).Nodup)
      (grants : ((s.clients h).map (·.2.grantType)).Nodup) (unaccepted : s.issues h rs ≠ []) :
      Unstartable s h
        (.failure (.wiring ("Invalid client registrations:\n  " ++ "\n  ".intercalate
          (s.issues h rs))))
  /-- All parts fit together, but the margin is no duration. -/
  | margin {rs : List ClientRegistration} (startable : s.Startable h rs)
      (endless : endlessMargin ≤ s.lifetimes.clockSkew) :
      Unstartable s h (.durationTooLong (s.lifetimes.clockSkew / 86400))

end Settings

/-! ### Registrations -/

/-- Registrations with different identifiers make a catalog unless there are none. -/
theorem Catalog.ofList_eq {rs : List ClientRegistration}
    (distinct : (rs.map (·.registrationId)).Nodup) :
    ofList rs = if rs = [] then .error (.config "At least one client registration is required")
      else .ok ⟨rs, distinct⟩ := by
  unfold ofList
  rw [dif_pos distinct]
  simp only [List.isEmpty_iff]

/-- The registrations keep the identifiers of their entries. -/
theorem ids_of_registers {h : Host} {entries : List (String × RegistrationEntry)}
    {rs : List ClientRegistration} (resolved : h.RegistersAll entries rs) :
    rs.map (·.registrationId) = entries.map (·.1) := by
  induction resolved with
  | nil => rfl
  | cons registers _ ih =>
    rw [List.map_cons, List.map_cons, ih]
    cases registers <;> rfl

/-! ### Stores -/

/-- A text that names no variable stays as it is. -/
theorem Environment.expand_of_not_mem {env : Environment} {s : String} (plain : '$' ∉ s.toList) :
    env.expand s = s := by
  have chars (cs : List Char) (plain : '$' ∉ cs) : expandChars env cs = cs := by
    induction cs with
    | nil => simp [expandChars]
    | cons c cs ih =>
      obtain ⟨first, later⟩ := not_or.1 (List.mem_cons.not.1 plain)
      rw [expandChars, ih later]
      exact fun same => first same.symm
  rw [expand, chars s.toList plain, String.ofList_toList]

/-- The store of a backend that is known is opened, if its directory can be made. -/
theorem Action.openStore_cases {s : StoreSettings} {h : Host}
    (creatable : s.backend = "disk" → ∃ opened, (openStore s h).1 = .ok opened) :
    ((s.backend = "memory" ∨ s.backend = "disk") ∧ ∃ opened, (openStore s h).1 = .ok opened) ∨
      (s.backend ≠ "memory" ∧ s.backend ≠ "disk") ∧ (openStore s h).1 =
        .error (.failure (.config
          s!"Unknown store backend '{s.backend}' (expected: memory, disk)")) := by
  by_cases memory : s.backend = "memory"
  · refine .inl ⟨.inl memory, ?_⟩
    unfold openStore
    rw [memory]
    exact ⟨_, rfl⟩
  · by_cases disk : s.backend = "disk"
    · exact .inl ⟨.inr disk, creatable disk⟩
    · refine .inr ⟨⟨memory, disk⟩, ?_⟩
      have unknown : StoreKind.ofName? s.backend = none := by simp [StoreKind.ofName?]
      unfold openStore
      rw [unknown]
      rfl

/-! ### Clients -/

/-- A client has nothing against a registration exactly if it accepts it. -/
theorem ExchangeClient.validate_eq_nil_iff {c : ExchangeClient} {r : ClientRegistration}
    (served : c.grantType = r.grantType) : c.validate r = [] ↔ c.Accepts r := by
  have endpoint : endpointIssues r = [] ↔ r.tokenUri ≠ "" := by
    unfold endpointIssues
    split <;> simp_all
  have secret : secretIssues r = [] ↔
      r.authentication = .none ∨ ∃ secret, r.clientSecret = some secret ∧ secret ≠ "" := by
    unfold secretIssues
    cases r.clientSecret with
    | none => by_cases none : r.authentication = .none <;> simp [none]
    | some secret => by_cases none : r.authentication = .none <;> simp [none]
  unfold validate Accepts
  cases c with
  | clientCredentials settings =>
    have own : r.grantType = .clientCredentials := served.symm
    simp [endpoint, secret, own]
  | refreshToken settings => simp [endpoint]
  | plugin label grant number => simp [endpoint, secret]

/-! ### The assembly of a program -/

namespace Settings

variable {s : Settings} {h : Host} {catalog : Catalog} {store : Store}

/-- The built-in components and the clients that extensions offer. -/
def completed (s : Settings) (h : Host) (catalog : Catalog) (store : Store) : Assembly :=
  { s.assembly catalog store with
    components := (s.assembly catalog store).components ++
      (offered h.extensions).map fun client => (client.1, .client client.2) }

theorem sources_completed : (s.completed h catalog store).candidates Roles.usual.source? =
    [("client_registration_store", .catalog catalog)] := by
  simp [completed, assembly, builtInClients, Assembly.candidates, Roles.usual, Component.source?,
    List.filterMap_map]

theorem stores_completed : (s.completed h catalog store).candidates Roles.usual.store? =
    [("authorized_client_store", store)] := by
  simp [completed, assembly, builtInClients, Assembly.candidates, Roles.usual, Component.store?,
    List.filterMap_map]

theorem clients_completed : (s.completed h catalog store).candidates Roles.usual.client? =
    s.clients h := by
  simp [completed, assembly, clients, builtInClients, Assembly.candidates, Roles.usual,
    Component.client?, List.filterMap_map]

theorem exchangeClients_completed :
    (s.completed h catalog store).exchangeClients Roles.usual = (s.clients h).map (·.2) := by
  rw [Assembly.exchangeClients, clients_completed]

/-- The built-in clients serve unattended registrations, so it only matters what clients have
against them. -/
theorem serve_iff {r : ClientRegistration} :
    Assembly.Serve Roles.usual.validate ((s.clients h).map (·.2)) r ↔
    ∀ client ∈ s.clients h, client.2.grantType = r.grantType → client.2.Accepts r := by
  constructor
  · rintro ⟨-, valid⟩ client member served
    exact (ExchangeClient.validate_eq_nil_iff served).1
      (valid client.2 (List.mem_map_of_mem member) served)
  · intro accepted
    refine ⟨fun unattended => ?_, fun c member served => ?_⟩
    · refine ⟨.clientCredentials s.requests, ?_, unattended.symm⟩
      simp [clients, builtInClients]
    · obtain ⟨client, listed, rfl⟩ := List.mem_map.1 member
      exact (ExchangeClient.validate_eq_nil_iff served).2 (accepted client listed served)

/-- The assembly fits exactly if the grants differ and every registration is served. -/
theorem fits_completed_iff {source : RegistrationSource} {named : String × Store} :
    Assembly.Fits .usual (s.completed h catalog store) source named ↔
      source = .catalog catalog ∧ named = ("authorized_client_store", store) ∧
        ((s.clients h).map (·.2.grantType)).Nodup ∧
        ∀ r ∈ catalog.registrations, ∀ client ∈ s.clients h, client.2.grantType = r.grantType →
          client.2.Accepts r := by
  have grants : ((s.completed h catalog store).exchangeClients .usual).map (·.grantType) =
      (s.clients h).map (·.2.grantType) := by
    rw [Assembly.grants_exchangeClients, clients_completed]
  constructor
  · rintro ⟨⟨name, oneSource⟩, oneStore, distinct, served⟩
    rw [sources_completed] at oneSource
    rw [stores_completed] at oneStore
    cases oneSource
    cases oneStore
    rw [grants] at distinct
    rw [exchangeClients_completed] at served
    exact ⟨rfl, rfl, distinct, fun r member => serve_iff.1 (served _ rfl r member)⟩
  · rintro ⟨rfl, rfl, distinct, accepted⟩
    refine ⟨⟨_, sources_completed⟩, stores_completed, grants ▸ distinct, ?_⟩
    rintro rs ⟨⟩ r member
    rw [exchangeClients_completed]
    exact serve_iff.2 (accepted r member)

/-- The issues of the assembly are those of the settings. -/
theorem issues_completed (s : Settings) (h : Host) (catalog : Catalog) (store : Store) :
    (s.completed h catalog store).issues .usual (.catalog catalog) =
      s.issues h catalog.registrations := by
  unfold Assembly.issues issues
  rw [exchangeClients_completed]
  rfl

/-- There is no issue exactly if every client of its grant accepts a registration. -/
theorem issues_eq_nil_iff {rs : List ClientRegistration}
    (grants : ((s.clients h).map (·.2.grantType)).Nodup) :
    s.issues h rs = [] ↔
      ∀ r ∈ rs, ∀ client ∈ s.clients h, client.2.grantType = r.grantType → client.2.Accepts r := by
  have distinct : (((s.clients h).map (·.2)).map (·.grantType)).Nodup := by rwa [List.map_map]
  unfold issues
  rw [List.flatMap_eq_nil_iff]
  exact forall₂_congr fun r _ => (Assembly.registrationIssues_eq_nil_iff distinct).trans serve_iff

/-! ### The start -/

variable {rs : List ClientRegistration} {fault : Fault}

/-- The one reading of the entries. -/
theorem eq_of_registers {rs' : List ClientRegistration}
    (resolved : h.RegistersAll s.registrations rs)
    (resolved' : h.RegistersAll s.registrations rs') : rs = rs' :=
  Except.ok.inj ((Action.registrations_eq_ok_iff.2 resolved).symm.trans
    (Action.registrations_eq_ok_iff.2 resolved'))

/-- Something keeps an engine from being started only where one cannot be. -/
theorem Unstartable.not_startable (unstartable : s.Unstartable h fault) :
    ¬ (s.Startable h rs ∧ s.lifetimes.clockSkew < endlessMargin) := by
  rintro ⟨startable, within⟩
  cases unstartable with
  | secret order earlier given yields =>
    have failed := Action.registrations_eq_error_iff.2
      ⟨_, _, _, order, earlier, .failed given yields⟩
    cases failed.symm.trans (Action.registrations_eq_ok_iff.2 startable.resolved)
  | undeclared none => exact startable.declared none
  | backend _ _ unknown =>
    rcases startable.backend with memory | disk
    · exact unknown.1 memory
    · exact unknown.2 disk
  | name _ _ _ order _ taken =>
    have distinct := startable.names
    rw [order, List.map_append, List.map_cons, ← List.append_assoc] at distinct
    exact (List.nodup_append.1 distinct).2.2 _ taken _ List.mem_cons_self rfl
  | grant _ _ _ _ contested => exact contested.not_nodup startable.grants
  | registrations resolved _ _ _ grants unaccepted =>
    rw [eq_of_registers resolved startable.resolved] at unaccepted
    exact unaccepted ((issues_eq_nil_iff grants).2 startable.accepted)
  | margin _ endless => exact absurd within (not_lt.2 endless)

/-- What is wrong with the assembly of a program keeps it from being started. -/
theorem unstartable_of_flaw (resolved : h.RegistersAll s.registrations catalog.registrations)
    (declared : s.registrations ≠ []) (backend : s.store.backend = "memory" ∨
      s.store.backend = "disk")
    (names : (builtInNames ++ (offered h.extensions).map (·.1)).Nodup)
    (flaw : Assembly.Flaw .usual (s.completed h catalog store) fault) : s.Unstartable h fault := by
  cases flaw with
  | components unfit =>
    cases unfit with
    | source unmet => exact absurd (by rw [sources_completed]; rfl) unmet.ne_one
    | store _ unmet => exact absurd (by rw [stores_completed]; rfl) unmet.ne_one
    | grant _ _ contested =>
      exact .grant resolved declared backend names (clients_completed ▸ contested)
    | registrations oneSource _ grants unserved =>
      rw [sources_completed] at oneSource
      cases oneSource
      rw [issues_completed] at unserved ⊢
      refine .registrations resolved declared backend names ?_ unserved
      rwa [Assembly.grants_exchangeClients, clients_completed] at grants
  | margin fits endless =>
    obtain ⟨source, named, fits⟩ := fits
    obtain ⟨-, -, grants, accepted⟩ := fits_completed_iff.1 fits
    exact .margin ⟨resolved, declared, backend, names, grants, accepted⟩ endless

end Settings

namespace Action

variable {s : Settings} {h : Host}

open Settings in
/-- The engine is made of the parts, or the first thing that is wrong ends the start. -/
theorem start_cases (lifetimes : s.lifetimes.IsAccepted)
    (mapping : (s.registrations.map (·.1)).Nodup)
    (creatable : s.store.backend = "disk" → ∃ opened, (openStore s.store h).1 = .ok opened) :
    (∃ catalog x, s.Startable h catalog.registrations ∧ s.lifetimes.clockSkew < endlessMargin ∧
        (start s true h).1 = .ok x ∧ x.engine =
          ⟨.catalog catalog, ⟨(s.clients h).map (·.2)⟩, s.lifetimes⟩) ∨
      ∃ fault, s.Unstartable h fault ∧ (start s true h).1 = .error fault := by
  rw [start_eq]
  unfold Settings.startedFrom
  cases ended : (registrations s h).1 with
  | error fault =>
    obtain ⟨front, ⟨id, entry⟩, rest, order, earlier, failed⟩ := registrations_eq_error_iff.1 ended
    cases failed with
    | failed given yields => exact .inr ⟨_, .secret order earlier given yields, rfl⟩
  | ok rs =>
    have resolved := registrations_eq_ok_iff.1 ended
    have distinct : (rs.map (·.registrationId)).Nodup := by rwa [ids_of_registers resolved]
    simp only [Except.bind, Catalog.ofList_eq distinct]
    by_cases none : rs = []
    · rw [if_pos none]
      rw [none] at resolved
      exact .inr ⟨_, .undeclared (List.forall₂_nil_right_iff.1 resolved), rfl⟩
    · have declared : s.registrations ≠ [] := by
        intro nothing
        rw [nothing] at resolved
        exact none (List.forall₂_nil_left_iff.1 resolved)
      rw [if_neg none]
      rcases openStore_cases creatable with ⟨backend, opened, opens⟩ | ⟨unknown, refused⟩
      · rw [opens]
        simp only [Except.mapError]
        -- the names of the built-in components come first
        have builtIn : ((s.assembly ⟨rs, distinct⟩ opened.store).components.map (·.1)).Nodup := by
          show builtInNames.Nodup
          decide
        rcases Assembly.enlist_cases builtIn (offered h.extensions) with
          ⟨names, enlisted⟩ | ⟨front, name, c, rest, order, earlier, taken, refused⟩
        · rw [enlisted]
          simp only
          rcases Assembly.buildBy_cases (a :=
            s.completed h ⟨rs, distinct⟩ opened.store) .usual lifetimes with
            ⟨source, named, fits, within, built⟩ | ⟨fault, flaw, refused⟩
          · obtain ⟨rfl, rfl, grants, accepted⟩ := fits_completed_iff.1 fits
            refine .inl ⟨⟨rs, distinct⟩, _, ⟨resolved, declared, backend, names, grants, accepted⟩,
              within, congrArg (Except.map _) built, ?_⟩
            rw [exchangeClients_completed]
            rfl
          · refine .inr ⟨fault, unstartable_of_flaw resolved declared backend names flaw, ?_⟩
            exact congrArg (Except.map _) refused
        · rw [refused]
          exact .inr ⟨_, .name resolved declared backend order earlier taken, rfl⟩
      · rw [refused]
        exact .inr ⟨_, .backend resolved declared unknown, rfl⟩

open Settings in
/-- Just the settings whose parts fit together on a host, and whose margin is a duration, are ones
that an engine is started from, and it is made of these parts; of any others the first thing that is
wrong is told. Extensions that fail or offer something else than an exchange client make no
difference. -/
theorem started_iff_startable_within_margin {j : Json} (accepted : Settings.ofJson j = .ok s)
    (mapping : (s.registrations.map (·.1)).Nodup) (h : Host)
    (creatable : s.store.backend = "disk" → ∃ opened, (openStore s.store h).1 = .ok opened) :
    ((∃ x, (start s true h).1 = .ok x) ↔ (∃ rs, s.Startable h rs) ∧
      s.lifetimes.clockSkew < endlessMargin) ∧
      (∀ x, (start s true h).1 = .ok x → ∃ catalog, s.Startable h catalog.registrations ∧
        x.engine = ⟨.catalog catalog, ⟨(s.clients h).map (·.2)⟩, s.lifetimes⟩) ∧
      (∀ fault, (start s true h).1 = .error fault → s.Unstartable h fault) ∧
      ∀ xs, offered xs = offered h.extensions →
        (start s true (h.withExtensions xs)).1 = (start s true h).1 := by
  refine ⟨⟨?_, ?_⟩, ?_, ?_, ?_⟩
  · rintro ⟨x, started⟩
    rcases start_cases (isAccepted_lifetimes accepted) mapping creatable with
      ⟨catalog, _, startable, within, -, -⟩ | ⟨fault, -, refused⟩
    · exact ⟨⟨_, startable⟩, within⟩
    · cases started.symm.trans refused
  · rintro ⟨⟨rs, startable⟩, within⟩
    rcases start_cases (isAccepted_lifetimes accepted) mapping creatable with
      ⟨_, x, -, -, started, -⟩ | ⟨fault, unstartable, -⟩
    · exact ⟨x, started⟩
    · exact absurd ⟨startable, within⟩ unstartable.not_startable
  · intro x started
    rcases start_cases (isAccepted_lifetimes accepted) mapping creatable with
      ⟨catalog, x', startable, -, started', engine⟩ | ⟨fault, -, refused⟩
    · cases started.symm.trans started'
      exact ⟨catalog, startable, engine⟩
    · cases started.symm.trans refused
  · intro fault refused
    rcases start_cases (isAccepted_lifetimes accepted) mapping creatable with
      ⟨_, _, -, -, started, -⟩ | ⟨fault', unstartable, refused'⟩
    · cases started.symm.trans refused
    · cases refused.symm.trans refused'
      exact unstartable
  · intro xs same
    rw [start_eq, start_eq, registrations_withExtensions, passes_openStore s.store h]
    exact congrArg (s.startedFrom _ _) same

end Action

namespace Discovered

def settings : Settings where
  registrations :=
    [("svc-a", { clientId := "svc-client", secretSource := some "env:SECRET",
                 tokenUri := "https://auth/token" })]
  store := { backend := "disk", path := some "/cache" }

/-- Two extensions, of which one cannot be loaded. -/
def host : Host where
  environment := [("SECRET", "s3cret")]
  extensions := [⟨"refresh_token_client", .failed "No module named 'gone'"⟩,
    ⟨"code_client", .client (.plugin "CodeClient" .authorizationCode 0)⟩]
  world :=
    { clock := default
      transport _ := { reply := .interrupted }
      shared := { store := .memory [] } }

def registration : ClientRegistration where
  registrationId := "svc-a"
  clientId := "svc-client"
  clientSecret := some "s3cret"
  grantType := .clientCredentials
  tokenUri := "https://auth/token"

/-- Settings with one registration and a store of a known kind can be started. -/
theorem startable {s : Settings} (registrations : s.registrations = settings.registrations)
    (backend : s.store.backend = "memory" ∨ s.store.backend = "disk") :
    s.Startable host [registration] where
  resolved := registrations ▸ .cons (.secret rfl (.variable rfl rfl)) .nil
  declared := registrations ▸ List.cons_ne_nil _ _
  backend := backend
  names := by decide
  grants := by
    show [GrantType.clientCredentials, .refreshToken, .authorizationCode].Nodup
    decide
  accepted r member client _ _ := by
    cases List.mem_singleton.1 member
    exact ⟨by decide, .inr (.inr ⟨_, rfl, by decide⟩)⟩

/-- A margin that validation accepts and that is no duration. -/
def endless : Settings :=
  { settings with store := {}, lifetimes := { clockSkew := 100000000000000 } }

end Discovered

namespace Action

open Discovered in
/-- An extension that cannot be loaded does not keep the engine from being started. -/
theorem discovered_engine_started : ∃ x, (start settings true host).1 = .ok x := by
  have accepted : Settings.ofJson settings.toJson = .ok settings := by rfl
  have opens : ∃ opened, (openStore settings.store host).1 = .ok opened := by
    refine ⟨{ store := .disk [], place := some ["cache", "authorized_clients"] }, ?_⟩
    show (openDisk ⟨.root, ["cache"]⟩ host).1 = _
    have place : entriesPath host.homes ⟨.root, ["cache"]⟩ =
        .ok ⟨.root, ["cache", "authorized_clients"]⟩ := by
      show Except.ok (Path.ofText (host.environment.expand "/cache/authorized_clients")) = _
      rw [Environment.expand_of_not_mem (by decide)]
      rfl
    unfold openDisk
    rw [get_bind_run, place, bind_of_ok (ofExcept_run _ host)]
    rfl
  have started := started_iff_startable_within_margin accepted (by decide) host fun _ => opens
  exact started.1.2 ⟨⟨_, startable rfl (.inr rfl)⟩, by decide⟩

open Discovered in
/-- Settings that are accepted, parts that fit together, and no engine. -/
theorem endless_margin_unstarted :
    Settings.ofJson endless.toJson = .ok endless ∧ (∃ rs, endless.Startable host rs) ∧
      (start endless true host).1 = .error (.durationTooLong 1157407407) :=
  ⟨rfl, ⟨_, startable rfl (.inl rfl)⟩, rfl⟩

end Action

end TokenBroker
