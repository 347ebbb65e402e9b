import TokenBroker.Proofs.Assembly
import TokenBroker.Proofs.Engine.Lifetime
import TokenBroker.Proofs.Interleaving.Raised

/-!
# Wiring at run time

What a build has checked holds for every request. An engine that `Assembly.build` gives has a client
of the right grant type for each exchange that it plans, and no step of its own fails for the way in
which the engine was put together: a failure of the wiring that ends a call was raised outside, by
the store or by a plug-in (`Interleaving.outside_of_isWiring`).

`wiring_fails_only_outside` says so of all assemblies whose registrations can be listed and of all
runs of their engines, and of the registry behind them, which gives each grant type to its first
client. The engine hands on whatever a plug-in raises, also a failure of the wiring:
`plugin_fails_as_wiring` is such a run.
-/

namespace TokenBroker

/-- A failure in how components are put together. -/
def Failure.isWiring : Failure → Bool
  | .plain .wiring _ _ _ => true
  | _ => false

/-- An exchange does not turn its own failures into one of the wiring. -/
theorem Fault.eq_of_ofExchange {key : Key} {fault : Fault} {f : Failure}
    (wiring : f.isWiring = true) (h : Fault.failure f = fault.ofExchange key) :
    fault = .failure f := by
  cases fault with
  | failure f' =>
    simp only [ofExchange] at h
    split at h
    · cases h
      cases wiring
    · exact h.symm
  | _ => exact h.symm

namespace Engine

/-- The plan that a phase holds. -/
def Phase.plan? : Phase → Option Plan
  | .stamping _ pl | .sending _ pl _ | .receiving _ pl _ _ _ => some pl
  | _ => none

/-- The plan of a call that was dispatched was dispatched. -/
theorem Phase.Dispatched.plan {e : Engine} {p : Phase} {pl : Plan} (h : p.Dispatched e)
    (holds : p.plan? = some pl) : pl.Dispatched e := by
  cases p with
  | stamping | sending =>
    cases holds
    exact h
  | receiving =>
    cases holds
    exact h.1
  | _ => cases holds

namespace Interleaving

/-- With event `m` the store, or a plug-in that is asked for a token, raises a fault to a call for a
key. -/
inductive RaisedOutside (r : Interleaving) (m : Nat) (k : Key) (fault : Fault) : Prop
  | store {j env p} (event : r.event m = .step j env) (at_j : (r.scene m).calls[j]? = some ⟨k, p⟩)
      (asks : p.asksStore = true) (raised : env.storeFault = some fault)
  | plugin {j env a pl issuedAt number ticket label grant} (event : r.event m = .step j env)
      (at_j : (r.scene m).calls[j]? = some ⟨k, .receiving a pl issuedAt (.ask number) ticket⟩)
      (asked : pl.client = .plugin label grant number) (raised : env.response = .error fault)

variable {r : Interleaving} {k : Key} {i m n : Nat} {p : Phase} {f : Failure}

/-- A step of an engine that serves all unattended registrations raises no failure of the wiring,
unless one comes from outside. -/
theorem outside_of_isWiring (served : r.engine.ServesUnattended) (wiring : f.isWiring = true)
    (h : r.RaisesFor m i k (.failure f)) : r.RaisedOutside m k (.failure f) := by
  obtain ⟨j, env, p, event, at_j, -, raises⟩ := h
  have belongs := r.belongsTo at_j
  have dispatched := dispatched at_j
  generalize raised : Fault.failure f = fault at raises
  cases raises with
  | store asks fails => exact .store event at_j asks fails
  | unjudged _ unjudged =>
    rw [(undated_of_isUsable unjudged).1] at raised
    cases raised
  | unplanned _ unplanned | replanned _ unplanned =>
    cases raised
    rw [(served.plan_eq_error belongs unplanned).2] at wiring
    cases wiring
  | mismatched refused =>
    obtain ⟨sent, begun⟩ := Plan.Dispatched.exists_begin dispatched
    rw [refused] at begun
    cases begun
  | @exchange a pl issuedAt sent ticket fault failed =>
    -- the exchange hands the failure on as it is, so it is none of its own
    obtain rfl := Fault.eq_of_ofExchange wiring raised
    cases sent with
    | post http scopes =>
      rcases ExchangeClient.conclude_error_cases failed with
        ⟨f', same, exchange⟩ | ⟨_, _, _, same, _⟩ | ⟨_, _, _, same⟩ | ⟨_, same⟩
      · cases same
        cases exchange <;> cases wiring
      all_goals cases same
    | ask number =>
      obtain ⟨label, grant, asked⟩ := ExchangeClient.eq_plugin_of_begin dispatched.2
      rw [← raised]
      exact .plugin event at_j asked failed
  | unmade _ unmade =>
    rw [(endless_of_clientOf unmade).1] at raised
    cases raised

end Interleaving

/-- **The wiring fails at build time or outside.**

* Clients are registered one after another, from an empty registry. A grant type then has the first
  of the clients that serve it, and no other; a client whose grant type is served already is
  refused, and the registry stays as it was.
* An assembly is built, and its registrations can be listed. Then in every run of the engine,
  whatever the store, the transport and the plug-ins do: a call that has planned an exchange holds a
  client of the assembly for it whose grant type is that of the request, and the client takes the
  request; and a call that ends with a failure of the wiring ends with one that the store or a
  plug-in has raised to a call for the same key. -/
theorem wiring_fails_only_outside :
    (∀ cs g, (Registry.registerAll {} cs).find? g = cs.find? (·.grantType = g) ∧
      ∀ c, (Registry.registerAll {} cs).find? g = some c → c.grantType = g) ∧
      (∀ (cs : List ExchangeClient) (c : ExchangeClient), (∃ c' ∈ cs, c'.grantType = c.grantType) →
        (∃ message, (Registry.registerAll {} cs).register c = .error (.wiring message)) ∧
          Registry.registerAll {} (cs ++ [c]) = Registry.registerAll {} cs) ∧
      ∀ (a : Assembly) (made : Assembled), a.build.2 = .ok made →
        made.engine.source.listed?.isSome →
        ∀ r : Interleaving, r.engine = made.engine → ∀ (n i : Nat) (k : Key),
          (∀ p pl, (r.scene n).calls[i]? = some ⟨k, p⟩ → p.plan? = some pl →
            pl.client ∈ a.clients.map (·.2) ∧ pl.client.grantType = pl.request.grantType ∧
              ∃ sent, pl.client.begin pl.request = .ok sent) ∧
            ∀ f, f.isWiring = true → (r.scene n).calls[i]? =
              some ⟨k, .finished (.error (.failure f))⟩ →
              ∃ m < n, r.RaisedOutside m k (.failure f) := by
  have found (cs : List ExchangeClient) (g : GrantType) :
      (Registry.registerAll {} cs).find? g = cs.find? (·.grantType = g) :=
    Registry.find?_registerAll {} cs g
  refine ⟨fun cs g => ⟨found cs g, fun c => Registry.grantType_of_find?⟩, ?_, ?_⟩
  · rintro cs c ⟨c', member, same⟩
    have taken : ((Registry.registerAll {} cs).find? c.grantType).isSome := by
      rw [found, List.find?_isSome]
      exact ⟨c', member, by simpa using same⟩
    refine ⟨?_, Registry.registerAll_concat taken⟩
    obtain ⟨existing, found⟩ := Option.isSome_iff_exists.1 taken
    exact ⟨_, Registry.register_of_some found⟩
  · intro a made built listed r engine n i k
    refine ⟨?_, ?_⟩
    · intro p pl at_i holds
      have dispatched := (r.dispatched at_i).plan holds
      refine ⟨?_, dispatched.grantType_eq, dispatched.exists_begin⟩
      rw [← Assembly.clients_of_build built, ← engine]
      exact List.mem_of_find?_eq_some dispatched
    · intro f wiring failed
      -- an unknown registration is no failure of the wiring, so a step has raised it
      rcases Interleaving.raised_of_failed failed with ⟨-, unknown⟩ | ⟨m, hm, raised⟩
      · cases unknown
        cases wiring
      · have served : r.engine.ServesUnattended := by
          rw [engine]
          exact Assembly.servesUnattended_of_build built listed
        exact ⟨m, hm, r.outside_of_isWiring served wiring raised⟩

/-! ## A plug-in that fails as wiring does -/

namespace MiswiredPlugin

def registration : ClientRegistration :=
  { registrationId := "svc", clientId := "app", clientSecret := some "s",
    grantType := .clientCredentials, tokenUri := "/token" }

def catalog : Catalog := ⟨[registration], by decide⟩

def issuer : ExchangeClient := .plugin "Issuer" .clientCredentials 0

def assembly : Assembly where
  components :=
    [("registrations", .registrations (.catalog catalog)), ("store", .store (.memory [])),
      ("issuer", .client issuer)]

def made : Assembled := ⟨⟨.catalog catalog, ⟨[issuer]⟩, {}⟩, "store", .memory []⟩

theorem built : assembly.build.2 = .ok made := by
  rfl

def system : Key := ⟨"svc", "system"⟩

/-- The failure that the plug-in raises. -/
def failure : Failure := .wiring "no signing key"

def calm : Surroundings := { now := default, response := .error (.failure failure) }

/-- One call, alone, on an empty store. -/
def run : Interleaving where
  engine := made.engine
  clock := default
  store := made.store
  event n := (.begin system :: List.replicate 8 (.step 0 calm)).getD n .pause

end MiswiredPlugin

open MiswiredPlugin in
/-- The assembly is built, and its engine's call ends with the failure of the plug-in. -/
theorem plugin_fails_as_wiring :
    assembly.build.2 = .ok made ∧ made.engine.source.listed?.isSome ∧ run.engine = made.engine ∧
      failure.isWiring = true ∧
      (run.scene 9).calls[0]? = some ⟨system, .finished (.error (.failure failure))⟩ :=
  ⟨built, rfl, rfl, rfl, rfl⟩

end Engine

end TokenBroker
