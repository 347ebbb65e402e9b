import TokenBroker.Proofs.Interleaving.Failures
import TokenBroker.Proofs.Service.Basic

/-!
# How a call fails that runs alone

A call that runs alone in its world always ends. If it ends with a failure of the broker's own, that
is one of those that a caller has to expect (`World.resolve_fails_as_foreseen`): none comes from the
store or from a plug-in, and no time or charset is at fault, since what these raise is no such
failure. So the exit status of a command that resolves a client tells them from success and from
each other (`Engine.Foreseen.exitCode_cases`).
-/

namespace TokenBroker

/-- What the store raises is no failure of the broker's own. -/
def StoreTrouble.IsForeign (t : StoreTrouble) : Prop :=
  ∀ f : Failure, t.load ≠ some (.failure f) ∧ t.save ≠ some (.failure f) ∧
  t.remove ≠ some (.failure f)

namespace Engine

variable {e : Engine} {key : Key} {env : Surroundings} {s t : Shared} {p q : Phase} {f : Failure}

/-- The exit statuses of foreseen failures. -/
theorem Foreseen.exitCode_cases (h : e.Foreseen key (.failure f)) :
    f.exitCode ∈ [ExitStatus.notFound, .interactionRequired, .unreachable, .rejected,
      .badAnswer].map ExitStatus.code := by
  cases h with
  | unknown | needsUser => simp [Failure.exitCode]
  | failed exchange exit =>
    rw [exit]
    cases exchange <;> simp [Failure.exitCode, Failure.malformed, Failure.of, FailureKind.status]

/-- A failure that a step raises is foreseen, unless the store has raised it. -/
theorem foreseen_of_raises (served : e.ServesUnattended) (builtIn : e.AsksBuiltIn)
    (belongs : p.BelongsTo e key) (dispatched : p.Dispatched e)
    (foreign : env.storeFault ≠ some (.failure f)) (h : Raises e key env s p (.failure f)) :
    e.Foreseen key (.failure f) := by
  rcases foreseen_or_unforeseen served builtIn belongs dispatched h with foreseen | other
  · exact foreseen
  · cases other with
    | store asks raised => exact absurd raised foreign

/-- Where a call stands that runs alone: until it takes its key, nothing is in flight. -/
def Phase.RunsAlone (s : Shared) : Phase → Prop
  | .loading _ | .judging .. | .claiming _ => s.inFlight = []
  | .waiting _ => False
  | _ => True

/-- The failure that a phase carries towards its end. -/
def Phase.failure? (key : Key) : Phase → Option Failure
  | .dropping _ f => some (.acquisitionFailed key.registrationId f true)
  | .publishing _ (.error (.failure f)) | .releasing _ (.error (.failure f))
  | .finished (.error (.failure f)) => some f
  | _ => none

/-- A call goes on alone. -/
theorem runsAlone_proceed (e : Engine) (key : Key) (r : ClientRegistration) (a : Nat)
    (existing : Option AuthorizedClient) (s : Shared) :
    (e.proceed key r a existing).RunsAlone s := by
  rcases proceed_cases e key r a existing with ⟨pl, -, h⟩ | ⟨f, -, h⟩
  · rw [h]
    trivial
  · rw [h]
    trivial

/-- A step leaves a call alone. -/
theorem Move.runsAlone (h : Move e key env s p t q) (alone : p.RunsAlone s) : q.RunsAlone t := by
  cases h with
  | loadsNone loads | loadsSome loads => exact loads.inFlight.trans alone
  | judgesExpired => exact alone
  | @joins r a taken =>
    have idle : s.inFlight = [] := alone
    rw [idle] at taken
    cases taken
  | hears => exact alone.elim
  | reloadsNone | rejudgesExpired => exact runsAlone_proceed e key _ _ _ _
  | _ => trivial

/-- A failure that a step leaves the call with is one that the step raises, or that the call already
had. -/
theorem Move.failure_cases (h : Move e key env s p t q) (alone : p.RunsAlone s)
    (carries : q.failure? key = some f) :
    Raises e key env s p (.failure f) ∨ p.failure? key = some f := by
  cases q with
  | dropping a f' =>
    cases carries
    exact .inl h.to_dropping
  | publishing a o =>
    rcases o with (_ | _) | _ <;> cases carries
    rcases h.to_publishing_error with raises | ⟨f', rfl, same⟩
    · exact .inl raises
    · cases same
      exact .inr rfl
  | releasing a o =>
    rcases o with (_ | _) | _ <;> cases carries
    generalize hq : Phase.releasing a (.error (.failure f)) = q at h
    cases h with
    | publishes =>
      cases hq
      exact .inr rfl
    | reloadsNone | rejudgesExpired =>
      exact absurd hq (proceed_ne _ (fun _ => nofun) fun _ => nofun)
    | _ => cases hq
  | finished o =>
    rcases o with (_ | _) | _ <;> cases carries
    rcases h.to_failed with raises | ⟨a, rfl, -⟩ | ⟨a, rfl⟩
    · exact .inl raises
    · exact alone.elim
    · exact .inr rfl
  | _ => cases carries

end Engine

namespace World

open Engine

variable {w w' : World} {e : Engine} {key : Key} {p q : Phase}

/-- The store raises no failure of the broker's own, whatever a step asks of it. -/
theorem storeFault_supply (foreign : w.trouble.IsForeign) (n : Need) (f : Failure) :
    (w.supply n).1.storeFault ≠ some (.failure f) := by
  obtain ⟨load, save, remove⟩ := foreign f
  cases n with
  | load =>
    unfold supply
    cases raised : w.trouble.load with
    | some fault => simpa [raised] using load
    | none =>
      simp only []
      split <;> nofun
  | save => exact save
  | remove => exact remove
  | _ => nofun

theorem trouble_supply (foreign : w.trouble.IsForeign) (n : Need) :
    (w.supply n).2.trouble.IsForeign := by
  cases n with
  | load =>
    unfold supply
    cases w.trouble.load with
    | some fault => exact foreign
    | none =>
      simp only []
      split
      · exact foreign
      · exact fun f => foreign f
  | _ => exact foreign

theorem trouble_note (w : World) (p : Phase) : (w.note p).trouble = w.trouble := by
  unfold note
  split <;> rfl

/-- A step leaves the trouble of the world foreign. -/
theorem trouble_step (foreign : w.trouble.IsForeign) (taken : w.step e key p = some (w', q)) :
    w'.trouble.IsForeign := by
  rw [step_eq] at taken
  obtain ⟨next, -, absorbed⟩ := Option.map_eq_some_iff.1 taken
  cases absorbed
  rw [trouble_note]
  exact trouble_supply foreign (needOf p)

/-- What a call keeps that runs alone. -/
structure OnCourse (e : Engine) (key : Key) (w : World) (p : Phase) : Prop where
  foreign : w.trouble.IsForeign
  alone : p.RunsAlone w.shared
  belongs : p.BelongsTo e key
  dispatched : p.Dispatched e
  foreseen : ∀ f, p.failure? key = some f → e.Foreseen key (.failure f)

/-- Every step leaves a call on its course. -/
theorem OnCourse.next (served : e.ServesUnattended) (builtIn : e.AsksBuiltIn)
    (h : OnCourse e key w p) (taken : w.step e key p = some (w', q)) : OnCourse e key w' q := by
  have move := move_of_step taken
  refine ⟨trouble_step h.foreign taken, move.runsAlone h.alone, move.belongsTo h.belongs,
    move.dispatched h.dispatched, fun f carries => ?_⟩
  rcases move.failure_cases h.alone carries with raises | carried
  · exact foreseen_of_raises served builtIn h.belongs h.dispatched
      (storeFault_supply h.foreign (needOf p) f) raises
  · exact h.foreseen f carried

/-- A call begins on its course. -/
theorem onCourse_start (foreign : w.trouble.IsForeign) (idle : w.shared.inFlight = []) (e : Engine)
    (key : Key) : OnCourse e key w (e.start key) := by
  refine ⟨foreign, ?_, belongsTo_start e key, dispatched_start e key, ?_⟩
  · unfold start
    cases e.source.find? key.registrationId with
    | none => trivial
    | some r => exact idle
  · intro f carries
    unfold start at carries
    cases known : e.source.find? key.registrationId with
    | none =>
      rw [known] at carries
      cases carries
      exact .unknown known
    | some r =>
      rw [known] at carries
      cases carries

/-- A call that runs alone ends, and a failure of the broker's own that it ends with is foreseen. -/
theorem resolve_fails_as_foreseen (foreign : w.trouble.IsForeign) (idle : w.shared.inFlight = [])
    (served : e.ServesUnattended) (builtIn : e.AsksBuiltIn) (key : Key) :
    ∃ w' o, w.resolve e key = (w', some o) ∧
      ∀ f, o = .error (.failure f) → e.Foreseen key (.failure f) := by
  obtain ⟨w', o, ran, ended⟩ := runOut_induction
    (fun {w p} (h : OnCourse e key w p) a waits => by
      rw [waits] at h
      exact h.alone)
    (fun h taken => h.next served builtIn taken) (onCourse_start foreign idle e key)
  refine ⟨w', o, ?_, ?_⟩
  · unfold resolve
    rw [ran]
    rfl
  · rintro f rfl
    exact ended.foreseen f rfl

end World

end TokenBroker
