import TokenBroker.Proofs.Assembly.Tokens
import TokenBroker.Proofs.Host.Tokens
import TokenBroker.Startup

/-!
# Starting and resolving with other tokens

From hosts that differ in tokens at most, the same engine is started, or the start ends with the
same fault (`Action.blind_start`). Both engines then come to the same fault, or to clients that
differ in tokens at most (`Action.lockstep_resolve`).
-/

namespace TokenBroker

/-- Two stores that have been opened at one place and differ in tokens at most. -/
structure OpenStore.SameButTokens (o o' : OpenStore) : Prop where
  store : o.store.SameButTokens o'.store
  place : o'.place = o.place

namespace Action

variable {a a' : Assembly} {c c' : Component}

/-! ## Stores -/

/-- Stores whose values differ in the tokens only are opened alike. -/
theorem lockstep_openDisk (p : Path) :
    Lockstep Host.SameButTokens OpenStore.SameButTokens (openDisk p) (openDisk p) := by
  refine .get_bind fun h h' alike => ?_
  obtain ⟨tree, world, trees, worlds, rfl⟩ := alike
  refine Lockstep.bind_eq (blind_ofExcept (entriesPath h.homes p))
    (fun p => ?_) ⟨tree, world, trees, worlds, rfl⟩
  obtain ⟨made, result⟩ := trees.makeMissing h.here p
  simp only [result]
  refine .bind_eq (.setState ⟨_, _, made, worlds, rfl⟩) fun _ => .bind_eq (blind_ofFile _) fun _ =>
    ?_
  rw [made.locate, made.isDirectory]
  refine (blind_ofFile _).bind_eq fun place => .ite (.bind_eq (.throw _) fun _ => .pure ?_)
    (.pure ?_)
  · exact ⟨.disk (made.entries place), rfl⟩
  · exact ⟨.disk (made.entries place), rfl⟩

/-- The stores opened differ in the tokens only. -/
theorem lockstep_openStore (s : StoreSettings) :
    Lockstep Host.SameButTokens OpenStore.SameButTokens (openStore s) (openStore s) := by
  unfold openStore
  split
  · exact .pure ⟨.refl _, rfl⟩
  · split
    · exact (blind_expand _).bind_eq fun p => lockstep_openDisk p
    · exact (blind_directory _).bind_eq fun p => lockstep_openDisk p
  · exact .throw _

/-- Stores that differ in tokens at most are written back as such. -/
theorem lockstep_keep (place : Option Location) {s s' : Store} (stores : s.SameButTokens s') :
    Lockstep Host.SameButTokens Eq (keep place s) (keep place s') := by
  cases place with
  | none => exact .pure rfl
  | some l =>
    exact .modifyState fun h h' alike =>
      alike.withTree (alike.tree.put l (.directory stores.values))

/-! ## Engines -/

theorem lockstep_register (assemblies : a.SameButTokens a') (name : String)
    (components : c.SameButTokens c') :
    Lockstep Host.SameButTokens Assembly.SameButTokens (register a name c) (register a' name c') :=
  lockstep_ofExcept ((Assembly.register_tokens assemblies name components).mapError Fault.failure)

/-- What follows the components: an engine is built, and its store is the one that the world works
with. -/
theorem lockstep_built (assemblies : a.SameButTokens a') (place : Option Location) :
    Lockstep Host.SameButTokens Eq
      (do
        log a.build.1
        let built ← ofExcept a.build.2
        modify fun h => { h with world := { h.world with shared := { store := built.store } } }
        return Started.mk built.engine place)
      (do
        log a'.build.1
        let built ← ofExcept a'.build.2
        modify fun h => { h with world := { h.world with shared := { store := built.store } } }
        return Started.mk built.engine place) := by
  obtain ⟨logged, results⟩ := Assembly.build_tokens assemblies
  rw [logged]
  refine (blind_log _).bind_eq fun _ => (lockstep_ofExcept results).bind fun built built' same => ?_
  refine .bind_eq (.modifyState fun h h' alike => ?_) fun _ => .pure (by rw [same.engine])
  exact alike.withWorld (alike.world.withShared ⟨same.store, rfl, .nil⟩)

/-- Starting the engine looks at no token. -/
theorem blind_start (s : Settings) (discover : Bool) : BlindToTokens (start s discover) := by
  refine (blind_registrations s).bind_eq fun rs => (blind_ofExcept _).bind_eq fun catalog => ?_
  refine (lockstep_register (.refl _) _ (.same _)).bind fun a a' assemblies => ?_
  refine (lockstep_openStore s.store).bind fun opened opened' same => ?_
  obtain ⟨stores, place⟩ := same
  rw [place]
  refine (lockstep_register assemblies _ (.store stores)).bind fun a a' assemblies => ?_
  refine (lockstep_register assemblies _ (.same _)).bind fun a a' assemblies => ?_
  refine (lockstep_register assemblies _ (.same _)).bind fun a a' assemblies => ?_
  refine .ite (.get_bind fun h h' alike => ?_) (.bind (.pure assemblies) fun a a' assemblies => ?_)
  · rw [alike.extensions]
    obtain ⟨found, logged, names⟩ := Assembly.discover_tokens assemblies h.extensions
    rw [logged, names]
    refine Lockstep.bind_eq (blind_log _) (fun _ => .bind_eq (blind_ofExcept _) fun _ => ?_) alike
    exact .bind (.pure found) fun a a' assemblies => lockstep_built assemblies opened.place
  · exact lockstep_built assemblies opened.place

/-- An engine that has been started comes to the same fault, or to clients that differ in tokens at
most. -/
theorem lockstep_resolve (s : Started) (key : Key) :
    Lockstep Host.SameButTokens AuthorizedClient.SameButTokens (resolve s key) (resolve s key) := by
  refine .get_bind fun h h' alike => ?_
  obtain ⟨worlds, outcomes⟩ := World.resolve_tokens s.engine alike.world key
  have results : Except.Rel AuthorizedClient.SameButTokens
      ((h.world.resolve s.engine key).2.getD (.error .interrupted))
      ((h'.world.resolve s.engine key).2.getD (.error .interrupted)) := by
    revert outcomes
    generalize (h.world.resolve s.engine key).2 = o, (h'.world.resolve s.engine key).2 = o'
    rintro (same | _)
    · exact same
    · exact .error _
  exact Lockstep.bind_eq (.setState (alike.withWorld worlds))
    (fun _ => .bind_eq (lockstep_keep s.place worlds.shared.store) fun _ =>
      lockstep_ofExcept results) alike

end Action

end TokenBroker
