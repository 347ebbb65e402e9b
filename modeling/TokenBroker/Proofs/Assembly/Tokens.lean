import TokenBroker.Proofs.Assembly.Secrets
import TokenBroker.Proofs.Engine.Tokens

/-!
# Assemblies whose stores have other tokens

An assembly passes its store on as it is. Two assemblies that differ in tokens of stores at most
take further components and extensions alike, and their builds log the same and are refused alike or
give the same engine, with stores that differ in tokens at most (`Assembly.build_tokens`).
-/

namespace TokenBroker

/-- Two components: the same, or stores that differ in tokens at most. -/
inductive Component.SameButTokens : Component → Component → Prop
  | same (c : Component) : SameButTokens c c
  | store {s s' : Store} (stores : s.SameButTokens s') : SameButTokens (.store s) (.store s')

/-- Two assemblies that differ in tokens of stores at most. -/
structure Assembly.SameButTokens (a a' : Assembly) : Prop where
  policy : a'.policy = a.policy
  components : List.Forall₂ (Named Component.SameButTokens) a.components a'.components

/-- Two assembled engines that are the same, with stores that differ in tokens at most. -/
structure Assembled.SameButTokens (m m' : Assembled) : Prop where
  engine : m'.engine = m.engine
  store : m.store.SameButTokens m'.store

namespace Assembly

variable {a a' : Assembly} {c c' : Component}

theorem SameButTokens.refl (a : Assembly) : SameButTokens a a :=
  ⟨rfl, List.forall₂_same.2 fun x _ => ⟨rfl, .same x.2⟩⟩

/-! ## Components -/

/-- A component is registered on both sides, or refused on both. -/
theorem register_tokens (h : a.SameButTokens a') (name : String) (components : c.SameButTokens c') :
    Except.Rel SameButTokens (a.register name c) (a'.register name c') := by
  unfold register
  rw [Option.isSome_of_rel (Table.Rel.get? h.components name)]
  split
  · exact .error _
  · exact .ok ⟨h.policy, Table.Rel.put h.components name components⟩

/-- Discovery finds the same extensions whatever tokens the stores hold. -/
theorem discover_tokens (h : a.SameButTokens a') (extensions : List Extension) :
    (a.discover extensions).assembly.SameButTokens (a'.discover extensions).assembly ∧
      (a'.discover extensions).log = (a.discover extensions).log ∧
      (a'.discover extensions).names = (a.discover extensions).names := by
  induction extensions generalizing a a' with
  | nil => exact ⟨h, rfl, rfl⟩
  | cons x xs ih =>
    unfold discover
    cases x.offer with
    | failed | other =>
      obtain ⟨assemblies, log, names⟩ := ih h
      simp only [log, names]
      exact ⟨assemblies, trivial, trivial⟩
    | client c =>
      simp only []
      rcases (register_tokens h x.name (.same (.client c))).cases with
        ⟨_, failed, failed'⟩ | ⟨_, _, registered, registered', assemblies⟩
      · rw [failed, failed']
        exact ⟨h, rfl, rfl⟩
      · obtain ⟨assemblies, log, names⟩ := ih assemblies
        simp only [registered, registered', log, names]
        exact ⟨assemblies, trivial, trivial⟩

/-! ## Parts -/

/-- A role that stores do not have is that of the same components. -/
theorem candidates_tokens {α : Type} {role : Component → Option α}
    (none : ∀ s, role (.store s) = none) (h : a.SameButTokens a') :
    a'.candidates role = a.candidates role := by
  have components := h.components
  unfold candidates
  generalize a.components = xs, a'.components = xs' at components ⊢
  induction components with
  | nil => rfl
  | @cons x x' xs xs' first rest ih =>
    obtain ⟨name, c⟩ := x
    obtain ⟨_, c'⟩ := x'
    obtain ⟨rfl, first⟩ := first
    cases first with
    | same => simp only [List.filterMap_cons, ih]
    | store => simp only [List.filterMap_cons, none, ih]

theorem stores_tokens (h : a.SameButTokens a') :
    List.Forall₂ (Named Store.SameButTokens) (a.candidates Component.store?)
      (a'.candidates Component.store?) := by
  refine List.rel_filterMap ?_ h.components
  rintro ⟨name, x⟩ ⟨name', x'⟩ ⟨named, components⟩
  cases components with
  | store stores => exact .some ⟨named, stores⟩
  | same =>
    cases x with
    | store s => exact .some ⟨named, .refl s⟩
    | _ => exact .none

/-- The parts of both are refused alike, or are the same but for the tokens of the stores. -/
theorem parts_tokens (h : a.SameButTokens a') :
    Except.Rel (fun x x' => x'.1 = x.1 ∧ x.2.1.2.SameButTokens x'.2.1.2 ∧ x'.2.2 = x.2.2)
      (a.parts .usual) (a'.parts .usual) := by
  have sources : a'.candidates Roles.usual.source? = a.candidates Roles.usual.source? :=
    candidates_tokens (fun _ => rfl) h
  have clients : a'.candidates Roles.usual.client? = a.candidates Roles.usual.client? :=
    candidates_tokens (fun _ => rfl) h
  have stores : List.Forall₂ (Named Store.SameButTokens) (a.candidates Roles.usual.store?)
      (a'.candidates Roles.usual.store?) := stores_tokens h
  unfold parts
  rw [sources, clients]
  cases single "ClientRegistrationStore" (a.candidates Roles.usual.source?) with
  | error f => exact .error f
  | ok source =>
    simp only [bind, Except.bind]
    rcases single_twins stores "AuthorizedClientStore" with
      ⟨f, found, found'⟩ | ⟨x, x', found, found', -, stores⟩ <;> rw [found, found']
    · exact .error f
    · cases registryOf (a.candidates Roles.usual.client?) with
      | error f => exact .error f
      | ok registry =>
        simp only []
        cases checkRegistrations .usual registry source.2 with
        | error f => exact .error f
        | ok _ => exact .ok ⟨rfl, stores, rfl⟩

/-- Both builds log the same, and are refused alike or give the same engine. -/
theorem build_tokens (h : a.SameButTokens a') :
    a'.build.1 = a.build.1 ∧ Except.Rel Assembled.SameButTokens a.build.2 a'.build.2 := by
  unfold build buildBy
  rcases (parts_tokens h).cases with
    ⟨f, failed, failed'⟩ | ⟨⟨_, ⟨name, store⟩, _⟩, ⟨source, ⟨name', store'⟩, registry⟩, found,
      found', rfl, stores, rfl⟩
  · rw [failed, failed']
    exact ⟨rfl, .error _⟩
  · rw [found, found']
    refine ⟨rfl, ?_⟩
    simp only [h.policy]
    cases Engine.create source registry a.policy with
    | error fault => exact .error fault
    | ok e => exact .ok ⟨rfl, stores⟩

end Assembly

end TokenBroker
