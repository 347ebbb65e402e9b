import TokenBroker.Proofs.Engine.Likeness
import TokenBroker.Proofs.Engine.Standing

/-!
# What a call sees of the others

A call looks at what is shared through its key only: the entry of the key, the attempt that holds
it, and the outcome of that attempt. Two shared states are `Alike` for a key if they agree in this,
up to the numbers of attempts, which other calls have an influence on. From alike states a call
takes the same step, and leaves states that are alike again (`step_alike`): it loads, judges, sends,
saves and publishes the same, whatever else there is in either state.
-/

namespace TokenBroker

namespace Engine

variable {e : Engine} {key : Key} {env : Surroundings} {s t s' t' : Shared} {p q : Phase}
  {f g : Nat → Nat} {a n : Nat}

/-! ## Numbers of attempts -/

namespace Phase

/-- The phase with other numbers for attempts. -/
def renumber (f : Nat → Nat) : Phase → Phase
  | .loading r => .loading r
  | .judging r c => .judging r c
  | .claiming r => .claiming r
  | .waiting a => .waiting (f a)
  | .reloading r a => .reloading r (f a)
  | .rejudging r a c => .rejudging r (f a) c
  | .stamping a p => .stamping (f a) p
  | .sending a p issuedAt => .sending (f a) p issuedAt
  | .receiving a p issuedAt sent ticket => .receiving (f a) p issuedAt sent ticket
  | .dropping a refusal => .dropping (f a) refusal
  | .saving a grant c => .saving (f a) grant c
  | .publishing a o => .publishing (f a) o
  | .releasing a o => .releasing (f a) o
  | .finished o => .finished o

/-- The attempt that a call waits for or leads. -/
def attempt? : Phase → Option Nat
  | .waiting a => some a
  | p => p.leads?

/-- The attempt of a phase has been made. -/
def Knows (p : Phase) (s : Shared) : Prop := ∀ a, p.attempt? = some a → a < s.outcomes.length

/-- Only the number of its own attempt tells what a phase becomes. -/
theorem renumber_congr (h : ∀ a, p.attempt? = some a → f a = g a) :
    p.renumber f = p.renumber g := by
  cases p with
  | loading | judging | claiming | finished => rfl
  | _ => simp only [renumber, h _ rfl]

end Phase

/-- A call begins without an attempt. -/
theorem attempt?_start (e : Engine) (key : Key) : (e.start key).attempt? = none := by
  unfold start
  cases e.source.find? key.registrationId <;> rfl

theorem start_renumber (f : Nat → Nat) (e : Engine) (key : Key) :
    (e.start key).renumber f = e.start key := by
  unfold start
  cases e.source.find? key.registrationId <;> rfl

/-- Two phases that hold the same, the attempts having other numbers in the first. -/
theorem Phase.like_renumber (known : ∀ a, p.attempt? = some a → a < n) :
    Phase.Like .unlogged (fun a b => b < n ∧ a = f b) (p.renumber f) p := by
  cases p <;> constructor <;> first | rfl | exact ⟨known _ rfl, rfl⟩

/-- A phase that is like another but for the number of the attempt is the other, renumbered. -/
theorem Phase.renumber_of_like (h : Phase.Like .unlogged (fun a b => b < n ∧ a = f b) q p) :
    q = p.renumber f ∧ ∀ a, p.attempt? = some a → a < n := by
  cases h <;> simp_all [Phase.renumber, Phase.attempt?, Phase.leads?, Likeness.failure]

/-! ## States that are alike -/

/-- Two shared states are alike for a key: attempt `a` of the second is attempt `f a` of the
first. -/
structure Alike (key : Key) (f : Nat → Nat) (s t : Shared) : Prop where
  entry : t.store.entry key = s.store.entry key
  kind : t.store.kind = s.store.kind
  taken : s.inFlight.get? key = (t.inFlight.get? key).map f
  made : ∀ a, t.inFlight.get? key = some a → a < t.outcomes.length
  outcome : ∀ a < t.outcomes.length, s.outcomes[f a]? = t.outcomes[a]?
  injective : ∀ a < t.outcomes.length, ∀ b < t.outcomes.length, f a = f b → a = b

/-- The numbers of attempts after a step, which may make a new one on either side. -/
def extend (f : Nat → Nat) (s t : Shared) (a : Nat) : Nat :=
  if a = t.outcomes.length then s.outcomes.length else f a

/-- The attempts there were keep their numbers. -/
theorem extend_of_lt (ha : a < t.outcomes.length) : extend f s t a = f a :=
  if_neg (Nat.ne_of_lt ha)

theorem extend_self : extend f s t t.outcomes.length = s.outcomes.length := if_pos rfl

namespace Alike

/-- Attempts that are over make no difference. -/
theorem of_earlier (made : ∀ a, t.inFlight.get? key = some a → a < t.outcomes.length)
    (same : s.store.Same t.store) (inFlight : s.inFlight = t.inFlight)
    (earlier : t.outcomes <+: s.outcomes) : Alike key id s t where
  entry := (same.entry key).symm
  kind := same.kind.symm
  taken := by rw [inFlight, Option.map_id_fun, id]
  made := made
  outcome a ha := by
    obtain ⟨later, h⟩ := earlier
    rw [← h, id, List.getElem?_append_left ha]
  injective _ _ _ _ same := same

/-- The attempts of the second state are attempts of the first one. -/
theorem lt_length (h : Alike key f s t) (ha : a < t.outcomes.length) : f a < s.outcomes.length := by
  have same := h.outcome a ha
  rw [List.getElem?_eq_getElem ha] at same
  exact (List.getElem?_eq_some_iff.1 same).1

/-- The numbers of attempts that have not been made do not matter. -/
theorem congr (h : Alike key f s t) (same : ∀ a < t.outcomes.length, g a = f a) :
    Alike key g s t where
  entry := h.entry
  kind := h.kind
  taken := by
    rw [h.taken]
    cases taken : t.inFlight.get? key with
    | none => rfl
    | some a => rw [Option.map_some, Option.map_some, same a (h.made a taken)]
  made := h.made
  outcome a ha := by rw [same a ha]; exact h.outcome a ha
  injective a ha b hb hab := h.injective a ha b hb (by rw [← same a ha, ← same b hb]; exact hab)

/-- Whatever happens to the stores, as long as they agree on the key. -/
theorem stores (h : Alike key f s t) {u v : Store} (entry : v.entry key = u.entry key)
    (kind : v.kind = u.kind) : Alike key f { s with store := u } { t with store := v } :=
  ⟨entry, kind, h.taken, h.made, h.outcome, h.injective⟩

/-- Removing the same entry leaves two alike shared states alike. -/
theorem remove (h : Alike key f s t) (l : Key) :
    Alike key f { s with store := s.store.remove l } { t with store := t.store.remove l } := by
  refine h.stores ?_ (by rw [Store.kind_remove, Store.kind_remove, h.kind])
  by_cases hl : key = l
  · rw [hl, Store.entry_remove_self, Store.entry_remove_self]
  · rw [Store.entry_remove_of_ne hl, Store.entry_remove_of_ne hl, h.entry]

/-- Saving the same client leaves two alike shared states alike. -/
theorem save (h : Alike key f s t) (c : AuthorizedClient) :
    Alike key f { s with store := s.store.save c } { t with store := t.store.save c } := by
  refine h.stores ?_ (by rw [Store.kind_save, Store.kind_save, h.kind])
  by_cases hc : key = c.key
  · rw [hc, Store.entry_save_self, Store.entry_save_self, h.kind]
  · rw [Store.entry_save_of_ne hc, Store.entry_save_of_ne hc, h.entry]

/-- Both loads raise alike, or give the same client. -/
theorem load (h : Alike key f s t) (env : Surroundings) :
    Except.Like Eq
      (fun x y => Option.Rel Eq x.1 y.1 ∧
        (Alike key f x.2.1 y.2.1 ∧ y.2.1.outcomes.length = t.outcomes.length) ∧ True)
      (Engine.load env s key) (Engine.load env t key) := by
  unfold Engine.load
  cases env.storeFault with
  | some fault => exact .error rfl
  | none =>
    cases env.hidden with
    | true => exact .ok ⟨.none, ⟨h, rfl⟩, trivial⟩
    | false =>
      refine .ok ⟨?_, ⟨h.stores ?_ ?_, rfl⟩, trivial⟩
      · show Option.Rel Eq (s.store.entry key) (t.store.entry key)
        rw [h.entry]
        exact .refl (fun _ => rfl) _
      · rw [Store.entry_load, Store.entry_load, h.entry]
      · rw [Store.kind_load, Store.kind_load, h.kind]

/-- Both take the key, each with an attempt of its own. -/
theorem take (h : Alike key f s t) :
    Alike key (extend f s t)
      { s with inFlight := s.inFlight.put key s.outcomes.length, outcomes := s.outcomes ++ [none] }
      { t with inFlight := t.inFlight.put key t.outcomes.length, outcomes := t.outcomes ++ [none] }
        where
  entry := h.entry
  kind := h.kind
  taken := by rw [Table.get?_put_self, Table.get?_put_self, Option.map_some, extend_self]
  made a ha := by
    rw [Table.get?_put_self] at ha
    cases ha
    simp
  outcome a ha := by
    rw [List.length_append, List.length_singleton] at ha
    rcases Nat.lt_succ_iff_lt_or_eq.1 ha with ha | rfl
    · rw [extend_of_lt ha, List.getElem?_append_left ha, List.getElem?_append_left (h.lt_length ha)]
      exact h.outcome a ha
    · rw [extend_self, List.getElem?_concat_length, List.getElem?_concat_length]
  injective a ha b hb hab := by
    rw [List.length_append, List.length_singleton] at ha hb
    -- the numbers of the attempts there were are not that of the new one
    rcases Nat.lt_succ_iff_lt_or_eq.1 ha with ha | rfl <;>
      rcases Nat.lt_succ_iff_lt_or_eq.1 hb with hb | rfl
    · rw [extend_of_lt ha, extend_of_lt hb] at hab
      exact h.injective a ha b hb hab
    · rw [extend_of_lt ha, extend_self] at hab
      exact absurd hab (Nat.ne_of_lt (h.lt_length ha))
    · rw [extend_self, extend_of_lt hb] at hab
      exact absurd hab.symm (Nat.ne_of_lt (h.lt_length hb))
    · rfl

/-- Both publish the outcome of an attempt. -/
theorem publish (h : Alike key f s t) (ha : a < t.outcomes.length) (o : Outcome) :
    Alike key f { s with outcomes := s.outcomes.set (f a) (some o) }
      { t with outcomes := t.outcomes.set a (some o) } where
  entry := h.entry
  kind := h.kind
  taken := h.taken
  made b hb := by
    rw [List.length_set]
    exact h.made b hb
  outcome b hb := by
    rw [List.length_set] at hb
    by_cases hab : a = b
    · subst hab
      rw [List.getElem?_set_self ha, List.getElem?_set_self (h.lt_length ha)]
    · have apart : f a ≠ f b := fun same => hab (h.injective a ha b hb same)
      rw [List.getElem?_set_ne hab, List.getElem?_set_ne apart]
      exact h.outcome b hb
  injective b hb c hc := by
    rw [List.length_set] at hb hc
    exact h.injective b hb c hc

/-- Both give the key back. -/
theorem giveBack (h : Alike key f s t) :
    Alike key f { s with inFlight := s.inFlight.erase key }
      { t with inFlight := t.inFlight.erase key } where
  entry := h.entry
  kind := h.kind
  taken := by rw [Table.get?_erase_self, Table.get?_erase_self, Option.map_none]
  made a ha := by
    rw [Table.get?_erase_self] at ha
    cases ha
  outcome := h.outcome
  injective := h.injective

end Alike

/-! ## Steps -/

/-- Two steps lead to the same phase of states that are alike. -/
structure SameStep (key : Key) (f : Nat → Nat) (x y : Step) : Prop where
  alike : Alike key f x.shared y.shared
  phase : x.phase = y.phase.renumber f
  knows : y.phase.Knows y.shared

/-- What is shared is alike after a step as well, which may make an attempt. -/
theorem Alike.shares (h : Alike key f s t) (env : Surroundings) :
    Likeness.unlogged.Shares key key env env (fun a b => b < t.outcomes.length ∧ a = f b)
      (fun u v => Alike key (extend f s t) u v ∧ t.outcomes.length ≤ v.outcomes.length)
      (fun _ v a b => b < v.outcomes.length ∧ a = extend f s t b) s t := by
  have same : ∀ a < t.outcomes.length, extend f s t a = f a := fun a ha => extend_of_lt ha
  constructor
  case kept => exact ⟨h.congr same, Nat.le_refl _⟩
  case grown =>
    rintro u v a b ⟨-, longer⟩ ⟨made, rfl⟩
    exact ⟨by omega, (same b made).symm⟩
  case load =>
    refine (h.load env).imp (fun _ _ faults => faults) ?_
    rintro x y ⟨clients, ⟨alike, length⟩, logged⟩
    exact ⟨clients, ⟨alike.congr (by rwa [length]), Nat.le_of_eq length.symm⟩, logged⟩
  case taken =>
    rw [h.taken]
    cases taken : t.inFlight.get? key with
    | none => exact .none
    | some a => exact .some ⟨h.made a taken, rfl⟩
  case take =>
    refine ⟨⟨h.take, ?_⟩, ?_, extend_self.symm⟩ <;> simp
  case outcome =>
    rintro a b ⟨made, rfl⟩
    rw [h.outcome b made]
    exact .refl (.refl fun _ => rfl) _
  case remove => exact ⟨(h.remove key).congr same, Nat.le_refl _⟩
  case save =>
    rintro c - rfl
    exact ⟨(h.save c).congr same, Nat.le_refl _⟩
  case publish =>
    rintro a b o - ⟨made, rfl⟩ rfl
    have length : (t.outcomes.set b (some o)).length = t.outcomes.length := List.length_set
    exact ⟨(h.publish made o).congr (by rwa [length]), Nat.le_of_eq length.symm⟩
  case giveBack => exact ⟨h.giveBack.congr same, Nat.le_refl _⟩

/-- From alike states a call takes the same step, or has none in either. -/
theorem step_alike (e : Engine) (env : Surroundings) (h : Alike key f s t) (known : p.Knows t) :
    Option.Rel (SameStep key (extend f s t)) (e.step key env s (p.renumber f))
      (e.step key env t p) := by
  have steps := Likeness.Lasts.step
    ⟨.unlogged e key, .unlogged key, .unlogged key, .unlogged env, h.shares env⟩
    (Phase.like_renumber known)
  revert steps
  generalize e.step key env s (p.renumber f) = x, e.step key env t p = y
  rintro (⟨⟨alike, -⟩, phases, -⟩ | _)
  · obtain ⟨phase, knows⟩ := Phase.renumber_of_like phases
    exact .some ⟨alike, phase, knows⟩
  · exact .none

/-- Either a call takes the same step from both, or it takes none from either. -/
theorem step_alike_cases (e : Engine) (env : Surroundings) (h : Alike key f s t)
    (known : p.Knows t) :
    (e.step key env s (p.renumber f) = none ∧ e.step key env t p = none) ∨
      ∃ x y, e.step key env s (p.renumber f) = some x ∧ e.step key env t p = some y ∧
        SameStep key (extend f s t) x y := by
  have both := step_alike e env h known
  cases hs : e.step key env s (p.renumber f) <;> cases ht :
    e.step key env t p <;> rw [hs, ht] at both <;> cases both
  · exact .inl ⟨rfl, rfl⟩
  · next x y same => exact .inr ⟨x, y, rfl, rfl, same⟩

end Engine

end TokenBroker
