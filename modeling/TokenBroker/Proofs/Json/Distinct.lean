import TokenBroker.Proofs.Json.Reading

/-!
# Values read have no name twice

A value that is read from a text has no object with a name twice in it, whatever is written there
(`Json.distinct_of_read`): of several members of one name one is kept. The induction is on the bound
that the readers have on the parts that they read.
-/

namespace TokenBroker

namespace Json

variable {name : String} {value j : Json} {ms : List (String × Json)} {fuel : Nat}
  {levels : Levels}

/-! ## Members of one name -/

theorem mem_setMember_names {other : String} :
    other ∈ (setMember name value ms).map (·.1) ↔ other = name ∨ other ∈ ms.map (·.1) := by
  induction ms with
  | nil => simp [setMember]
  | cons m ms ih =>
    obtain ⟨n, v⟩ := m
    by_cases same : n = name
    · subst same
      simp [setMember]
    · simp only [setMember, if_neg same, List.map_cons, List.mem_cons, ih]
      exact or_left_comm

/-- Setting a member repeats no name. -/
theorem nodup_setMember (nodup : (ms.map (·.1)).Nodup) (name : String) (value : Json) :
    ((setMember name value ms).map (·.1)).Nodup := by
  induction ms with
  | nil => simp [setMember]
  | cons m ms ih =>
    obtain ⟨n, v⟩ := m
    rw [List.map_cons, List.nodup_cons] at nodup
    by_cases same : n = name
    · rw [setMember, if_pos same, List.map_cons, List.nodup_cons]
      exact nodup
    · rw [setMember, if_neg same, List.map_cons, List.nodup_cons, mem_setMember_names, not_or]
      exact ⟨⟨same, nodup.1⟩, ih nodup.2⟩

theorem membersDistinct_setMember (members : MembersDistinct ms) (name : String)
    (distinct : value.Distinct) :
    MembersDistinct (setMember name value ms) := by
  induction ms with
  | nil => exact ⟨distinct, trivial⟩
  | cons m ms ih =>
    obtain ⟨n, v⟩ := m
    by_cases same : n = name
    · rw [setMember, if_pos same]
      exact ⟨distinct, members.2⟩
    · rw [setMember, if_neg same]
      exact ⟨members.1, ih members.2⟩

/-- Of members as they are written, whichever names they repeat, an object is made that repeats
none. -/
theorem distinct_ofMembers (members : MembersDistinct ms) : (ofMembers ms).Distinct := by
  have from_front (front : List (String × Json)) (nodup : (front.map (·.1)).Nodup)
      (distinct : MembersDistinct front) :
        (Json.obj (ms.foldl (fun acc m => setMember m.1 m.2 acc) front)).Distinct := by
    induction ms generalizing front with
    | nil => exact ⟨nodup, distinct⟩
    | cons m ms ih =>
      obtain ⟨n, v⟩ := m
      exact ih members.2 _ (nodup_setMember nodup n v)
        (membersDistinct_setMember distinct n members.1)
  exact from_front [] List.nodup_nil trivial

theorem distinct_of_lookup? (members : MembersDistinct ms) (found : lookup? name ms = some j) :
    j.Distinct := by
  induction ms with
  | nil => cases found
  | cons m ms ih =>
    obtain ⟨n, v⟩ := m
    by_cases same : n = name
    · simp only [lookup?, List.find?_cons, same, decide_true, Option.map_some,
        Option.some.injEq] at found
      exact found ▸ members.1
    · simp only [lookup?, List.find?_cons, same, decide_false] at found
      exact ih members.2 found

/-! ## Readers -/

theorem distinct_of_readScalar {cs rest : List Char} (read : readScalar cs = .ok (j, rest)) :
    j.Distinct := by
  unfold readScalar at read
  split at read
  · next found word =>
    cases read
    obtain ⟨⟨text, value⟩, listed, after⟩ := List.exists_of_findSome?_eq_some word
    obtain ⟨_, -, same⟩ := Option.map_eq_some_iff.1 after
    cases same
    simp only [words, List.mem_cons, Prod.mk.injEq, List.not_mem_nil, or_false] at listed
    rcases listed with ⟨-, rfl⟩ | ⟨-, rfl⟩ | ⟨-, rfl⟩ | ⟨-, rfl⟩ | ⟨-, rfl⟩ | ⟨-, rfl⟩ <;> trivial
  · unfold readNumber at read
    dsimp only at read
    split at read
    · cases read
    · split at read
      · split at read
        · cases read
        · cases read
          trivial
      · cases read
        trivial

/-- What is read within a bound has no object with a name twice. -/
structure ReadsDistinct (fuel : Nat) : Prop where
  value : ∀ {levels : Levels} {cs rest : List Char} {j : Json},
    readValue fuel levels cs = .ok (j, rest) → j.Distinct
  items : ∀ {levels : Levels} {cs rest : List Char} {items : List Json},
    readItems fuel levels cs = .ok (items, rest) → ItemsDistinct items
  members : ∀ {levels : Levels} {cs rest : List Char} {ms : List (String × Json)},
    readMembers fuel levels cs = .ok (ms, rest) → MembersDistinct ms

namespace ReadsDistinct

variable {cs rest : List Char} {items : List Json}

theorem value_succ (h : ReadsDistinct fuel)
    (read : readValue (fuel + 1) levels cs = .ok (j, rest)) :
    j.Distinct := by
  unfold readValue at read
  split at read
  · simp only [bind, Except.bind] at read
    split at read
    · cases read
    · cases read
      trivial
  · split at read
    · cases read
    · split at read
      · cases read
        trivial
      · simp only [bind, Except.bind] at read
        split at read
        · cases read
        · next inner =>
          cases read
          exact h.items inner
  · split at read
    · cases read
    · split at read
      · cases read
        exact ⟨List.nodup_nil, trivial⟩
      · simp only [bind, Except.bind] at read
        split at read
        · cases read
        · next inner =>
          cases read
          exact distinct_ofMembers (h.members inner)
  · exact distinct_of_readScalar read

theorem items_succ (h : ReadsDistinct fuel)
    (read : readItems (fuel + 1) levels cs = .ok (items, rest)) :
    ItemsDistinct items := by
  rw [readItems] at read
  simp only [bind, Except.bind] at read
  split at read
  · cases read
  · next first =>
    split at read
    · cases read
      exact ⟨h.value first, trivial⟩
    · split at read
      · cases read
      · next later =>
        cases read
        exact ⟨h.value first, h.items later⟩
    · cases read

theorem members_succ (h : ReadsDistinct fuel)
    (read : readMembers (fuel + 1) levels cs = .ok (ms, rest)) :
    MembersDistinct ms := by
  unfold readMembers at read
  split at read
  · simp only [bind, Except.bind] at read
    split at read
    · cases read
    · split at read
      · split at read
        · cases read
        · next first =>
          split at read
          · cases read
            exact ⟨h.value first, trivial⟩
          · split at read
            · cases read
            · next later =>
              cases read
              exact ⟨h.value first, h.members later⟩
          · cases read
      · cases read
  · cases read

end ReadsDistinct

/-- Whatever is read repeats no name. -/
theorem readsDistinct (fuel : Nat) : ReadsDistinct fuel := by
  induction fuel with
  | zero => exact ⟨nofun, nofun, nofun⟩
  | succ fuel ih => exact ⟨ih.value_succ, ih.items_succ, ih.members_succ⟩

/-- A value that is read from a text has no object with a name twice. -/
theorem distinct_of_read {text : String} (read : Json.read text = .ok j) : j.Distinct := by
  have document := (readWithin_eq_ok_iff.1 read).2
  unfold readDocument at document
  simp only [bind, Except.bind] at document
  split at document
  · cases document
  · next front =>
    split at document
    · cases document
      exact (readsDistinct _).value front
    · cases document

end Json

end TokenBroker
