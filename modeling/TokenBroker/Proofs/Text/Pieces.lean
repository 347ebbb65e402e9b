/-!
# Pieces of texts

The pieces of a text between separators hold what the text holds, apart from the separators.
-/

namespace TokenBroker

variable {c : Char} {cs piece : List Char}

/-- What stands in a piece is no separator, and stands in the text. -/
theorem ne_and_mem_of_mem_splitOn (h : piece ∈ cs.splitOn c) : ∀ d ∈ piece, d ≠ c ∧ d ∈ cs := by
  induction cs generalizing piece with
  | nil =>
    rw [List.splitOn_nil, List.mem_singleton] at h
    rw [h]
    exact nofun
  | cons e cs ih =>
    have later {piece : List Char} (h : piece ∈ cs.splitOn c) : ∀ d ∈ piece, d ≠ c ∧ d ∈ e :: cs :=
      fun d inside => ⟨(ih h d inside).1, List.mem_cons_of_mem _ (ih h d inside).2⟩
    rw [List.splitOn_cons_eq_if_modifyHead] at h
    split at h
    · rcases List.mem_cons.1 h with rfl | h
      · exact nofun
      · exact later h
    · next other =>
      cases pieces : cs.splitOn c with
      | nil => exact absurd pieces (List.splitOn_ne_nil c cs)
      | cons first rest =>
        rw [pieces, List.modifyHead_cons] at h
        rcases List.mem_cons.1 h with rfl | h
        · have own : e ≠ c ∧ e ∈ e :: cs :=
            ⟨fun same => other (beq_iff_eq.2 same), List.mem_cons_self⟩
          exact List.forall_mem_cons.2 ⟨own, later (pieces ▸ List.mem_cons_self)⟩
        · exact later (pieces ▸ List.mem_cons_of_mem _ h)

/-- Where separators do not count, the pieces are as good as the text. -/
theorem filter_flatten_splitOn {p : Char → Bool} (unseen : p c = false) (cs : List Char) :
    (cs.splitOn c).flatten.filter p = cs.filter p := by
  induction cs with
  | nil => rfl
  | cons d cs ih =>
    rw [List.splitOn_cons_eq_if_modifyHead]
    split
    · next same =>
      rw [List.flatten_cons, List.nil_append, ih, beq_iff_eq.1 same,
        List.filter_cons_of_neg (by simp [unseen])]
    · cases pieces : cs.splitOn c with
      | nil => exact absurd pieces (List.splitOn_ne_nil c cs)
      | cons first rest =>
        rw [pieces] at ih
        rw [List.modifyHead_cons, List.flatten_cons, List.cons_append, ← List.flatten_cons,
          List.filter_cons, List.filter_cons, ih]

end TokenBroker
