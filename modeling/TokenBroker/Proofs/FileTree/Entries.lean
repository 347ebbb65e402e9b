import TokenBroker.Proofs.FileTree.Growing

/-!
# What is kept of stores in a file tree

Making directories and writing files leaves the entries of every store as they are
(`FileTree.Grown.sameEntries`, `FileTree.write_sameEntries`): a new directory is one without entries
where nothing has stood, and no directory is overwritten by a file.
-/

namespace TokenBroker

namespace FileTree

variable {t t' t'' : FileTree} {here l l' : Location} {n : Node} {p : Path} {content : List UInt8}

@[simp] theorem entries_put_self (t : FileTree) (l : Location) (entries : Table Key Json) :
    (t.put l (.directory entries)).entries l = entries := by
  simp only [FileTree.entries, at?_put_self]

theorem entries_put_of_ne (h : l' ≠ l) (t : FileTree) (n : Node) :
    (t.put l n).entries l' = t.entries l' := by
  simp only [entries, at?_put_of_ne h]

/-- Every store is kept as it is. -/
def SameEntries (t t' : FileTree) : Prop := ∀ l, t'.entries l = t.entries l

theorem SameEntries.refl (t : FileTree) : t.SameEntries t := fun _ => rfl

theorem SameEntries.trans (h : t.SameEntries t') (h' : t'.SameEntries t'') : t.SameEntries t'' :=
  fun l => (h' l).trans (h l)

/-- A place that holds no entries can get a node without entries. -/
theorem sameEntries_put (before : t.entries l = []) (after : (t.put l n).entries l = []) :
    t.SameEntries (t.put l n) := by
  intro l'
  by_cases same : l' = l
  · rw [same, before, after]
  · exact entries_put_of_ne same t n

/-- Writing a file leaves the entries of the caches as they are. -/
theorem write_sameEntries (written : t.write here p content = .ok t') : t.SameEntries t' := by
  simp only [write, bind, Except.bind] at written
  cases located : t.locate here p with
  | error e =>
    rw [located] at written
    cases written
  | ok l =>
    simp only [located] at written
    have file (mode : Nat) : (t.put l (.file content mode)).entries l = [] := by
      simp only [entries, at?_put_self]
    cases stands : t.at? l with
    | none =>
      simp only [stands] at written
      cases written
      exact sameEntries_put (by simp only [entries, stands]) (file _)
    | some node =>
      cases node with
      | directory entries =>
        simp only [stands] at written
        cases written
      | file old mode =>
        simp only [stands] at written
        cases written
        exact sameEntries_put (by simp only [entries, stands]) (file _)

/-- New directories hold no entries. -/
theorem Grown.sameEntries (h : t.Grown t') : t.SameEntries t' := by
  intro l
  unfold entries
  rcases h l with same | ⟨nothing, made⟩
  · rw [same]
  · rw [nothing, made]

end FileTree

end TokenBroker
