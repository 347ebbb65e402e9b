import TokenBroker.Host

/-!
# What making directories does to a file tree

Making a directory, with those above it that are missing, changes nothing but that there are new
directories, which hold no entries: whatever has stood somewhere stands there still
(`FileTree.Grown`). This is so however far it gets before it is refused
(`Host.makeDirectories_grown`).
-/

namespace TokenBroker

namespace FileTree

variable {t t' t'' : FileTree} {here l l' : Location} {n : Node} {p : Path}

/-! ## Single nodes -/

theorem at?_put_self (t : FileTree) (l : Location) (n : Node) : (t.put l n).at? l = some n := by
  simp [at?, put]

theorem at?_put_of_ne (h : l' ≠ l) (t : FileTree) (n : Node) : (t.put l n).at? l' = t.at? l' := by
  simp only [at?, put, Table.get?_put_of_ne h]

theorem at?_unlink_self (below : l ≠ []) (t : FileTree) : (t.unlink l).at? l = none := by
  simp [at?, unlink, below]

theorem at?_unlink_of_ne (h : l' ≠ l) (t : FileTree) : (t.unlink l).at? l' = t.at? l' := by
  simp only [at?, unlink, Table.get?_erase_of_ne h]

/-! ## New directories -/

/-- Nothing has changed but that there are new directories, without entries. -/
def Grown (t t' : FileTree) : Prop :=
  ∀ l, t'.at? l = t.at? l ∨ t.at? l = none ∧ t'.at? l = some (.directory [])

namespace Grown

theorem refl (t : FileTree) : t.Grown t := fun _ => .inl rfl

theorem trans (h : t.Grown t') (h' : t'.Grown t'') : t.Grown t'' := by
  intro l
  rcases h' l with same | ⟨nothing, made⟩
  · rcases h l with before | ⟨nothing, made⟩
    · exact .inl (same.trans before)
    · exact .inr ⟨nothing, same.trans made⟩
  · rcases h l with before | ⟨-, stands⟩
    · exact .inr ⟨before.symm.trans nothing, made⟩
    · rw [nothing] at stands
      cases stands

end Grown

/-- A tree grows by a directory in a free place. -/
theorem grown_put_directory (free : t.at? l = none) : t.Grown (t.put l (.directory [])) := by
  intro l'
  by_cases same : l' = l
  · rw [same]
    exact .inr ⟨free, at?_put_self t l _⟩
  · exact .inl (at?_put_of_ne same t _)

/-- A tree grows when a directory is made. -/
theorem makeDirectory_grown (made : t.makeDirectory here p = .ok t') : t.Grown t' := by
  simp only [makeDirectory, bind, Except.bind] at made
  cases located : t.locate here p with
  | error e =>
    rw [located] at made
    cases made
  | ok l =>
    simp only [located] at made
    cases stands : t.at? l with
    | some node =>
      simp only [stands] at made
      cases made
    | none =>
      simp only [stands] at made
      cases made
      exact grown_put_directory stands

/-- A tree grows at most when a directory is made sure of. -/
theorem ensureDirectory_grown (made : t.ensureDirectory here p = .ok t') : t.Grown t' := by
  unfold ensureDirectory at made
  cases fresh : t.makeDirectory here p with
  | ok tree =>
    rw [fresh] at made
    cases made
    exact makeDirectory_grown fresh
  | error e =>
    simp only [fresh] at made
    split at made
    · cases made
      exact .refl t
    · cases made

/-- By induction on the components, of which the last one comes first. -/
theorem makeDirectoriesFrom_grown (t : FileTree) (here : Location) (anchor : Anchor)
    (parts : List String) :
    t.Grown (t.makeDirectoriesFrom here anchor parts).1 := by
  induction parts generalizing t with
  | nil =>
    unfold makeDirectoriesFrom
    cases made : t.ensureDirectory here ⟨anchor, []⟩ with
    | ok tree => exact ensureDirectory_grown made
    | error e => exact .refl t
  | cons name above ih =>
    simp only [makeDirectoriesFrom]
    cases made : t.ensureDirectory here ⟨anchor, (name :: above).reverse⟩ with
    | ok tree => exact ensureDirectory_grown made
    | error e =>
      cases e with
      | notFound =>
        have upper := ih t
        revert upper
        rcases t.makeDirectoriesFrom here anchor above with ⟨tree, e | _⟩
        · exact id
        · intro upper
          simp only []
          cases last : tree.ensureDirectory here ⟨anchor, (name :: above).reverse⟩ with
          | ok tree' => exact upper.trans (ensureDirectory_grown last)
          | error e => exact upper
      | _ => exact .refl t

/-- A tree grows at most when the directories of a path are made. -/
theorem makeDirectories_grown (t : FileTree) (here : Location) (p : Path) :
    t.Grown (t.makeDirectories here p).1 :=
  makeDirectoriesFrom_grown t here p.anchor p.parts.reverse

end FileTree

theorem Host.makeDirectories_grown (h : Host) (p : Path) :
    h.tree.Grown (h.makeDirectories p).1 := by
  unfold Host.makeDirectories
  split
  · exact FileTree.makeDirectories_grown h.tree h.here p
  · exact FileTree.makeDirectories_grown h.tree h.here _

end TokenBroker
