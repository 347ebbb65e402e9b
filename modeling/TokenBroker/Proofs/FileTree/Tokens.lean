import TokenBroker.FileTree.Basic
import TokenBroker.Proofs.Store.Tokens

/-!
# Trees whose stores have other tokens

Two trees differ in tokens at most if the same stands at every location, but for the entries of
stores, which differ in tokens at most. Paths lead to the same places
(`FileTree.SameButTokens.locate`), files read the same (`FileTree.SameButTokens.read`), and every
change is refused alike or leaves such trees.
-/

namespace TokenBroker

/-- Two nodes: one file, or directories in which the entries of stores differ in tokens at most. -/
inductive Node.SameButTokens : Node → Node → Prop
  | directory {t t' : Table Key Json} (values : t.Rel Store.SameButTokenValues t') :
      SameButTokens (.directory t) (.directory t')
  | file (content : List UInt8) (mode : Nat) :
      SameButTokens (.file content mode) (.file content mode)

namespace FileTree

/-- Two trees that differ in tokens of stores at most. -/
def SameButTokens (t t' : FileTree) : Prop := t.nodes.Rel Node.SameButTokens t'.nodes

namespace SameButTokens

variable {t t' : FileTree} {n n' : Node}

theorem refl (t : FileTree) : SameButTokens t t := by
  refine Table.rel_refl (fun n => ?_) t.nodes
  cases n with
  | directory values => exact .directory (Table.rel_refl .same values)
  | file content mode => exact .file content mode

/-! ## Places -/

/-- In the same place there are nodes that differ in the tokens only. -/
theorem at? (h : SameButTokens t t') (l : Location) : Option.Rel Node.SameButTokens (t.at? l)
    (t'.at? l) := by
  have found := h.get? l
  unfold FileTree.at?
  revert found
  generalize t.nodes.get? l = n, t'.nodes.get? l = n'
  rintro (⟨nodes⟩ | _)
  · exact .some nodes
  · simp only []
    split
    · exact .some (.directory .nil)
    · exact .none

/-- At a location nothing stands in both, or one file, or two directories. -/
theorem cases_at? (h : SameButTokens t t') (l : Location) :
    (t.at? l = none ∧ t'.at? l = none) ∨
      (∃ content mode, t.at? l = some (.file content mode) ∧ t'.at? l = some (.file content mode)) ∨
      ∃ values values', t.at? l = some (.directory values) ∧ t'.at? l = some (.directory values') ∧
        values.Rel Store.SameButTokenValues values' := by
  have found := h.at? l
  revert found
  generalize t.at? l = n, t'.at? l = n'
  rintro (⟨values | ⟨content, mode⟩⟩ | _)
  · exact .inr (.inr ⟨_, _, rfl, rfl, values⟩)
  · exact .inr (.inl ⟨content, mode, rfl, rfl⟩)
  · exact .inl ⟨rfl, rfl⟩

theorem put (h : SameButTokens t t') (l : Location) (nodes : n.SameButTokens n') :
    SameButTokens (t.put l n) (t'.put l n') := Table.Rel.put h l nodes

/-- The entries of the stores at a location differ in tokens at most. -/
theorem entries (h : SameButTokens t t') (l : Location) :
    Table.Rel Store.SameButTokenValues (t.entries l) (t'.entries l) := by
  unfold FileTree.entries
  rcases h.cases_at? l with ⟨none, none'⟩ | ⟨_, _, file, file'⟩
    | ⟨_, _, directory, directory', values⟩
  · rw [none, none']
    exact .nil
  · rw [file, file']
    exact .nil
  · rw [directory, directory']
    exact values

/-! ## Paths -/

theorem requireDirectory (h : SameButTokens t t') (l : Location) :
    t'.requireDirectory l = t.requireDirectory l := by
  unfold FileTree.requireDirectory
  rcases h.cases_at? l with ⟨found, found'⟩ | ⟨_, _, found, found'⟩ | ⟨_, _, found, found', -⟩ <;>
    rw [found, found']

/-- Paths lead to the same places, whatever tokens the caches hold. -/
theorem walk (h : SameButTokens t t') (l : Location) (parts : List String) :
    t'.walk l parts = t.walk l parts := by
  induction parts generalizing l with
  | nil => rfl
  | cons name rest ih => simp only [FileTree.walk, h.requireDirectory, ih]

theorem locate (h : SameButTokens t t') (here : Location) (p : Path) :
    t'.locate here p = t.locate here p := by
  simp only [FileTree.locate, h.walk]

theorem isFile (h : SameButTokens t t') (here : Location) (p : Path) :
    t'.isFile here p = t.isFile here p := by
  simp only [FileTree.isFile, h.locate]
  split
  · next l _ =>
    rcases h.cases_at? l with ⟨found, found'⟩ | ⟨_, _, found, found'⟩ | ⟨_, _, found, found', -⟩ <;>
      rw [found, found']
  · rfl
  · rfl

theorem node? (h : SameButTokens t t') (here : Location) (p : Path) :
    Option.Rel Node.SameButTokens (t.node? here p) (t'.node? here p) := by
  simp only [FileTree.node?, h.locate]
  cases t.locate here p with
  | error e => exact .none
  | ok l => exact h.at? l

theorem exists? (h : SameButTokens t t') (here : Location) (p : Path) :
    t'.exists? here p = t.exists? here p := by
  unfold FileTree.exists?
  rw [Option.isSome_of_rel (h.node? here p)]

theorem isDirectory (h : SameButTokens t t') (here : Location) (p : Path) :
    t'.isDirectory here p = t.isDirectory here p := by
  have found := h.node? here p
  unfold FileTree.isDirectory
  revert found
  generalize t.node? here p = n, t'.node? here p = n'
  rintro (⟨_ | _⟩ | _) <;> rfl

/-- A file reads the same, whatever tokens the caches hold. -/
theorem read (h : SameButTokens t t') (here : Location) (p : Path) :
    t'.read here p = t.read here p := by
  simp only [FileTree.read, h.locate, bind, Except.bind]
  cases t.locate here p with
  | error e => rfl
  | ok l =>
    simp only []
    rcases h.cases_at? l with ⟨found, found'⟩ | ⟨_, _, found, found'⟩ | ⟨_, _, found, found', -⟩ <;>
      rw [found, found']

/-! ## Changes -/

/-- A file is written in both trees, or in neither. -/
theorem write (h : SameButTokens t t') (here : Location) (p : Path) (content : List UInt8) :
    Except.Rel SameButTokens (t.write here p content) (t'.write here p content) := by
  simp only [FileTree.write, h.locate, bind, Except.bind]
  cases t.locate here p with
  | error e => exact .error e
  | ok l =>
    simp only []
    rcases h.cases_at? l with ⟨none, none'⟩ | ⟨_, _, file, file'⟩ | ⟨_, _, directory, directory', -⟩
    · rw [none, none']
      exact .ok (h.put l (.file _ _))
    · rw [file, file']
      exact .ok (h.put l (.file _ _))
    · rw [directory, directory']
      exact .error _

theorem makeDirectory (h : SameButTokens t t') (here : Location) (p : Path) :
    Except.Rel SameButTokens (t.makeDirectory here p) (t'.makeDirectory here p) := by
  simp only [FileTree.makeDirectory, h.locate, bind, Except.bind]
  cases t.locate here p with
  | error e => exact .error e
  | ok l =>
    simp only []
    rcases h.cases_at? l with ⟨none, none'⟩ | ⟨_, _, file, file'⟩ | ⟨_, _, directory, directory', -⟩
    · rw [none, none']
      exact .ok (h.put l (.directory .nil))
    · rw [file, file']
      exact .error _
    · rw [directory, directory']
      exact .error _

theorem ensureDirectory (h : SameButTokens t t') (here : Location) (p : Path) :
    Except.Rel SameButTokens (t.ensureDirectory here p) (t'.ensureDirectory here p) := by
  simp only [FileTree.ensureDirectory, h.isDirectory]
  rcases (h.makeDirectory here p).cases with ⟨e, failed, failed'⟩ | ⟨_, _, made, made', trees⟩
  · rw [failed, failed']
    simp only []
    split
    · exact .ok h
    · exact .error e
  · rw [made, made']
    exact .ok trees

theorem makeDirectoriesFrom (h : SameButTokens t t') (here : Location) (anchor : Anchor)
    (parts : List String) :
    SameButTokens (t.makeDirectoriesFrom here anchor parts).1
      (t'.makeDirectoriesFrom here anchor parts).1 ∧
      (t'.makeDirectoriesFrom here anchor parts).2 =
        (t.makeDirectoriesFrom here anchor parts).2 := by
  induction parts generalizing t t' with
  | nil =>
    unfold FileTree.makeDirectoriesFrom
    rcases (h.ensureDirectory here ⟨anchor, []⟩).cases with ⟨_, failed, failed'⟩
      | ⟨_, _, made, made', trees⟩
    · rw [failed, failed']
      exact ⟨h, rfl⟩
    · rw [made, made']
      exact ⟨trees, rfl⟩
  | cons name above ih =>
    let p : Path := ⟨anchor, (name :: above).reverse⟩
    simp only [FileTree.makeDirectoriesFrom]
    rcases (h.ensureDirectory here p).cases with ⟨e, failed, failed'⟩ | ⟨_, _, made, made', trees⟩
    · rw [failed, failed']
      cases e with
      | notFound =>
        -- the directories above are missing, and made first
        obtain ⟨trees, result⟩ := ih h
        simp only []
        revert trees result
        generalize t.makeDirectoriesFrom here anchor above = y,
          t'.makeDirectoriesFrom here anchor above = y'
        obtain ⟨t, r⟩ := y
        obtain ⟨t', r'⟩ := y'
        rintro trees rfl
        cases r' with
        | error e => exact ⟨trees, rfl⟩
        | ok _ =>
          simp only []
          rcases (SameButTokens.ensureDirectory trees here p).cases with
            ⟨_, failed, failed'⟩ | ⟨_, _, made, made', trees'⟩
          · rw [failed, failed']
            exact ⟨trees, rfl⟩
          · rw [made, made']
            exact ⟨trees', rfl⟩
      | _ => exact ⟨h, rfl⟩
    · rw [made, made']
      exact ⟨trees, rfl⟩

/-- The directories of a path are made in both trees. -/
theorem makeDirectories (h : SameButTokens t t') (here : Location) (p : Path) :
    SameButTokens (t.makeDirectories here p).1 (t'.makeDirectories here p).1 ∧
      (t'.makeDirectories here p).2 = (t.makeDirectories here p).2 :=
  h.makeDirectoriesFrom here p.anchor p.parts.reverse

theorem makeMissingFrom (h : SameButTokens t t') (here : Location) (anchor : Anchor)
    (parts : List String) :
    SameButTokens (t.makeMissingFrom here anchor parts).1 (t'.makeMissingFrom here anchor parts).1 ∧
      (t'.makeMissingFrom here anchor parts).2 = (t.makeMissingFrom here anchor parts).2 := by
  induction parts with
  | nil => exact ⟨h, rfl⟩
  | cons name above ih =>
    let before (t : FileTree) (skip : Bool) : FileTree × Except FileError Unit :=
      if skip then (t, .ok ()) else t.makeMissingFrom here anchor above
    have stopped (skip : Bool) : SameButTokens (before t skip).1 (before t' skip).1 ∧
        (before t' skip).2 = (before t skip).2 := by
      cases skip with
      | true => exact ⟨h, rfl⟩
      | false => exact ih
    simp only [FileTree.makeMissingFrom, h.exists?]
    obtain ⟨trees, result⟩ := stopped (above.isEmpty || t.exists? here ⟨anchor, above.reverse⟩)
    simp only [before] at trees result
    rw [result]
    rcases (SameButTokens.makeDirectory trees here ⟨anchor, (name :: above).reverse⟩).cases with
      ⟨e, failed, failed'⟩ | ⟨_, _, made, made', trees'⟩
    · simp only [failed, failed']
      split <;> exact ⟨trees, rfl⟩
    · simp only [made, made']
      split
      · exact ⟨trees', rfl⟩
      · exact ⟨trees', rfl⟩
      · exact ⟨trees, rfl⟩

/-- The directories that a path lacks are made in both trees. -/
theorem makeMissing (h : SameButTokens t t') (here : Location) (p : Path) :
    SameButTokens (t.makeMissing here p).1 (t'.makeMissing here p).1 ∧
      (t'.makeMissing here p).2 = (t.makeMissing here p).2 := by
  simp only [FileTree.makeMissing, h.isDirectory]
  split
  · exact ⟨h, rfl⟩
  · exact h.makeMissingFrom here p.anchor p.parts.reverse

end SameButTokens

end FileTree

end TokenBroker
