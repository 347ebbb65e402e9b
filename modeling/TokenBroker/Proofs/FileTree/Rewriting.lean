import TokenBroker.FileTree.Basic

/-!
# Trees with other contents

A rewriting gives the files of a tree other contents and leaves everything else: what stands where,
the directories with the entries of their stores, and permissions. Paths lead to the same places
(`FileTree.locate_rewrite`), directories are made alike (`FileTree.makeDirectories_rewrite`), and a
file whose content is left alone reads the same (`FileTree.read_rewrite`).
-/

namespace TokenBroker

/-- A node with another content, if it is a file. -/
def Node.rewrite (f : List UInt8 → List UInt8) : Node → Node
  | .directory entries => .directory entries
  | .file content mode => .file (f content) mode

namespace FileTree

variable (g : Location → List UInt8 → List UInt8)

/-- A tree whose files have other contents. -/
def rewrite (t : FileTree) : FileTree := ⟨t.nodes.map fun e => (e.1, e.2.rewrite (g e.1))⟩

theorem get?_rewrite (t : FileTree) (l : Location) :
    (t.rewrite g).nodes.get? l = (t.nodes.get? l).map (Node.rewrite (g l)) := by
  obtain ⟨nodes⟩ := t
  simp only [rewrite]
  induction nodes with
  | nil => rfl
  | cons e nodes ih =>
    obtain ⟨l', n⟩ := e
    rw [List.map_cons, Table.get?_cons, Table.get?_cons, ih]
    by_cases same : l' = l
    · subst same
      simp
    · simp [same]

/-- A place holds what it held, rewritten. -/
theorem at?_rewrite (t : FileTree) (l : Location) :
    (t.rewrite g).at? l = (t.at? l).map (Node.rewrite (g l)) := by
  unfold at?
  rw [get?_rewrite]
  cases t.nodes.get? l with
  | some n => rfl
  | none =>
    simp only [Option.map_none]
    split <;> rfl

theorem put_rewrite (t : FileTree) (l : Location) (entries : Table Key Json) :
    (t.rewrite g).put l (.directory entries) = (t.put l (.directory entries)).rewrite g := by
  obtain ⟨nodes⟩ := t
  simp only [rewrite, put, FileTree.mk.injEq]
  induction nodes with
  | nil => rfl
  | cons e nodes ih =>
    obtain ⟨l', n⟩ := e
    by_cases same : l' = l
    · simp [Table.put, same, Node.rewrite]
    · simp [Table.put, same, ih]

/-! ## Paths -/

theorem requireDirectory_rewrite (t : FileTree) (l : Location) :
    (t.rewrite g).requireDirectory l = t.requireDirectory l := by
  unfold requireDirectory
  rw [at?_rewrite]
  rcases t.at? l with _ | _ | _ <;> rfl

/-- Paths lead to the same places, whatever the files hold. -/
theorem walk_rewrite (t : FileTree) (l : Location) (parts : List String) :
    (t.rewrite g).walk l parts = t.walk l parts := by
  induction parts generalizing l with
  | nil => rfl
  | cons name rest ih => simp only [walk, requireDirectory_rewrite, ih]

@[simp] theorem locate_rewrite (t : FileTree) (here : Location) (p : Path) :
    (t.rewrite g).locate here p = t.locate here p := by
  simp only [locate, walk_rewrite]

@[simp] theorem isFile_rewrite (t : FileTree) (here : Location) (p : Path) :
    (t.rewrite g).isFile here p = t.isFile here p := by
  simp only [isFile, locate_rewrite]
  split
  · rw [at?_rewrite]
    rcases t.at? _ with _ | _ | _ <;> rfl
  · rfl
  · rfl

@[simp] theorem isDirectory_rewrite (t : FileTree) (here : Location) (p : Path) :
    (t.rewrite g).isDirectory here p = t.isDirectory here p := by
  simp only [isDirectory, node?, locate_rewrite]
  cases t.locate here p with
  | error e => rfl
  | ok l =>
    simp only [at?_rewrite]
    rcases t.at? l with _ | _ | _ <;> rfl

/-- A file that keeps its content reads as before. -/
theorem read_rewrite {t : FileTree} {here : Location} {p : Path}
    (kept : ∀ l, t.locate here p = .ok l → ∀ content, g l content = content) :
    (t.rewrite g).read here p = t.read here p := by
  simp only [read, locate_rewrite, bind, Except.bind]
  cases located : t.locate here p with
  | error e => rfl
  | ok l =>
    simp only [at?_rewrite]
    rcases t.at? l with _ | _ | ⟨content, mode⟩
    · rfl
    · rfl
    · simp only [Option.map_some, Node.rewrite, kept l located content]

/-- A file can be written, or is refused, whatever the files contain. -/
theorem write_rewrite (t : FileTree) (here : Location) (p : Path) (content : List UInt8) :
    ((t.rewrite g).write here p content).map (fun _ => ()) = (t.write here p content).map
      (fun _ => ()) := by
  simp only [write, locate_rewrite, bind, Except.bind]
  cases t.locate here p with
  | error e => rfl
  | ok l =>
    simp only [at?_rewrite]
    rcases t.at? l with _ | _ | _ <;> rfl

/-! ## Making directories -/

/-- A directory is made whatever the files hold. -/
theorem makeDirectory_rewrite (t : FileTree) (here : Location) (p : Path) :
    (t.rewrite g).makeDirectory here p = (t.makeDirectory here p).map (rewrite g) := by
  simp only [makeDirectory, locate_rewrite, bind, Except.bind]
  cases t.locate here p with
  | error e => rfl
  | ok l =>
    simp only [at?_rewrite]
    cases t.at? l with
    | some n => rfl
    | none => simp only [Option.map_none, put_rewrite, Except.map]

theorem ensureDirectory_rewrite (t : FileTree) (here : Location) (p : Path) :
    (t.rewrite g).ensureDirectory here p = (t.ensureDirectory here p).map (rewrite g) := by
  simp only [ensureDirectory, makeDirectory_rewrite, isDirectory_rewrite]
  cases t.makeDirectory here p with
  | ok t => rfl
  | error e =>
    simp only [Except.map]
    split <;> rfl

theorem makeDirectoriesFrom_rewrite (t : FileTree) (here : Location) (anchor : Anchor)
    (parts : List String) :
    (t.rewrite g).makeDirectoriesFrom here anchor parts =
      ((t.makeDirectoriesFrom here anchor parts).1.rewrite g,
        (t.makeDirectoriesFrom here anchor parts).2) := by
  induction parts generalizing t with
  | nil =>
    simp only [makeDirectoriesFrom, ensureDirectory_rewrite]
    cases t.ensureDirectory here ⟨anchor, []⟩ <;> rfl
  | cons name above ih =>
    simp only [makeDirectoriesFrom, ensureDirectory_rewrite]
    cases t.ensureDirectory here ⟨anchor, (name :: above).reverse⟩ with
    | ok t => rfl
    | error e =>
      cases e with
      | notFound =>
        simp only [Except.map, ih]
        rcases t.makeDirectoriesFrom here anchor above with ⟨t', _ | _⟩
        · rfl
        · simp only [ensureDirectory_rewrite]
          cases t'.ensureDirectory here ⟨anchor, (name :: above).reverse⟩ <;> rfl
      | _ => rfl

/-- The directories of a path are made whatever the files hold. -/
theorem makeDirectories_rewrite (t : FileTree) (here : Location) (p : Path) :
    (t.rewrite g).makeDirectories here p =
      ((t.makeDirectories here p).1.rewrite g, (t.makeDirectories here p).2) :=
  makeDirectoriesFrom_rewrite g t here p.anchor p.parts.reverse

end FileTree

end TokenBroker
