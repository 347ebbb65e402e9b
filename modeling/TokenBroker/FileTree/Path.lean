/-!
# Paths

A path as it is written: whether it starts at the root, and its components. Empty components and `.`
are left out when a path is read, `..` is kept. `text` writes a path and `ofText` reads one.
-/

namespace TokenBroker

/-- Where a path starts. Two slashes are told apart from one. -/
inductive Anchor
  | here
  | root
  | doubleRoot
  deriving DecidableEq, Repr

/-- A path. -/
structure Path where
  anchor : Anchor := .here
  parts : List String := []
  deriving DecidableEq, Repr

namespace Path

/-- The anchor as it is written. -/
def anchorText : Anchor → String
  | .here => ""
  | .root => "/"
  | .doubleRoot => "//"

/-- The anchor of a text. -/
def anchorOf : List Char → Anchor
  | '/' :: '/' :: '/' :: _ => .root
  | '/' :: '/' :: _ => .doubleRoot
  | '/' :: _ => .root
  | _ => .here

/-- The components of a text. -/
def partsOf (cs : List Char) : List String :=
  ((cs.splitOnP (· = '/')).map String.ofList).filter fun s => s ≠ "" && s ≠ "."

/-- The path of a text. -/
def ofText (s : String) : Path :=
  ⟨anchorOf s.toList, partsOf s.toList⟩

/-- The text of a path; the path of nothing is `.`. -/
def text (p : Path) : String :=
  let s := anchorText p.anchor ++ "/".intercalate p.parts
  if s = "" then "." else s

/-- The path of a name below a path. -/
def child (p : Path) (name : String) : Path := { p with parts := p.parts ++ [name] }

/-- The path without its last component. -/
def parent (p : Path) : Path := { p with parts := p.parts.dropLast }

/-- The last component. -/
def name (p : Path) : String := p.parts.getLast?.getD ""

@[simp] theorem parent_child (p : Path) (name : String) : (p.child name).parent = p := by
  simp [parent, child]

@[simp] theorem name_child (p : Path) (s : String) : (p.child s).name = s := by
  simp [name, child]

end Path

end TokenBroker
