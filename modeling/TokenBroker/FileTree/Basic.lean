import TokenBroker.FileTree.Path
import TokenBroker.Store.Table
import TokenBroker.Failure
import TokenBroker.Token

/-!
# File trees

Directories and files by their locations, which are the lists of names that lead to them from the
root. `walk` follows a path from a location; `node?` looks at what is there; the other operations
change the tree as a file system does, or are refused. A directory can hold the entries of a store
besides what stands below it. A path with a NUL never gets as far as the file system, one with too
many bytes is refused before it is followed, and one with too long a name where the name is looked
up.
-/

namespace TokenBroker

/-- The names that lead from the root to a place. -/
abbrev Location := List String

/-- What stands at a location. -/
inductive Node
  /-- A directory, with the entries of the store that is kept in it. -/
  | directory (entries : Table Key Json)
  /-- A file, with its bytes and its permissions. -/
  | file (content : List UInt8) (mode : Nat)

/-- A tree of directories and files. The root is a directory. -/
structure FileTree where
  nodes : Table Location Node := []

namespace FileTree

/-- What stands at a location. -/
def at? (t : FileTree) (l : Location) : Option Node :=
  match t.nodes.get? l with
  | some n => some n
  | none => if l = [] then some (.directory []) else none

/-- The tree with a node set. -/
def put (t : FileTree) (l : Location) (n : Node) : FileTree := ⟨t.nodes.put l n⟩

/-- The tree without a location and all below it. -/
def delete (t : FileTree) (l : Location) : FileTree := ⟨t.nodes.filter fun e => !l.isPrefixOf e.1⟩

/-- The tree without a file. -/
def unlink (t : FileTree) (l : Location) : FileTree := ⟨t.nodes.erase l⟩

/-- Refuses a location that is no directory. -/
def requireDirectory (t : FileTree) (l : Location) : Except FileError Unit :=
  match t.at? l with
  | some (.directory _) => .ok ()
  | some (.file ..) => .error .notADirectory
  | none => .error .notFound

/-- The number of bytes that a name may have. -/
def longestName : Nat := 255

/-- The number of bytes from which on a path is too long. -/
def pathLimit : Nat := 4096

/-- The location to which components lead from a location. All on the way have to be directories;
the last one may be missing. -/
def walk (t : FileTree) (l : Location) : List String → Except FileError Location
  | [] => .ok l
  | name :: rest => do
    t.requireDirectory l
    if longestName < name.utf8ByteSize then throw .nameTooLong
    t.walk (if name = ".." then l.dropLast else l ++ [name]) rest

/-- Refuses a path that cannot be followed whatever the tree holds. -/
def checkPath (p : Path) : Except FileError Unit :=
  if p.text.toList.contains '\x00' then .error .nullByte
  else if pathLimit ≤ p.text.utf8ByteSize then .error .nameTooLong
  else .ok ()

/-- The location of a path for a program that works in a directory. -/
def locate (t : FileTree) (here : Location) (p : Path) : Except FileError Location := do
  checkPath p
  t.walk (if p.anchor = .here then here else []) p.parts

/-- What stands at a path. -/
def node? (t : FileTree) (here : Location) (p : Path) : Option Node :=
  match t.locate here p with
  | .ok l => t.at? l
  | .error _ => none

/-- Whether anything stands at a path. -/
def exists? (t : FileTree) (here : Location) (p : Path) : Bool := (t.node? here p).isSome

/-- Whether a path leads to a file. That cannot be said of one that is too long. -/
def isFile (t : FileTree) (here : Location) (p : Path) : Except FileError Bool :=
  match t.locate here p with
  | .ok l =>
    match t.at? l with
    | some (.file ..) => .ok true
    | _ => .ok false
  | .error .nameTooLong => .error .nameTooLong
  | .error _ => .ok false

/-- Whether a path leads to a directory. -/
def isDirectory (t : FileTree) (here : Location) (p : Path) : Bool :=
  match t.node? here p with
  | some (.directory _) => true
  | _ => false

/-- The bytes of a file. -/
def read (t : FileTree) (here : Location) (p : Path) : Except FileError (List UInt8) := do
  match t.at? (← t.locate here p) with
  | some (.file content _) => .ok content
  | some (.directory _) => .error .isADirectory
  | none => .error .notFound

/-- The permissions of a new file that asks for none. -/
def defaultMode : Nat := 0o644

/-- Writes a file; one that exists keeps its permissions. -/
def write (t : FileTree) (here : Location) (p : Path) (content : List UInt8) :
    Except FileError FileTree := do
  let l ← t.locate here p
  match t.at? l with
  | some (.file _ mode) => .ok (t.put l (.file content mode))
  | some (.directory _) => .error .isADirectory
  | none => .ok (t.put l (.file content defaultMode))

/-- Makes a directory below one that exists. -/
def makeDirectory (t : FileTree) (here : Location) (p : Path) : Except FileError FileTree := do
  let l ← t.locate here p
  match t.at? l with
  | some _ => .error .exists
  | none => .ok (t.put l (.directory []))

/-- Makes a directory unless it exists. -/
def ensureDirectory (t : FileTree) (here : Location) (p : Path) : Except FileError FileTree :=
  match t.makeDirectory here p with
  | .ok t => .ok t
  | .error e => if t.isDirectory here p then .ok t else .error e

/-- Makes a directory and those above it that are missing; the components are given last one first.
What has been made before a refusal stays. -/
def makeDirectoriesFrom (t : FileTree) (here : Location) (anchor : Anchor) :
    List String → FileTree × Except FileError Unit
  | [] =>
    match t.ensureDirectory here ⟨anchor, []⟩ with
    | .ok t => (t, .ok ())
    | .error e => (t, .error e)
  | name :: above =>
    let p : Path := ⟨anchor, (name :: above).reverse⟩
    match t.ensureDirectory here p with
    | .ok t => (t, .ok ())
    | .error .notFound =>
      match t.makeDirectoriesFrom here anchor above with
      | (t, .error e) => (t, .error e)
      | (t, .ok ()) =>
        match t.ensureDirectory here p with
        | .ok t => (t, .ok ())
        | .error e => (t, .error e)
    | .error e => (t, .error e)

/-- Makes a directory and those above it that are missing. -/
def makeDirectories (t : FileTree) (here : Location) (p : Path) :
    FileTree × Except FileError Unit :=
  t.makeDirectoriesFrom here p.anchor p.parts.reverse

/-- Makes a directory, and before it, from the top, those above it where nothing stands; the
components are given last one first. One above that turns out to stand there is no trouble. -/
def makeMissingFrom (t : FileTree) (here : Location) (anchor : Anchor) :
    List String → FileTree × Except FileError Unit
  | [] => (t, .error .exists)
  | name :: above =>
    let (t, result) :=
      if above.isEmpty || t.exists? here ⟨anchor, above.reverse⟩ then (t, .ok ())
      else t.makeMissingFrom here anchor above
    match result with
    | .ok () | .error .exists =>
      match t.makeDirectory here ⟨anchor, (name :: above).reverse⟩ with
      | .ok t => (t, .ok ())
      | .error e => (t, .error e)
    | .error e => (t, .error e)

/-- Makes a directory, if it is missing, and before it, from the top, those above it that are
missing. -/
def makeMissing (t : FileTree) (here : Location) (p : Path) : FileTree × Except FileError Unit :=
  if t.isDirectory here p then (t, .ok ()) else t.makeMissingFrom here p.anchor p.parts.reverse

/-- Moves a file in place of another file or to where nothing is. -/
def replace (t : FileTree) (source target : Location) : Except FileError FileTree :=
  match t.at? source, t.at? target with
  | some (.file ..), some (.directory _) => .error .isADirectory
  | some (.file content mode), _ => .ok ⟨(t.nodes.erase source).put target (.file content mode)⟩
  | _, _ => .error .notFound

/-- The entries of the store that is kept at a location. -/
def entries (t : FileTree) (l : Location) : Table Key Json :=
  match t.at? l with
  | some (.directory entries) => entries
  | _ => []

end FileTree

end TokenBroker
