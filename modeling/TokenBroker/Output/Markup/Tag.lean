/-!
# Tags

Diagnostics may hold tags in square brackets. A tag starts with a small letter, `#`, `/` or `@` and
goes on to the next closing bracket; any other bracket is text, and a backslash before a bracket
makes it text.
-/

namespace TokenBroker

namespace Markup

/-- A tag: its name, what follows the first `=` in it, and where it starts. -/
structure Tag where
  name : List Char
  parameters : Option (List Char)
  position : Nat
  deriving DecidableEq, Repr

/-- A tag as it is written. -/
def Tag.text (t : Tag) : String :=
  String.ofList ('[' :: t.name ++ (match t.parameters with
    | some p => '=' :: p
    | none => []) ++ [']'])

/-- A part of a marked-up text. -/
inductive Piece
  | text (cs : List Char)
  | tag (t : Tag)
  deriving DecidableEq, Repr

/-- The characters with which a tag starts. -/
def startsTag (c : Char) : Bool := c.isLower || c = '#' || c = '/' || c = '@'

/-- What a tag holds up to its closing bracket, if a tag stands after an opening bracket, and the
text after it. -/
def body? : List Char → Option (List Char × List Char)
  | [] => none
  | c :: cs =>
    if startsTag c then
      match cs.dropWhile fun c => c ≠ '[' && c ≠ ']' with
      | ']' :: rest => some (c :: cs.takeWhile (fun c => c ≠ '[' && c ≠ ']'), rest)
      | _ => none
    else none

theorem body?_shorter {cs body rest : List Char} (h : body? cs = some (body, rest)) :
    rest.length < cs.length := by
  unfold body? at h
  split at h
  · cases h
  · rename_i c cs
    split at h
    · split at h
      · rename_i r hd
        have hle := (List.dropWhile_suffix (fun c => c ≠ '[' && c ≠ ']') (l :=
          cs)).sublist.length_le
        rw [hd] at hle
        simp only [Option.some.injEq, Prod.mk.injEq] at h
        rw [← h.2]
        simp only [List.length_cons] at hle ⊢
        omega
      · cases h
    · cases h

/-- The tag of what stands between its brackets. -/
def tagOf (body : List Char) (position : Nat) : Tag :=
  match body.dropWhile (· ≠ '=') with
  | _ :: parameters => ⟨body.takeWhile (· ≠ '='), some parameters, position⟩
  | [] => ⟨body, none, position⟩

/-- A text in which a backslash before an opening bracket is left out. -/
def unescaped : List Char → List Char
  | '\\' :: '[' :: cs => '[' :: unescaped cs
  | c :: cs => c :: unescaped cs
  | [] => []

/-- The pieces of a text that goes on at a position, after the reversed text `run` since the last
tag and some backslashes. Of the backslashes before a tag each pair stands for one; an odd one makes
the tag text. -/
def piecesFrom (position : Nat) (run : List Char) (slashes : Nat) (cs : List Char) : List Piece :=
  match cs with
  | [] => [.text (unescaped (run.reverse ++ List.replicate slashes '\\'))]
  | '\\' :: rest => piecesFrom (position + 1) run (slashes + 1) rest
  | '[' :: rest =>
    match h : body? rest with
    | some (body, after) =>
      have := body?_shorter h
      let next := position + body.length + 2
      let tag : Piece := if slashes % 2 = 1 then .text ('[' :: body ++ [']']) else .tag
        (tagOf body position)
      .text (unescaped run.reverse) :: .text (List.replicate (slashes / 2) '\\') :: tag ::
        piecesFrom next [] 0 after
    | none => piecesFrom (position + 1) ('[' :: List.replicate slashes '\\' ++ run) 0 rest
  | c :: rest => piecesFrom (position + 1) (c :: List.replicate slashes '\\' ++ run) 0 rest
termination_by cs.length
decreasing_by
  all_goals simp_wf
  all_goals omega

/-- The pieces of a text. -/
def pieces (cs : List Char) : List Piece := piecesFrom 0 [] 0 cs

end Markup

end TokenBroker
