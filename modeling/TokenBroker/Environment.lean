import TokenBroker.Store.Table
import TokenBroker.Text.Digit

/-!
# Environment variables

The variables by name, what they say of the screen, and the text in which they are named by `$name`
or `${name}`.
-/

namespace TokenBroker

/-- Variables by name. -/
abbrev Environment := Table String String

namespace Environment

/-- The value of a variable that is set to something. -/
def given? (env : Environment) (name : String) : Option String :=
  (env.get? name).filter (· ≠ "")

/-- Whether the environment asks for output without colour: `NO_COLOR` set to anything, or a
terminal that is `dumb`. -/
def refusesColor (env : Environment) : Bool :=
  (env.get? "NO_COLOR").isSome || env.get? "TERM" == some "dumb"

/-- Whether output is taken to go to a terminal: where the environment does not say, it is
`terminal`. -/
def assumesTerminal (env : Environment) (terminal : Bool) : Bool :=
  match env.get? "TTY_COMPATIBLE", env.get? "FORCE_COLOR" with
  | some "0", _ => false
  | some "1", _ => true
  | _, some s => s ≠ ""
  | _, none => terminal

/-- The columns of a line where nothing tells their number. -/
def usualColumns : Nat := 80

/-- The columns of a line: `COLUMNS`, if that is a number, or those of the terminal. -/
def columns (env : Environment) (terminal : Option Nat) : Nat :=
  match (env.given? "COLUMNS").bind fun s => s.toList.mapM Text.digitValue? with
  | some ds => Text.ofDigits ds
  | none => (terminal.filter (· ≠ 0)).getD usualColumns

/-- The characters of which a bare name consists. -/
def isNameChar (c : Char) : Bool := c.isAlphanum || c = '_'

/-- The name that stands after a `$`, and the rest of the text. -/
def nameAt? : List Char → Option (List Char × List Char)
  | '\x7b' :: cs =>
    match cs.dropWhile (· ≠ '\x7d') with
    | _ :: rest => some (cs.takeWhile (· ≠ '\x7d'), rest)
    | [] => none
  | cs =>
    match cs.takeWhile isNameChar with
    | [] => none
    | name => some (name, cs.dropWhile isNameChar)

theorem length_dropWhile_le {α : Type} (p : α → Bool) (l : List α) :
    (l.dropWhile p).length ≤ l.length := (List.dropWhile_suffix p).sublist.length_le

theorem nameAt?_shorter {cs name rest : List Char} (h : nameAt? cs = some (name, rest)) :
    rest.length ≤ cs.length := by
  unfold nameAt? at h
  split at h
  · rename_i cs
    split at h
    · rename_i c r hd
      have := length_dropWhile_le (· ≠ '\x7d') cs
      simp only [Option.some.injEq, Prod.mk.injEq] at h
      rw [hd] at this
      simp only [List.length_cons] at this ⊢
      rw [← h.2]
      omega
    · cases h
  · split at h
    · cases h
    · simp only [Option.some.injEq, Prod.mk.injEq] at h
      rw [← h.2]
      exact length_dropWhile_le _ _

/-- The text with the values of the variables that it names; names that are not set stay. -/
def expandChars (env : Environment) (cs : List Char) : List Char :=
  match cs with
  | [] => []
  | '$' :: rest =>
    match h : nameAt? rest with
    | none => '$' :: expandChars env rest
    | some (name, after) =>
      have := nameAt?_shorter h
      let value := match env.get? (String.ofList name) with
        | some v => v.toList
        | none => ('$' :: rest).take (rest.length + 1 - after.length)
      value ++ expandChars env after
  | c :: rest => c :: expandChars env rest
termination_by cs.length
decreasing_by
  all_goals simp_wf
  all_goals omega

/-- The text with the values of the variables that it names. -/
def expand (env : Environment) (s : String) : String :=
  String.ofList (expandChars env s.toList)

end Environment

end TokenBroker
