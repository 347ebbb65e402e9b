import TokenBroker.Decimal.Binary64

/-!
# JSON values

Values with exact integers, binary floating-point numbers apart from them, and objects whose members
keep their order. `ofMembers` gives an object from written members: the last value of a name wins
and stands where the name stood first.
-/

namespace TokenBroker

/-- A JSON value. -/
inductive Json
  | null
  | bool (b : Bool)
  | int (n : Int)
  | float (x : Binary64)
  | str (s : String)
  | arr (items : List Json)
  | obj (members : List (String × Json))
  deriving Inhabited

namespace Json

/-- The members with the value of a name replaced, or added at the end. -/
def setMember (name : String) (value : Json) : List (String × Json) → List (String × Json)
  | [] => [(name, value)]
  | (n, v) :: rest => if n = name then (n, value) :: rest else (n, v) :: setMember name value rest

/-- The object of members as written. -/
def ofMembers (members : List (String × Json)) : Json :=
  .obj (members.foldl (fun acc (name, value) => setMember name value acc) [])

/-- The value of a name among members. -/
def lookup? (name : String) (members : List (String × Json)) : Option Json :=
  (members.find? (·.1 = name)).map (·.2)

/-- The members of an object, and none for other values. -/
def members : Json → List (String × Json)
  | .obj ms => ms
  | _ => []

/-- The value of a member of an object. -/
def get? (name : String) (j : Json) : Option Json :=
  lookup? name j.members

/-- A text, or null. -/
def ofOption : Option String → Json
  | none => .null
  | some s => .str s

/-- An array of texts. -/
def ofStrings (ss : List String) : Json := .arr (ss.map .str)

@[simp] theorem lookup?_setMember_self (name : String) (value : Json) (ms : List (String × Json)) :
    lookup? name (setMember name value ms) = some value := by
  induction ms with
  | nil => simp [setMember, lookup?]
  | cons m rest ih =>
    obtain ⟨n, v⟩ := m
    by_cases h : n = name
    · simp [setMember, lookup?, h]
    · simpa [setMember, lookup?, h] using ih

theorem lookup?_setMember_of_ne {name other : String} (h : other ≠ name) (value : Json)
    (ms : List (String × Json)) :
    lookup? other (setMember name value ms) = lookup? other ms := by
  induction ms with
  | nil => simp [setMember, lookup?, Ne.symm h]
  | cons m rest ih =>
    obtain ⟨n, v⟩ := m
    by_cases hn : n = name
    · subst hn; simp [setMember, lookup?, Ne.symm h]
    · by_cases ho : n = other
      · subst ho; simp [setMember, lookup?, hn]
      · simpa [setMember, lookup?, hn, ho] using ih

end Json

end TokenBroker
