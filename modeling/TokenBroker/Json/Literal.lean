import TokenBroker.Json.Printer

/-!
# JSON values as literals

The notation in which values stand inside messages and plain output: quoted literals for strings,
named constants, and brackets around items separated by a comma and a blank. `Json.text` leaves out
the quotes of a value that is a string itself.
-/

namespace TokenBroker

namespace Json

mutual

/-- A value as a literal. -/
def literalChars : Json → List Char
  | .null => "None".toList
  | .bool true => "True".toList
  | .bool false => "False".toList
  | .int n => renderInt n
  | .float x => (Binary64.Layout.plain.render x).toList
  | .str s => (Text.quoted s).toList
  | .arr [] => ['[', ']']
  | .arr (item :: items) => '[' :: literalChars item ++ literalItems items ++ [']']
  | .obj [] => ['{', '}']
  | .obj ((name, value) :: members) =>
    '{' :: (Text.quoted name).toList ++ ':' :: ' ' :: literalChars value ++
      literalMembers members ++ ['}']

/-- The items after the first. -/
def literalItems : List Json → List Char
  | [] => []
  | item :: items => ',' :: ' ' :: literalChars item ++ literalItems items

/-- The members after the first. -/
def literalMembers : List (String × Json) → List Char
  | [] => []
  | (name, value) :: members =>
    ',' :: ' ' :: (Text.quoted name).toList ++ ':' :: ' ' :: literalChars value ++
      literalMembers members

end

/-- A value as a literal. -/
def literal (j : Json) : String := String.ofList (literalChars j)

/-- A string as it is, any other value as a literal. -/
def text : Json → String
  | .str s => s
  | j => j.literal

/-- Whether a value counts as given: neither null, false, zero nor empty. -/
def isGiven : Json → Bool
  | .null => false
  | .bool b => b
  | .int n => n != 0
  | .float x => match x with
    | .finite _ significand _ _ => significand != 0
    | _ => true
  | .str s => s != ""
  | .arr items => !items.isEmpty
  | .obj members => !members.isEmpty

end Json

end TokenBroker
