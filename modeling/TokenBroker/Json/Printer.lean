import TokenBroker.Json.Basic
import TokenBroker.Decimal.Notation
import TokenBroker.Decimal.Numeral
import TokenBroker.Text.Quoted

/-!
# Writing JSON

`Json.render` writes a value: in one line, or with every item and member on a line of its own,
indented by two blanks a level. Strings may be confined to ASCII, with the others of their
characters escaped by UTF-16 units. A file can hold a value only if none of its integers is too long
(`Json.isWritable`).
-/

namespace TokenBroker

namespace Json

/-- How a value is written. -/
structure Style where
  /-- Items and members on lines of their own. -/
  indented : Bool
  /-- No character beyond ASCII. -/
  ascii : Bool

/-- An escape by a UTF-16 unit. -/
def unitEscape (u : Nat) : List Char := '\\' :: 'u' :: Text.hexDigits 4 u

/-- One character inside a string. -/
def renderChar (ascii : Bool) (c : Char) : List Char :=
  if c = '"' then ['\\', '"']
  else if c = '\\' then ['\\', '\\']
  else if c = '\n' then ['\\', 'n']
  else if c = '\r' then ['\\', 'r']
  else if c = '\t' then ['\\', 't']
  else if c = '\x08' then ['\\', 'b']
  else if c = '\x0c' then ['\\', 'f']
  else if c.toNat < 0x20 then unitEscape c.toNat
  else if !ascii || c.toNat < 0x7F then [c]
  else if c.toNat < 0x10000 then unitEscape c.toNat
  else
    let v := c.toNat - 0x10000
    unitEscape (0xD800 + v / 0x400) ++ unitEscape (0xDC00 + v % 0x400)

/-- A string in quotes. -/
def renderString (ascii : Bool) (s : String) : List Char :=
  '"' :: s.toList.flatMap (renderChar ascii) ++ ['"']

/-- An integer in decimal digits. -/
def renderInt (n : Int) : List Char :=
  (if n < 0 then ['-'] else []) ++ Binary64.digitsOf n.natAbs

/-- The break between the parts of a value at a level, if they have lines of their own. -/
def Style.lineBreak (style : Style) (level : Nat) : List Char :=
  if style.indented then '\n' :: List.replicate (2 * level) ' ' else []

/-- What stands between a name and its value. -/
def Style.colon (style : Style) : List Char :=
  if style.indented then [':', ' '] else [':']

mutual

/-- A value whose parts stand at a level below `level`. -/
def renderValue (style : Style) (level : Nat) : Json → List Char
  | .null => "null".toList
  | .bool true => "true".toList
  | .bool false => "false".toList
  | .int n => renderInt n
  | .float x => (Binary64.Layout.json.render x).toList
  | .str s => renderString style.ascii s
  | .arr [] => ['[', ']']
  | .arr (item :: items) =>
    '[' :: style.lineBreak (level + 1) ++ renderValue style (level + 1) item ++
      renderItems style (level + 1) items ++ style.lineBreak level ++ [']']
  | .obj [] => ['{', '}']
  | .obj ((name, value) :: members) =>
    '{' :: style.lineBreak (level + 1) ++ renderString style.ascii name ++ style.colon ++
      renderValue style (level + 1) value ++ renderMembers style (level + 1) members ++
      style.lineBreak level ++ ['}']

/-- The items after the first. -/
def renderItems (style : Style) (level : Nat) : List Json → List Char
  | [] => []
  | item :: items =>
    ',' :: style.lineBreak level ++ renderValue style level item ++ renderItems style level items

/-- The members after the first. -/
def renderMembers (style : Style) (level : Nat) : List (String × Json) → List Char
  | [] => []
  | (name, value) :: members =>
    ',' :: style.lineBreak level ++ renderString style.ascii name ++ style.colon ++
      renderValue style level value ++ renderMembers style level members

end

mutual

/-- Whether no integer of a value has more than `Numeral.maxDigits` digits. -/
def isWritable : Json → Bool
  | .int n => (Binary64.digitsOf n.natAbs).length ≤ Numeral.maxDigits
  | .arr items => itemsWritable items
  | .obj members => membersWritable members
  | _ => true

/-- Whether all items can be written. -/
def itemsWritable : List Json → Bool
  | [] => true
  | item :: items => item.isWritable && itemsWritable items

/-- Whether all values of members can be written. -/
def membersWritable : List (String × Json) → Bool
  | [] => true
  | (_, value) :: members => value.isWritable && membersWritable members

end

/-- The text of a value. -/
def render (style : Style) (j : Json) : String :=
  String.ofList (renderValue style 0 j)

/-- Indented, with all characters as they are: for readers. -/
def Style.readable : Style := ⟨true, false⟩

/-- Indented, in ASCII: for files. -/
def Style.portable : Style := ⟨true, true⟩

/-- In one line, in ASCII: for messages. -/
def Style.compact : Style := ⟨false, true⟩

end Json

end TokenBroker
