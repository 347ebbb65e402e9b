import TokenBroker.Text.Blank
import TokenBroker.Text.Charset

/-!
# Content types

The charset that a content type names. The type is a row of segments between semicolons, of which
each after the first is a parameter, and the first one counts as a parameter too. The value of a
parameter may be quoted; it may also come in numbered parts, in any order, and a part whose name
ends in an asterisk is written with percent escapes and may tell its own charset first.

The first parameter of a name counts, and one that is whole counts before one in parts.
-/

namespace TokenBroker

namespace Text

namespace ContentType

/-- The segments of a content type. A semicolon inside quotes ends none, and a quote after a
backslash is none. -/
def segmentsFrom (quoted : Bool) (own : List Char) : List Char → List (List Char)
  | [] => [own.reverse]
  | c :: cs =>
    if c = ';' ∧ !quoted then own.reverse :: segmentsFrom false [] cs
    else segmentsFrom (if c = '"' ∧ own.head? ≠ some '\\' then !quoted else quoted) (c :: own) cs

/-- The segments of a content type. -/
def segments (contentType : String) : List (List Char) := segmentsFrom false [] contentType.toList

/-- The name and the value of a segment. -/
def nameAndValue (segment : List Char) : String × String :=
  let before := segment.takeWhile (· ≠ '=')
  match segment.drop before.length with
  | _ :: after => ((trimWide (String.ofList before)).toLower, trimWide (String.ofList after))
  | [] => (trimWide (String.ofList segment), "")

/-- The characters in which a backslash stands before a backslash or a quote, without it. -/
def unescaped (cs : List Char) : List Char :=
  let rec twice : List Char → List Char
    | '\\' :: '\\' :: cs => '\\' :: twice cs
    | c :: cs => c :: twice cs
    | [] => []
  let rec quotes : List Char → List Char
    | '\\' :: '"' :: cs => '"' :: quotes cs
    | c :: cs => c :: quotes cs
    | [] => []
  quotes (twice cs)

/-- A value without the quotes or angle brackets around it. -/
def unquoted (s : String) : String :=
  match s.toList with
  | '"' :: cs => if cs.getLast? = some '"' then String.ofList (unescaped cs.dropLast) else s
  | '<' :: cs => if cs.getLast? = some '>' then String.ofList cs.dropLast else s
  | _ => s

/-- A part of a value. -/
structure Part where
  number : Option Nat
  value : String
  encoded : Bool
  deriving DecidableEq, Repr

/-- Whether a character belongs to the name of a value in parts. -/
def isNameChar (c : Char) : Bool := c.isAlphanum || c == '_'

/-- What the name of a part says: the name of the whole, the number and whether the part is
encoded. -/
def partName? (name : String) : Option (String × Option Nat × Bool) :=
  let whole := name.toList.takeWhile isNameChar
  if whole.isEmpty then none
  else
    match name.toList.drop whole.length with
    | '*' :: [] => some (String.ofList whole, none, true)
    | '*' :: rest =>
      let digits := rest.takeWhile Char.isDigit
      let after := rest.drop digits.length
      if digits.isEmpty ∨ (after ≠ [] ∧ after ≠ ['*']) then none
      else
        let number := ofDigits (digits.filterMap asciiDigitValue?)
        some (String.ofList whole, some number, after == ['*'])
    | _ => none

/-- Adds a part to those of its name, or as the first of a name at the end. -/
def addPart (name : String) (part : Part) : List (String × List Part) → List (String × List Part)
  | [] => [(name, [part])]
  | (other, parts) :: groups =>
    if other = name then (other, parts ++ [part]) :: groups
    else (other, parts) :: addPart name part groups

/-- Parts in the order of their numbers, then of their values. -/
def Part.le (a b : Part) : Bool :=
  let m := a.number.getD 0
  let n := b.number.getD 0
  if m ≠ n then m < n else if a.value ≠ b.value then a.value < b.value else !a.encoded || b.encoded

/-- The parts in order; those with a number and those without have none among them. -/
def inOrder (parts : List Part) : Except CharsetError (List Part) :=
  if parts.any (·.number.isSome) ∧ parts.any (·.number.isNone) then .error .unorderedParts
  else .ok (parts.mergeSort Part.le)

/-- The characters with percent escapes as the characters of their numbers. -/
def ofEscapes : List Char → List Char
  | '%' :: a :: b :: cs =>
    match hexValue? a, hexValue? b with
    | some x, some y => Char.ofNat (x * 16 + y) :: ofEscapes cs
    | _, _ => '%' :: ofEscapes (a :: b :: cs)
  | c :: cs => c :: ofEscapes cs
  | [] => []
termination_by cs => cs.length

/-- A parameter's value. -/
inductive Value
  | plain (s : String)
  /-- A value whose characters are bytes in a charset. -/
  | encoded (charset s : String)
  deriving DecidableEq, Repr

/-- The charset that encoded values are in unless they say otherwise. -/
def defaultName : String := "us-ascii"

/-- The value that parts in order make up. An encoded one may begin with a charset and a language,
each before an apostrophe. -/
def ofParts (parts : List Part) : Value :=
  let whole := parts.flatMap fun p =>
    if p.encoded then ofEscapes p.value.toList else p.value.toList
  if parts.any (·.encoded) then
    let charset := whole.takeWhile (· ≠ '\'')
    let after := (whole.drop (charset.length + 1))
    let language := after.takeWhile (· ≠ '\'')
    match after.drop language.length with
    | _ :: text =>
      .encoded (if charset.isEmpty then defaultName else String.ofList charset) (String.ofList text)
    | [] => .encoded defaultName (String.ofList whole)
  else .plain (String.ofList whole)

/-- The parameters of a content type: those that are whole, then those in parts. -/
def parameters (contentType : String) : Except CharsetError (List (String × Value)) := do
  let all := (segments contentType).map nameAndValue
  let isPart (parameter : String × String) : Bool := (partName? parameter.1).isSome
  let whole := all.take 1 ++ (all.drop 1).filter fun parameter => !isPart parameter
  let groups := (all.drop 1).foldl (fun groups (name, value) =>
    match partName? name with
    | some (whole, number, encoded) => addPart whole ⟨number, unquoted value, encoded⟩ groups
    | none => groups) []
  let joined ← groups.mapM fun (name, parts) => do return (name, ofParts (← inOrder parts))
  return whole.map (fun (name, value) => (name, .plain (unquoted value))) ++ joined

/-- The bytes of characters; those past the first 256 are escaped. -/
def bytesOf (s : String) : List UInt8 :=
  s.toList.flatMap fun c =>
    if c.toNat < 0x100 then [c.toNat.toUInt8]
    else
      let digits := if c.toNat < 0x10000 then 'u' :: hexDigits 4 c.toNat else 'U' :: hexDigits
        8 c.toNat
      ('\\' :: digits).map fun d => d.toNat.toUInt8

/-- The charset of a name that holds no NUL. -/
def charsetOf? (name : String) : Except CharsetError (Option Charset) :=
  if name.contains '\x00' then .error .nullInName else .ok (Charset.ofName? name)

/-- The text of a value. One that cannot be read in its charset is taken as it stands. -/
def Value.text : Value → Except CharsetError String
  | .plain s => .ok s
  | .encoded charset s => do
    match ← charsetOf? charset with
    | none => return s
    | some c => return (← c.exactly (bytesOf s)).getD s

/-- The charset that a content type names. A name that is unknown, or not ASCII, counts as none. -/
def charset? (contentType : String) : Except CharsetError (Option Charset) := do
  match (← parameters contentType).find? fun (name, _) => name.toLower = "charset" with
  | none => return none
  | some (_, value) =>
    let name ← value.text
    if name.toList.all fun c => c.toNat < 0x80 then charsetOf? name else return none

end ContentType

end Text

end TokenBroker
