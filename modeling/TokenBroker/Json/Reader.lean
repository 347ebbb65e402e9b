import TokenBroker.Json.Basic
import TokenBroker.Decimal.Numeral
import TokenBroker.Text.Digit
import TokenBroker.Text.Utf8
import TokenBroker.Text.Wide

/-!
# Reading JSON

`Json.read` reads a text and reports the first thing wrong with it, by line, column and index;
`Json.readWithin` does so with a limit on how deep brackets may stand within each other.
`Json.ofBytes?` reads the bytes of a message, whose encoding shows in the first of them. Beside the
standard grammar the names `NaN`, `Infinity` and `-Infinity` are numbers; a numeral without fraction
and exponent is an exact integer of at most `Numeral.maxDigits` digits.

The readers work on the rest of the text. A problem is recorded with the length of the rest at which
it was found, which gives its index once the whole text is known.
-/

namespace TokenBroker

namespace Json

/-- The values that hold others. -/
inductive Container
  | array
  | object
  deriving DecidableEq, Repr

/-- The name of a container. -/
def Container.name : Container → String
  | .array => "array"
  | .object => "object"

/-- What is wrong with a text. -/
inductive Problem
  | expectingValue
  | expectingName
  | expectingColon
  | expectingComma
  | extraData
  | unterminatedString
  | controlCharacter
  | invalidEscape
  | invalidCodePointEscape
  | byteOrderMark
  | tooManyDigits (count : Nat)
  /-- A container within more others than a reader can keep open. -/
  | tooDeep (container : Container)
  deriving DecidableEq, Repr

/-- The wording of a problem. -/
def Problem.text : Problem → String
  | .expectingValue => "Expecting value"
  | .expectingName => "Expecting property name enclosed in double quotes"
  | .expectingColon => "Expecting ':' delimiter"
  | .expectingComma => "Expecting ',' delimiter"
  | .extraData => "Extra data"
  | .unterminatedString => "Unterminated string starting at"
  | .controlCharacter => "Invalid control character at"
  | .invalidEscape => "Invalid \\escape"
  | .invalidCodePointEscape => "Invalid \\uXXXX escape"
  | .byteOrderMark => "Unexpected UTF-8 BOM (decode using utf-8-sig)"
  | .tooManyDigits count =>
    s!"Exceeds the limit ({Numeral.maxDigits} digits) for integer string conversion: value has {count}" ++
      " digits; use sys.set_int_max_str_digits() to increase the limit"
  | .tooDeep container =>
    s!"maximum recursion depth exceeded while decoding a JSON {container.name} from a unicode string"

/-- A problem, and the length of the rest of the text where it stands. -/
structure Stop where
  problem : Problem
  remaining : Nat
  deriving DecidableEq, Repr

/-- The white space between the parts of a text. -/
def isSpace (c : Char) : Bool := c == ' ' || c == '\t' || c == '\n' || c == '\r'

/-- The rest of a text from its first character that is no white space. -/
def skipSpace (cs : List Char) : List Char := cs.dropWhile isSpace

/-! ## Strings -/

/-- The value of four hexadecimal digits. -/
def hexValue4? (a b c d : Char) : Option Nat := do
  return (((← Text.hexValue? a) * 16 + (← Text.hexValue? b)) * 16 + (← Text.hexValue? c)) * 16 +
    (← Text.hexValue? d)

/-- The character that a short escape stands for. -/
def shortEscape? : Char → Option Char
  | '"' => some '"'
  | '\\' => some '\\'
  | '/' => some '/'
  | 'b' => some '\x08'
  | 'f' => some '\x0c'
  | 'n' => some '\n'
  | 'r' => some '\r'
  | 't' => some '\t'
  | _ => none

/-- The code units of a string up to its closing quote, and the rest after it. `opening` is the
length of the rest at the opening quote. -/
def stringUnits (opening : Nat) : List Char → Except Stop (List Nat × List Char)
  | [] => .error ⟨.unterminatedString, opening⟩
  | '"' :: rest => .ok ([], rest)
  | '\\' :: [] => .error ⟨.unterminatedString, opening⟩
  | '\\' :: 'u' :: a :: b :: c :: d :: rest =>
    match rest, hexValue4? a b c d with
    | _ :: _, some u => do
      let (us, after) ← stringUnits opening rest
      .ok (u :: us, after)
    | _, _ => .error ⟨.invalidCodePointEscape, rest.length + 5⟩
  | '\\' :: 'u' :: rest => .error ⟨.invalidCodePointEscape, rest.length + 1⟩
  | '\\' :: e :: rest =>
    match shortEscape? e with
    | some c => do
      let (us, after) ← stringUnits opening rest
      .ok (c.toNat :: us, after)
    | none => .error ⟨.invalidEscape, rest.length + 2⟩
  | c :: rest =>
    if c.toNat < 0x20 then .error ⟨.controlCharacter, rest.length + 1⟩
    else do
      let (us, after) ← stringUnits opening rest
      .ok (c.toNat :: us, after)

/-- The characters of code units: a high surrogate and the low one after it are one character, and a
surrogate without a partner is replaced. -/
def joinSurrogates : List Nat → List Char
  | [] => []
  | [u] => [(Text.charOfCodePoint? u).getD '\uFFFD']
  | u :: v :: rest =>
    if 0xD800 ≤ u ∧ u < 0xDC00 ∧ 0xDC00 ≤ v ∧ v < 0xE000 then
      Char.ofNat (0x10000 + (u - 0xD800) * 0x400 + (v - 0xDC00)) :: joinSurrogates rest
    else
      (Text.charOfCodePoint? u).getD '\uFFFD' :: joinSurrogates (v :: rest)
termination_by us => us.length

/-- A string whose opening quote has been read. -/
def readString (cs : List Char) : Except Stop (String × List Char) := do
  let (us, rest) ← stringUnits (cs.length + 1) cs
  .ok (String.ofList (joinSurrogates us), rest)

/-! ## Numbers -/

/-- The digits at the front, and the rest. -/
def splitDigits (cs : List Char) : List Char × List Char :=
  (cs.takeWhile Char.isDigit, cs.dropWhile Char.isDigit)

/-- The values of ASCII digits. -/
def digitValues (cs : List Char) : List Nat := cs.map fun c => c.toNat - 0x30

/-- The digits of the integer part: a zero alone, or digits that start with none. -/
def integerPart (cs : List Char) : Option (List Char × List Char) :=
  match cs with
  | '0' :: rest => some (['0'], rest)
  | _ =>
    match splitDigits cs with
    | ([], _) => none
    | found => some found

/-- The digits after a point, if at least one follows it. -/
def fractionPart (cs : List Char) : Option (List Char × List Char) :=
  match cs with
  | '.' :: rest =>
    match splitDigits rest with
    | ([], _) => none
    | found => some found
  | _ => none

/-- An exponent, if it has at least one digit. -/
def exponentPart (cs : List Char) : Option (Int × List Char) :=
  match cs with
  | e :: rest =>
    if e = 'e' ∨ e = 'E' then
      let (negative, rest) := Numeral.splitSign rest
      match splitDigits rest with
      | ([], _) => none
      | (ds, rest) => some (Binary64.signed negative (Text.ofDigits (digitValues ds)), rest)
    else none
  | [] => none

/-- A minus, and what follows it. -/
def splitMinus : List Char → Bool × List Char
  | '-' :: cs => (true, cs)
  | cs => (false, cs)

/-- A number at the front of the text. -/
def readNumber (cs : List Char) : Except Stop (Json × List Char) :=
  let (negative, body) := splitMinus cs
  match integerPart body with
  | none => .error ⟨.expectingValue, cs.length⟩
  | some (whole, rest) =>
    match fractionPart rest, exponentPart ((fractionPart rest).elim rest (·.2)) with
    | none, none =>
      if Numeral.maxDigits < whole.length then .error ⟨.tooManyDigits whole.length, cs.length⟩
      else .ok (.int (Binary64.signed negative (Text.ofDigits (digitValues whole))), rest)
    | fraction, exponent =>
      let fs := fraction.elim [] (·.1)
      let power := exponent.elim 0 (·.1) - fs.length
      let after := exponent.elim (fraction.elim rest (·.2)) (·.2)
      .ok (.float (.ofDecimal negative (Text.ofDigits (digitValues (whole ++ fs))) power), after)

/-- The rest of a text after a word at its front. -/
def afterWord? (word : String) (cs : List Char) : Option (List Char) :=
  if word.toList.isPrefixOf cs then some (cs.drop word.length) else none

/-- The words that are values. -/
def words : List (String × Json) :=
  [("null", .null), ("true", .bool true), ("false", .bool false), ("NaN", .float .nan),
    ("Infinity", .float (.infinite false)), ("-Infinity", .float (.infinite true))]

/-- A word or a number at the front of the text. -/
def readScalar (cs : List Char) : Except Stop (Json × List Char) :=
  match words.findSome? fun (word, value) => (afterWord? word cs).map (value, ·) with
  | some found => .ok found
  | none => readNumber cs

/-! ## Values -/

/-- How many containers a reader still opens within each other. Without a number there is no
limit. -/
abbrev Levels := Option Nat

/-- The levels that are left in a container, if it can be opened. -/
def Levels.inside? : Levels → Option Levels
  | none => some none
  | some 0 => none
  | some (n + 1) => some (some n)

mutual

/-- The value at the front of a text; `fuel` bounds its parts. -/
def readValue (fuel : Nat) (levels : Levels) (cs : List Char) : Except Stop (Json × List Char) :=
  match fuel with
  | 0 => .error ⟨.expectingValue, cs.length⟩
  | fuel + 1 =>
    match cs with
    | '"' :: rest => do
      let (s, rest) ← readString rest
      .ok (.str s, rest)
    | '[' :: rest =>
      match levels.inside? with
      | none => .error ⟨.tooDeep .array, cs.length⟩
      | some inner =>
        match skipSpace rest with
        | ']' :: rest => .ok (.arr [], rest)
        | rest => do
          let (items, rest) ← readItems fuel inner rest
          .ok (.arr items, rest)
    | '{' :: rest =>
      match levels.inside? with
      | none => .error ⟨.tooDeep .object, cs.length⟩
      | some inner =>
        match skipSpace rest with
        | '}' :: rest => .ok (.obj [], rest)
        | rest => do
          let (members, rest) ← readMembers fuel inner rest
          .ok (.ofMembers members, rest)
    | _ => readScalar cs

/-- The items of an array, of which at least one is still to come, and its closing bracket. -/
def readItems (fuel : Nat) (levels : Levels) (cs : List Char) :
    Except Stop (List Json × List Char) :=
  match fuel with
  | 0 => .error ⟨.expectingValue, cs.length⟩
  | fuel + 1 => do
    let (item, rest) ← readValue fuel levels cs
    match skipSpace rest with
    | ']' :: rest => .ok ([item], rest)
    | ',' :: rest => do
      let (items, rest) ← readItems fuel levels (skipSpace rest)
      .ok (item :: items, rest)
    | rest => .error ⟨.expectingComma, rest.length⟩

/-- The members of an object, of which at least one is still to come, and its closing brace. -/
def readMembers (fuel : Nat) (levels : Levels) (cs : List Char) :
    Except Stop (List (String × Json) × List Char) :=
  match fuel with
  | 0 => .error ⟨.expectingName, cs.length⟩
  | fuel + 1 =>
    match cs with
    | '"' :: rest => do
      let (name, rest) ← readString rest
      match skipSpace rest with
      | ':' :: rest => do
        let (value, rest) ← readValue fuel levels (skipSpace rest)
        match skipSpace rest with
        | '}' :: rest => .ok ([(name, value)], rest)
        | ',' :: rest => do
          let (members, rest) ← readMembers fuel levels (skipSpace rest)
          .ok ((name, value) :: members, rest)
        | rest => .error ⟨.expectingComma, rest.length⟩
      | rest => .error ⟨.expectingColon, rest.length⟩
    | _ => .error ⟨.expectingName, cs.length⟩

end

/-- The value that a whole text is. -/
def readDocument (levels : Levels) (cs : List Char) : Except Stop Json := do
  let (value, rest) ← readValue (2 * cs.length + 2) levels (skipSpace cs)
  match skipSpace rest with
  | [] => .ok value
  | rest => .error ⟨.extraData, rest.length⟩

/-! ## Texts and messages -/

/-- The first thing wrong with a text. Lines and columns count from one, the index from zero. -/
structure SyntaxError where
  problem : Problem
  line : Nat
  column : Nat
  index : Nat
  deriving DecidableEq, Repr

/-- A limit has no place; any other problem is reported with its own. -/
def SyntaxError.message (e : SyntaxError) : String :=
  match e.problem with
  | .tooManyDigits _ | .tooDeep _ => e.problem.text
  | _ => s!"{e.problem.text}: line {e.line} column {e.column} (char {e.index})"

/-- The place of a problem in its text. -/
def Stop.locate (cs : List Char) (stop : Stop) : SyntaxError :=
  let index := cs.length - stop.remaining
  let before := cs.take index
  { problem := stop.problem
    line := before.count '\n' + 1
    column := (before.reverse.takeWhile (· != '\n')).length + 1
    index }

/-- The value of a text, read with a limit. A byte order mark at its start is refused. -/
def readWithin (levels : Levels) (text : String) : Except SyntaxError Json :=
  let cs := text.toList
  let result :=
    if cs.head? = some '\uFEFF' then .error ⟨.byteOrderMark, cs.length⟩ else readDocument levels cs
  result.mapError (Stop.locate cs)

/-- The value of a text. -/
def read (text : String) : Except SyntaxError Json := readWithin none text

/-- A limit on how deep containers may stand within each other that has room for what is usual. -/
structure NestingLimit where
  levels : Nat
  roomy : 16 ≤ levels

/-- The limit where no other is set. -/
def NestingLimit.usual : NestingLimit := ⟨1000, by decide⟩

/-- The characters of a message, in the encoding that its first bytes show: a byte order mark, or
the zeros beside a first ASCII character; UTF-8 otherwise. -/
def charsOfBytes? (bytes : List UInt8) : Option String :=
  let utf8 (bs : List UInt8) := (Utf8.decode bs).toOption
  match bytes with
  | 0 :: 0 :: 0xFE :: 0xFF :: rest => Text.strictly (Text.ofUtf32 .big rest)
  | 0xFF :: 0xFE :: 0 :: 0 :: rest => Text.strictly (Text.ofUtf32 .little rest)
  | 0xFE :: 0xFF :: rest => Text.strictly (Text.ofUtf16 .big rest)
  | 0xFF :: 0xFE :: rest => Text.strictly (Text.ofUtf16 .little rest)
  | 0xEF :: 0xBB :: 0xBF :: rest => utf8 rest
  | a :: b :: c :: d :: _ =>
    if a = 0 then
      if b = 0 then Text.strictly (Text.ofUtf32 .big bytes)
      else Text.strictly (Text.ofUtf16 .big bytes)
    else if b = 0 then
      if c = 0 ∧ d = 0 then Text.strictly (Text.ofUtf32 .little bytes)
      else Text.strictly (Text.ofUtf16 .little bytes)
    else utf8 bytes
  | [a, b] =>
    if a = 0 then Text.strictly (Text.ofUtf16 .big bytes)
    else if b = 0 then Text.strictly (Text.ofUtf16 .little bytes)
    else utf8 bytes
  | _ => utf8 bytes

/-- The value of a message, if its bytes are text and the text is JSON. -/
def ofBytes? (bytes : List UInt8) : Option Json := do
  let text ← charsOfBytes? bytes
  (readDocument none text.toList).toOption

end Json

end TokenBroker
