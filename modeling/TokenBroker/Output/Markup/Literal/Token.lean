import TokenBroker.Text.Digit
import TokenBroker.Text.Symbol

/-!
# Tokens of literals

The tokens of an expression: numbers, texts, words and marks. A token knows how many brackets are
open behind it. An expression that cannot be read to its end, such as one that leaves a bracket
open, ends in a token that says so, and any other in a line end.
-/

namespace TokenBroker

namespace Literal

/-- What is wrong with an expression. -/
inductive Problem
  | neverClosed (bracket : Char)
  | unmatched (bracket : Char)
  /-- A bracket that closes one of another kind, and the line of that one if it is an earlier
  one. -/
  | mismatched (closing opening : Char) (line : Option Nat)
  | badNumber (kind : String)
  | badDigit (digit : Char) (kind : String)
  | leadingZeros
  | openText (line : Nat)
  | openLongText (line : Nat)
  | badCharacter (c : Char)
  | hiddenCharacter (c : Char)
  | tooDeep
  | brokenLine
  /-- A line that should go on in another, of which there is none. -/
  | cutOff
  /-- A further line that begins with a space. -/
  | indented
  | unexpected
  | missingComma
  | missingElse
  | equals
  | equalsAfter (what : String)
  | namedAfter (what : String)
  | equalsInCall
  | unassignable (what : String)
  | positionalLate
  | positionalAfterUnpacking
  | unpackingLate
  | bareGenerator
  | missingParentheses (word : String)
  | mixedTexts
  | plainBytes
  | loneStar
  | star
  | doubleStar
  | missingValue
  | missingColon
  | starValue
  | unpackingEach
  | unpackingPairs
  | bareTarget
  | groupedParameters
  | bareStar
  deriving DecidableEq, Repr

/-- A code point in at least four hexadecimal digits. -/
def codePoint (c : Char) : String :=
  let digits := (Nat.toDigits 16 c.toNat).map Char.toUpper
  String.ofList (List.replicate (4 - digits.length) '0' ++ digits)

/-- The message of a problem. -/
def Problem.message : Problem → String
  | .neverClosed bracket => s!"'{bracket}' was never closed"
  | .unmatched bracket => s!"unmatched '{bracket}'"
  | .mismatched closing opening none =>
    s!"closing parenthesis '{closing}' does not match opening parenthesis '{opening}'"
  | .mismatched closing opening (some line) =>
    s!"closing parenthesis '{closing}' does not match opening parenthesis '{opening}' on line {line}"
  | .badNumber kind => s!"invalid {kind} literal"
  | .badDigit digit kind => s!"invalid digit '{digit}' in {kind} literal"
  | .leadingZeros =>
    "leading zeros in decimal integer literals are not permitted; use an 0o prefix for octal integers"
  | .openText line => s!"unterminated string literal (detected at line {line})"
  | .openLongText line => s!"unterminated triple-quoted string literal (detected at line {line})"
  | .badCharacter c =>
    let point := codePoint c
    s!"invalid character '{c}' (U+{point})"
  | .hiddenCharacter c =>
    let point := codePoint c
    s!"invalid non-printable character U+{point}"
  | .tooDeep => "too many nested parentheses"
  | .brokenLine => "unexpected character after line continuation character"
  | .cutOff => "unexpected EOF while parsing"
  | .indented => "unexpected indent"
  | .unexpected => "invalid syntax"
  | .missingComma => "invalid syntax. Perhaps you forgot a comma?"
  | .missingElse => "expected 'else' after 'if' expression"
  | .equals => "invalid syntax. Maybe you meant '==' or ':=' instead of '='?"
  | .equalsAfter what => s!"cannot assign to {what} here. Maybe you meant '==' instead of '='?"
  | .namedAfter what => s!"cannot use assignment expressions with {what}"
  | .equalsInCall => "expression cannot contain assignment, perhaps you meant \"==\"?"
  | .unassignable what => s!"cannot assign to {what}"
  | .positionalLate => "positional argument follows keyword argument"
  | .positionalAfterUnpacking => "positional argument follows keyword argument unpacking"
  | .unpackingLate => "iterable argument unpacking follows keyword argument unpacking"
  | .bareGenerator => "Generator expression must be parenthesized"
  | .missingParentheses word =>
    s!"Missing parentheses in call to '{word}'. Did you mean {word}(...)?"
  | .mixedTexts => "cannot mix bytes and nonbytes literals"
  | .plainBytes => "bytes can only contain ASCII literal characters"
  | .loneStar => "Invalid star expression"
  | .star => "cannot use starred expression here"
  | .doubleStar => "cannot use double starred expression here"
  | .missingValue => "expression expected after dictionary key and ':'"
  | .missingColon => "':' expected after dictionary key"
  | .starValue => "cannot use a starred expression in a dictionary value"
  | .unpackingEach => "iterable unpacking cannot be used in comprehension"
  | .unpackingPairs => "dict unpacking cannot be used in dict comprehension"
  | .bareTarget => "did you forget parentheses around the comprehension target?"
  | .bareStar => "named arguments must follow bare *"
  | .groupedParameters => "Lambda expression parameters cannot be parenthesized"

/-- A token. -/
inductive Kind
  | number
  | text (isBytes : Bool)
  | word (s : String)
  | mark (s : String)
  | lineEnd
  /-- The end of what can be read, and what is wrong there if an expression gets that far. -/
  | stop (p : Problem)
  deriving DecidableEq, Repr

/-- A token, and how many brackets are open behind it. -/
structure Token where
  kind : Kind
  depth : Nat
  deriving DecidableEq, Repr

/-! ## Numbers -/

/-- Whether a character can belong to a word. -/
def isWordChar (c : Char) : Bool := c.isAlphanum || c == '_' || 0x80 ≤ c.toNat

/-- Whether a word that may stand right behind a number begins there. -/
def isWordAfterNumber (cs : List Char) : Bool :=
  (["if", "in", "is"].any fun w => w.toList.isPrefixOf cs) ||
    ["and", "else", "for", "not", "or"].any fun w =>
      w.toList.isPrefixOf cs && !(cs.drop w.length).head?.any isWordChar

/-- Checks that no word but a fitting one stands right behind a number; words of other letters are
kept apart. -/
def endNumber (kind : String) (cs : List Char) : Except Problem (List Char) :=
  if (cs.head?.any fun c => isWordChar c && c.toNat < 0x80) ∧ !isWordAfterNumber cs then
    .error (.badNumber kind)
  else .ok cs

/-- What is left behind further decimal digits, of which single underscores stand between. -/
def afterDecimals : List Char → Except Problem (List Char)
  | [] => .ok []
  | c :: cs =>
    if c.isDigit then afterDecimals cs
    else if c = '_' then
      if cs.head?.any Char.isDigit then afterDecimals cs else .error (.badNumber "decimal")
    else .ok (c :: cs)

/-- What is left behind an exponent and an imaginary mark. -/
def afterMantissa (cs : List Char) : Except Problem (List Char) := do
  let cs ← match cs with
    | e :: rest =>
      if e = 'e' ∨ e = 'E' then
        match rest with
        | s :: digits =>
          if s = '+' ∨ s = '-' then
            if digits.head?.any Char.isDigit then afterDecimals digits
            else throw (.badNumber "decimal")
          else if s.isDigit then afterDecimals rest
          else return ← endNumber "decimal" cs
        | [] => return ← endNumber "decimal" cs
      else pure cs
    | [] => pure cs
  match cs with
  | 'j' :: rest => endNumber "imaginary" rest
  | 'J' :: rest => endNumber "imaginary" rest
  | cs => endNumber "decimal" cs

/-- What is left behind a fraction, an exponent and an imaginary mark. -/
def afterWhole (cs : List Char) : Except Problem (List Char) :=
  match cs with
  | '.' :: rest => if rest.head?.any Char.isDigit then afterDecimals rest >>= afterMantissa else
      afterMantissa rest
  | cs => afterMantissa cs

/-- What is left behind a number in another base, of which the letter for the base has been read. -/
def afterBase (kind : String) (isOwn : Char → Bool) : (started : Bool) → List Char →
    Except Problem (List Char)
  | started, [] => if started then .ok [] else .error (.badNumber kind)
  | started, c :: cs =>
    if isOwn c then afterBase kind isOwn true cs
    else if c = '_' ∧ cs.head?.any isOwn then afterBase kind isOwn true cs
    else if c = '_' then
      match cs with
      | d :: _ => if d.isDigit then .error (.badDigit d kind) else .error (.badNumber kind)
      | [] => .error (.badNumber kind)
    else if c.isDigit then .error (.badDigit c kind)
    else if started then endNumber kind (c :: cs)
    else .error (.badNumber kind)

/-- What is left behind leading zeros. -/
def afterZeros : List Char → Except Problem (List Char)
  | [] => .ok []
  | c :: cs =>
    if c = '0' then afterZeros cs
    else if c = '_' then
      if cs.head?.any Char.isDigit then afterZeros cs else .error (.badNumber "decimal")
    else .ok (c :: cs)

/-- What is left behind a number, whose first digit has been read. -/
def afterNumber (first : Char) (cs : List Char) : Except Problem (List Char) :=
  if first ≠ '0' then afterDecimals cs >>= afterWhole
  else
    match cs with
    | c :: rest =>
      if c = 'x' ∨ c = 'X' then
        afterBase "hexadecimal" (fun c => (Text.hexValue? c).isSome) false rest
      else if c = 'o' ∨ c = 'O' then
        afterBase "octal" (fun c => (Text.octalValue? c).isSome) false rest
      else if c = 'b' ∨ c = 'B' then afterBase "binary" (fun c => c = '0' || c = '1') false rest
      else do
        let cs ← afterZeros cs
        if cs.head?.any Char.isDigit then
          let cs ← afterDecimals cs
          if cs.head?.any fun c => ['.', 'e', 'E', 'j', 'J'].contains c then afterWhole cs
          else throw .leadingZeros
        else afterWhole cs
    | [] => .ok []

/-! ## Texts -/

/-- What is left behind a text up to its closing quotes, and the number of its lines after the
first. -/
def afterText (quote : Char) (long : Bool) (line : Nat) :
    List Char → Except Problem (List Char × Nat)
  | [] => .error (if long then .openLongText line else .openText line)
  | '\\' :: c :: cs => afterText quote long (if c = '\n' then line + 1 else line) cs
  | c :: cs =>
    if c = quote then
      if long then
        match cs with
        | d :: e :: rest => if d = quote ∧ e = quote then .ok (rest, line) else afterText quote
            long line cs
        | _ => .error (.openLongText line)
      else .ok (cs, line)
    else if c = '\n' then
      if long then afterText quote long (line + 1) cs else .error (.openText line)
    else afterText quote long line cs

/-- What is left behind a text whose first quote has been read. -/
def afterQuote (quote : Char) (line : Nat) (cs : List Char) : Except Problem (List Char × Nat) :=
  match cs with
  | d :: e :: rest =>
    if d = quote ∧ e = quote then afterText quote true line rest
    else afterText quote false line cs
  | cs => afterText quote false line cs

/-- The letters that may stand before a text. -/
def textLetters : List String := ["b", "u", "r", "f", "br", "rb", "fr", "rf"]

/-! ## Rows of tokens -/

/-- The marks of more than one character, the longer ones first. -/
def longMarks : List String :=
  ["**=", "//=", ">>=", "<<=", "...", "!=", "->", ":=", "==", "<=", ">=", "<>", "+=", "-=", "*=",
    "/=", "%=", "&=", "|=", "^=", "@=", "**", "//", ">>", "<<"]

/-- The mark at the front of a text that is not empty. -/
def markOf (c : Char) (cs : List Char) : String :=
  (longMarks.find? fun m => m.toList.isPrefixOf (c :: cs)).getD (String.ofList [c])

/-- The brackets that are open, each with its line, the last one first. -/
abbrev Brackets := List (Char × Nat)

/-- The bracket that closes another. -/
def closes (opening closing : Char) : Bool :=
  (opening = '(' && closing = ')') || (opening = '\x7b' && closing = '\x7d') ||
    (opening = '[' && closing = ']')

/-- How many brackets may be open at once. -/
def deepest : Nat := 200

/-- The brackets that are open after a mark on a line. -/
def afterMark (line : Nat) (mark : String) (opened : Brackets) : Except Problem Brackets :=
  match mark.toList with
  | [c] =>
    if c = '(' ∨ c = '\x7b' ∨ c = '[' then
      if opened.length < deepest then .ok ((c, line) :: opened) else .error .tooDeep
    else if c = ')' ∨ c = '\x7d' ∨ c = ']' then
      match opened with
      | [] => .error (.unmatched c)
      | (opening, start) :: rest =>
        if closes opening c then .ok rest
        else .error (.mismatched c opening (if start = line then none else some start))
    else .ok opened
  | _ => .ok opened

/-- The first character of a word that cannot belong to one. -/
def badChar? (word : List Char) : Option Problem :=
  (word.find? fun c => 0x80 ≤ c.toNat && (!Text.isPrintable c || Text.isSymbol c)).map fun c =>
    if Text.isPrintable c then .badCharacter c else .hiddenCharacter c

/-- The token at the end of a text that leaves brackets open. -/
def endToken (otherwise : Kind) (opened : Brackets) : Token :=
  match opened with
  | [] => ⟨otherwise, 0⟩
  | (bracket, _) :: _ => ⟨.stop (.neverClosed bracket), opened.length⟩

/-- Whether the first line begins with a space and has something on it. -/
def isIndented (cs : List Char) : Bool :=
  let isSpace (c : Char) : Bool := c = ' ' || c = '\t'
  let content := cs.dropWhile isSpace
  cs.head?.any isSpace && content.head?.any fun c => c ≠ '#' && c ≠ '\n'

/-- The tokens of at most `fuel` characters and the end. -/
def tokensFrom : (fuel : Nat) → (line : Nat) → Brackets → List Char → Except Problem (List Token)
  | 0, _, _, _ => .ok []
  | fuel + 1, line, opened, cs =>
    let depth := opened.length
    match cs with
    | [] => .ok [endToken .lineEnd opened]
    | c :: cs =>
      if c = ' ' ∨ c = '\t' ∨ c = '\x0c' then tokensFrom fuel line opened cs
      else if c = '\n' then do
        if !opened.isEmpty then tokensFrom fuel (line + 1) opened cs
        else if isIndented cs then return [⟨.lineEnd, 0⟩, ⟨.stop .indented, 0⟩]
        else return ⟨.lineEnd, 0⟩ :: (← tokensFrom fuel (line + 1) opened cs)
      else if c = '#' then tokensFrom fuel line opened (cs.dropWhile (· ≠ '\n'))
      else if c = '\\' then
        match cs with
        | ['\n'] => return [endToken (.stop .cutOff) opened]
        | '\n' :: rest => tokensFrom fuel (line + 1) opened rest
        | _ => return [⟨.stop .brokenLine, depth⟩]
      else if c = '"' ∨ c = '\'' then do
        let (rest, line) ← afterQuote c line cs
        return ⟨.text false, depth⟩ :: (← tokensFrom fuel line opened rest)
      else if c.isDigit ∨ (c = '.' ∧ cs.head?.any Char.isDigit) then do
        let rest ← if c = '.' then afterWhole (c :: cs) else afterNumber c cs
        return ⟨.number, depth⟩ :: (← tokensFrom fuel line opened rest)
      else if isWordChar c then
        let word := (c :: cs).takeWhile isWordChar
        let rest := (c :: cs).drop word.length
        let letters := String.ofList (word.map Char.toLower)
        match rest with
        | q :: after =>
          if textLetters.contains letters ∧ (q = '"' ∨ q = '\'') then do
            let (rest, line) ← afterQuote q line after
            let isBytes := letters.contains 'b'
            let own := after.take (after.length - rest.length)
            let following ← tokensFrom fuel line opened rest
            if isBytes ∧ own.any fun c => 0x80 ≤ c.toNat then throw .plainBytes
            return ⟨.text isBytes, depth⟩ :: following
          else
            match badChar? word with
            | some p => throw p
            | none => return ⟨.word (String.ofList word), depth⟩ ::
                (← tokensFrom fuel line opened rest)
        | [] =>
          match badChar? word with
          | some p => throw p
          | none => return ⟨.word (String.ofList word), depth⟩ ::
              (← tokensFrom fuel line opened rest)
      else if !Text.isPrintable c then throw (.hiddenCharacter c)
      else do
        let mark := markOf c cs
        let opened ← afterMark line mark opened
        return ⟨.mark mark, opened.length⟩ ::
          (← tokensFrom fuel line opened ((c :: cs).drop mark.length))

/-- The tokens of an expression; lines before it that are empty are left out. -/
def tokens (cs : List Char) : Except Problem (List Token) := do
  let ts ← tokensFrom (cs.length + 1) 1 [] cs
  return ts.dropWhile fun t => t.kind = .lineEnd

end Literal

end TokenBroker
