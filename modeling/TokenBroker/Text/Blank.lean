/-!
# White space and line ends

Two classes of characters: `isBlank` is the white-space property, and `isBlankOrSeparator` adds the
four information separators of ASCII. `trim` and `trimWide` strip the ends of a text of them.

Line ends are of three kinds: a line feed, a carriage return, or both. `unifyLines` makes each of
them a line feed.
-/

namespace TokenBroker

namespace Text

/-- The white-space property. -/
def isBlank (c : Char) : Bool :=
  let n := c.toNat
  (0x09 ≤ n && n ≤ 0x0D) || n == 0x20 || n == 0x85 || n == 0xA0 || n == 0x1680 ||
    (0x2000 ≤ n && n ≤ 0x200A) || n == 0x2028 || n == 0x2029 || n == 0x202F || n == 0x205F ||
    n == 0x3000

/-- White space, or one of the information separators U+001C to U+001F. -/
def isBlankOrSeparator (c : Char) : Bool :=
  isBlank c || (0x1C ≤ c.toNat && c.toNat ≤ 0x1F)

/-- The characters between the first and the last that is outside the class `p`. -/
def stripChars (p : Char → Bool) (cs : List Char) : List Char :=
  ((cs.dropWhile p).reverse.dropWhile p).reverse

/-- The text without the white space at its ends. -/
def trim (s : String) : String :=
  String.ofList (stripChars isBlank s.toList)

/-- The text without the white space and information separators at its ends. -/
def trimWide (s : String) : String :=
  String.ofList (stripChars isBlankOrSeparator s.toList)

/-- The characters with each line end as one line feed. -/
def unifyChars : List Char → List Char
  | [] => []
  | '\r' :: '\n' :: cs => '\n' :: unifyChars cs
  | '\r' :: cs => '\n' :: unifyChars cs
  | c :: cs => c :: unifyChars cs

/-- The text with each line end as one line feed. -/
def unifyLines (s : String) : String := String.ofList (unifyChars s.toList)

end Text

end TokenBroker
