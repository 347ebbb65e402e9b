import TokenBroker.Text.Blank
import TokenBroker.Text.Width

/-!
# Folding

A text on a screen of some columns. A word stays whole where a line has room for it, and goes to the
next line where that has; one that is wider than any line is cut wherever a line is full. Blanks
stay behind the word that they follow, and those beyond the last column go.

A cut never parts characters that are shown as one: `clusters` puts such characters together.
-/

namespace TokenBroker

namespace Text

/-! ## Clusters -/

/-- Characters that are shown as one, and the columns that they take. -/
structure Cluster where
  chars : List Char
  columns : Nat
  deriving DecidableEq, Repr

/-- The clusters of a text of which `now` is under way; `last` is the last character that takes a
column and is not widened yet. -/
def clustersFrom (last : Option Char) (now : Cluster) : List Char → List Cluster
  | [] => [now]
  | c :: cs =>
    if c = joiner then
      match cs with
      | [] => [⟨now.chars ++ [c], now.columns⟩]
      | hidden :: rest => clustersFrom last ⟨now.chars ++ [c, hidden], now.columns⟩ rest
    else if c = emojiSelector then
      if last.any (inRanges · widenedRanges) then
        clustersFrom none ⟨now.chars ++ [c], now.columns + 1⟩ cs
      else clustersFrom last ⟨now.chars ++ [c], now.columns⟩ cs
    else if charWidth c = 0 then clustersFrom last ⟨now.chars ++ [c], now.columns⟩ cs
    else now :: clustersFrom (some c) ⟨[c], charWidth c⟩ cs

/-- The clusters of a text. -/
def clusters : List Char → List Cluster
  | [] => []
  | c :: cs => clustersFrom (if charWidth c = 0 then none else some c) ⟨[c], charWidth c⟩ cs

/-- Clusters in pieces of at most some columns; the piece `part` is under way and takes `used`
columns. -/
def chopFrom (columns : Nat) (part : List Char) (used : Nat) : List Cluster → List (List Char)
  | [] => [part]
  | c :: cs =>
    if used + c.columns ≤ columns then chopFrom columns (part ++ c.chars) (used + c.columns) cs
    else part :: chopFrom columns c.chars c.columns cs

/-- A text in pieces of at most some columns. The first one is empty if not even one cluster has
room. -/
def chop (columns : Nat) (cs : List Char) : List (List Char) := chopFrom columns [] 0 (clusters cs)

/-- The clusters that some columns have room for. A column that is left of one that is wider is
blank. -/
def cropFrom (columns : Nat) : List Cluster → List Char
  | [] => []
  | c :: cs =>
    if columns = 0 then []
    else if c.columns ≤ columns then c.chars ++ cropFrom (columns - c.columns) cs
    else [' ']

/-- What some columns have room for. -/
def crop (columns : Nat) (cs : List Char) : List Char :=
  if width cs ≤ columns then cs else cropFrom columns (clusters cs)

/-! ## Words -/

/-- The words of a text of which `word` is under way; a word is `ended` by the blanks behind it. -/
def wordsFrom (word : List Char) (ended : Bool) : List Char → List (List Char)
  | [] => [word]
  | c :: cs =>
    if ended && !isBlankOrSeparator c then word :: wordsFrom [c] false cs
    else wordsFrom (word ++ [c]) (isBlankOrSeparator c) cs

/-- The words of a text, each with the blanks behind it, and the first one with those before it. -/
def words (cs : List Char) : List (List Char) :=
  wordsFrom (cs.takeWhile isBlankOrSeparator) false (cs.dropWhile isBlankOrSeparator)

/-- A text without the blanks at its end. -/
def trimEnd (cs : List Char) : List Char := (cs.reverse.dropWhile isBlankOrSeparator).reverse

/-! ## Lines -/

/-- The lines that a word is cut to that is wider than any. They start with `line`, which the word
ends; at the start of the text there is no line to end. -/
def cutWord (columns : Nat) (line word : List Char) : List (List Char) :=
  if line.isEmpty then (chop columns word).dropWhile (·.isEmpty) else line :: chop columns word

/-- The lines of words; `line` is under way and takes `used` columns. -/
def linesOfWords (columns : Nat) (line : List Char) (used : Nat) :
    List (List Char) → List (List Char)
  | [] => [line]
  | word :: rest =>
    if used + width (trimEnd word) ≤ columns then
      linesOfWords columns (line ++ word) (used + width word) rest
    else if width (trimEnd word) ≤ columns then line :: linesOfWords columns word (width word) rest
    else
      let pieces := cutWord columns line word
      let last := pieces.getLastD []
      pieces.dropLast ++ linesOfWords columns last (width last) rest

/-- A line without blanks at its end that stand beyond the last column. -/
def trimBeyond (columns : Nat) (line : List Char) : List Char :=
  let blanks := (line.reverse.takeWhile isBlankOrSeparator).length
  line.take (line.length - min blanks (line.length - columns))

/-- The lines of a text without line ends. -/
def foldLine (columns : Nat) (cs : List Char) : List (List Char) :=
  (linesOfWords columns [] 0 (words cs)).map fun line => crop columns (trimBeyond columns line)

/-- The lines of a text. -/
def fold (columns : Nat) (cs : List Char) : List (List Char) :=
  (cs.splitOn '\n').flatMap (foldLine columns)

end Text

end TokenBroker
