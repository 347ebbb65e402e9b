import TokenBroker.Output.Markup.Color
import TokenBroker.Text.Blank

/-!
# Styles

A style is named by words: attributes, each of which may be taken back by `not`, a colour, a colour
after `on` for the background, and the target of a link. Two names of one style have the same normal
form; a name that is no style is its own normal form, but for its case and the white space around
it.
-/

namespace TokenBroker

/-- A style. -/
structure Style where
  /-- The attributes that are set or taken back. -/
  attributes : List (String × Bool) := []
  color : Option (List Char) := none
  background : Option (List Char) := none
  link : Option (List Char) := none
  deriving DecidableEq, Repr

namespace Style

/-- The attributes, in the order of a normal form. -/
def attributeNames : List String :=
  ["bold", "dim", "italic", "underline", "blink", "blink2", "reverse", "conceal", "strike",
    "underline2", "frame", "encircle", "overline"]

/-- The shorter words of attributes. -/
def shortNames : List (String × String) :=
  [("b", "bold"), ("d", "dim"), ("i", "italic"), ("u", "underline"), ("uu", "underline2"),
    ("r", "reverse"), ("c", "conceal"), ("s", "strike"), ("o", "overline")]

/-- The attribute that a word is. -/
def attribute? (word : List Char) : Option String :=
  let word := String.ofList word
  if attributeNames.contains word then some word else shortNames.lookup word

/-- The style with an attribute set or taken back. -/
def setAttribute (name : String) (value : Bool) (s : Style) : Style :=
  { s with attributes := (name, value) :: s.attributes.filter (·.1 ≠ name) }

/-- The style with what a word says by itself: an attribute or else a colour. -/
def addWord (s : Style) (word : List Char) : Except Color.Problem Style :=
  match attribute? (Text.lower word) with
  | some name => .ok (s.setAttribute name true)
  | none => do
    let name ← Color.name word
    return { s with color := some name }

/-- The words that say nothing without another one after them. -/
def isLeading (word : List Char) : Bool :=
  ["on", "not", "link"].contains (String.ofList (Text.lower word))

/-- The style with what a leading word and the one after it say. -/
def addPair (s : Style) (leading word : List Char) : Except Color.Problem Style :=
  match String.ofList (Text.lower leading) with
  | "on" => do
    let name ← Color.name word
    return { s with background := some name }
  | "not" =>
    match attribute? word with
    | some name => .ok (s.setAttribute name false)
    | none => .error .unknown
  | _ => .ok { s with link := some word }

/-- The style that words add up to. -/
def ofWords (s : Style) : List (List Char) → Except Color.Problem Style
  | [] => .ok s
  | [word] => if isLeading word then .error .unknown else s.addWord word
  | word :: next :: rest =>
    if isLeading word then do
      let s ← s.addPair word next
      ofWords s rest
    else do
      let s ← s.addWord word
      ofWords s (next :: rest)
termination_by words => words.length

/-- The words of a name. -/
def words (name : List Char) : List (List Char) :=
  (name.splitOnP Text.isBlankOrSeparator).filter (· ≠ [])

/-- The word for a style that changes nothing. -/
def noneName : List Char := "none".toList

/-- The normal form of a style's name. -/
def normalForm (s : Style) : List Char :=
  let attributes := attributeNames.filterMap fun name =>
    (s.attributes.lookup name).map fun value => (if value then name else "not " ++ name).toList
  let colors := s.color.toList ++ s.background.toList.map ("on ".toList ++ ·)
  match attributes ++ colors ++ s.link.toList.map ("link ".toList ++ ·) with
  | [] => noneName
  | parts => List.intercalate [' '] parts

/-- The normal form of a name, unless a colour in it cannot even be refused. -/
def normalName (name : List Char) : Except Color.Problem (List Char) :=
  if Text.stripChars Text.isBlankOrSeparator name = noneName then .ok noneName
  else
    match ofWords {} (words name) with
    | .ok s => .ok s.normalForm
    | .error .unknown => .ok (Text.lower (Text.stripChars Text.isBlankOrSeparator name))
    | .error .emptyPart => .error .emptyPart

end Style

end TokenBroker
