import TokenBroker.Output.Emoji
import TokenBroker.Output.Markup.Literal.Reader
import TokenBroker.Output.Markup.Style
import TokenBroker.Output.Markup.Tag
import TokenBroker.Text.Blank
import TokenBroker.Text.Quoted
import TokenBroker.Text.Width

/-!
# Markup

Diagnostics may hold tags in square brackets: `[bold]` opens a style and `[/bold]` or `[/]` closes
one, and codes such as `:key:` for emoji. `Markup.plain` is the text without its tags, with emoji
for their codes and blanks for tabs. A closing tag needs an open one, and a handler that is closed
needs proper parameters.
-/

namespace TokenBroker

/-! ## Handlers

A tag whose name starts with `@` calls a handler. Its parameters are a word, or a literal, or a word
and a literal in parentheses behind it; without a literal the handler is called with nothing. They
are read where the tag is closed.
-/

namespace Handler

/-- Why parameters are none. The parameters are told as they are written. -/
inductive Problem
  /-- A literal that is wrong. -/
  | wrong (literal parameters : List Char) (p : Literal.Problem)
  /-- A literal of which no value can be made. -/
  | impossible (parameters : List Char) (reason : String)
  deriving DecidableEq, Repr

/-- The message of a problem. -/
def Problem.message : Problem → String
  | .wrong literal parameters p =>
    let part := Text.quoted (String.ofList literal)
    let whole := Text.quoted (String.ofList parameters)
    s!"error parsing {part} in {whole}; {p.message}"
  | .impossible parameters reason =>
    let whole := Text.quoted (String.ofList parameters)
    s!"error parsing {whole}; {reason}"

/-- Whether a character belongs to the name of a handler. -/
def isNameChar (c : Char) : Bool :=
  c == '.' || c == '_' || c.isAlphanum || (0x80 ≤ c.toNat && Text.isPrintable c && !Text.isSymbol c)

/-- The literal that a handler without one is called with. -/
def nothing : List Char := "()".toList

/-- The literal of parameters. -/
def literalOf (parameters : List Char) : List Char :=
  let name := parameters.takeWhile isNameChar
  match parameters.drop name.length with
  | [] => nothing
  | rest => if rest.head? = some '(' ∧ rest.getLast? = some ')' ∧
      '\n' ∉ rest then rest else parameters

/-- Why a literal that holds a NUL has no value. -/
def nulReason : String := "source code string cannot contain null bytes"

/-- Checks the parameters of a handler. -/
def check (parameters : List Char) : Except Problem Unit :=
  let literal := literalOf (Text.stripChars Text.isBlankOrSeparator parameters)
  if '\x00' ∈ literal then .error (.impossible parameters nulReason)
  else
    match Literal.read (Text.unifyChars literal) with
    | .error p => .error (.wrong literal parameters p)
    | .ok v =>
      match v.fault with
      | some reason => .error (.impossible parameters reason)
      | none => .ok ()

end Handler

/-! ## Marked-up texts -/

namespace Markup

/-- What is wrong with a marked-up text. -/
inductive Error
  /-- No style is open. -/
  | nothingOpen (position : Nat)
  /-- The style that a closing tag names is not open. -/
  | notOpen (tag : String) (position : Nat)
  | handler (p : Handler.Problem)
  /-- A colour of which a part is left empty. -/
  | emptyColorPart
  deriving DecidableEq, Repr

/-- The message of a markup error. -/
def Error.message : Error → String
  | .nothingOpen position => s!"closing tag '[/]' at position {position} has nothing to close"
  | .notOpen tag position =>
    s!"closing tag '{tag}' at position {position} doesn't match any open tag"
  | .handler p => p.message
  | .emptyColorPart => "invalid literal for int() with base 10: ''"

/-- An open tag: the normal form of its name, and its parameters. -/
structure Opened where
  name : List Char
  parameters : Option (List Char)
  deriving DecidableEq, Repr

/-- The open tags without the last one of a name, and that one. -/
def close? (name : List Char) : List Opened → Option (Opened × List Opened)
  | [] => none
  | tag :: tags =>
    if tag.name = name then some (tag, tags)
    else (close? name tags).map fun (found, rest) => (found, tag :: rest)

/-- The normal form of the name of a tag. -/
def normalName (name : List Char) : Except Error (List Char) :=
  (Style.normalName name).mapError fun _ => .emptyColorPart

/-- Checks an open tag where it is closed. -/
def Opened.check (tag : Opened) : Except Error Unit :=
  match tag.name, tag.parameters with
  | '@' :: _, some (p :: ps) => (Handler.check (p :: ps)).mapError .handler
  | _, _ => .ok ()

/-- The tags that are open behind a tag, the last one first. -/
def afterTag (opened : List Opened) (t : Tag) : Except Error (List Opened) :=
  match t.name with
  | '/' :: name =>
    match Text.stripChars Text.isBlankOrSeparator name, opened with
    | [], [] => .error (.nothingOpen t.position)
    | [], tag :: rest => do
      tag.check
      return rest
    | name, opened => do
      match close? (← normalName name) opened with
      | some (tag, rest) =>
        tag.check
        return rest
      | none => throw (.notOpen t.text t.position)
  | name => do return ⟨← normalName name, t.parameters⟩ :: opened

/-- The control characters that do not reach a terminal: bell, backspace, vertical tab, form feed
and carriage return. -/
def isDropped (c : Char) : Bool :=
  c = '\x07' || c = '\x08' || c = '\x0b' || c = '\x0c' || c = '\x0d'

/-- What is seen of a text without tags: emoji for their codes, and no controls. -/
def seen (cs : List Char) : List Char := (Emoji.replace cs).filter (!isDropped ·)

/-- What is seen of pieces, given the tags that are open, the last one first. -/
def seenOf (opened : List Opened) : List Piece → Except Error (List Char)
  | [] => .ok []
  | .text cs :: rest => (seenOf opened rest).map (seen cs ++ ·)
  | .tag t :: rest => do seenOf (← afterTag opened t) rest

/-- The columns between two tab stops. -/
def tabStops : Nat := 8

/-- A text that goes on at a column after the reversed text `part`, with each tab drawn out to the
next tab stop. -/
def expandTabs (column : Nat) (part : List Char) : List Char → List Char
  | [] => part.reverse
  | '\t' :: cs =>
    let cell := (' ' :: part).reverse
    let column := column + Text.width cell
    let gap := (tabStops - column % tabStops) % tabStops
    cell ++ List.replicate gap ' ' ++ expandTabs (column + gap) [] cs
  | '\n' :: cs => part.reverse ++ '\n' :: expandTabs 0 [] cs
  | c :: cs => expandTabs column (c :: part) cs

/-- What is seen of a marked-up text where there are no colours, on a line of any length: it is the
screen that folds it. -/
def plain (s : String) : Except Error String :=
  (seenOf [] (pieces s.toList)).map fun cs => String.ofList (expandTabs 0 [] cs)

end Markup

end TokenBroker
