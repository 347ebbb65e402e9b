import TokenBroker.Output.Emoji.Pictographs
import TokenBroker.Output.Emoji.Sequences
import TokenBroker.Text.Blank
import TokenBroker.Text.LowerCase

/-!
# Emoji codes

A diagnostic may call an emoji by a name between colons, as in `:key:`, with `-text` or `-emoji`
behind the name to select how it is drawn. `Emoji.replace` puts the emoji in the place of their
codes and leaves codes of unknown names alone. A code holds no white space, and its colons belong to
no other code.
-/

namespace TokenBroker

namespace Emoji

/-- The names and emoji of a table: entries between blanks, each an emoji and its names after a
colon with commas between them. -/
def entriesOf (table : String) : List (String × String) :=
  (table.splitOn " ").flatMap fun entry =>
    match entry.splitOn ":" with
    | [emoji, names] => (names.splitOn ",").map fun name => (name, emoji)
    | _ => []

/-- The flags of the countries of a larger one, by the letters of their codes. -/
def subdivisions : List (String × String) :=
  [("england", "gbeng"), ("scotland", "gbsct"), ("wales", "gbwls")]

/-- The flag of a subdivision: a black flag, the letters of the code as tags, and an end. -/
def subdivisionFlag (code : String) : String :=
  String.ofList ('🏴' :: code.toList.map (fun c => Char.ofNat (0xE0000 + c.toNat)) ++
    [Char.ofNat 0xE007F])

/-- The emoji that have no more than their own names. -/
def table : List (String × String) :=
  [signs, pictographs, faces, traffic, supplement, joined, plainFlags, flags, toned].flatMap
    entriesOf ++ subdivisions.map fun (name, code) => (name, subdivisionFlag code)

/-- The emoji that take a tone. -/
def tonedTable : List (String × String) := entriesOf toned

/-- The flags that have a longer name besides. -/
def flagTable : List (String × String) := entriesOf flags

/-- The skin tones, by what names end in. -/
def tones : List (String × Char) :=
  [("_light_skin_tone", '🏻'), ("_medium-light_skin_tone", '🏼'), ("_medium_skin_tone", '🏽'),
    ("_medium-dark_skin_tone", '🏾'), ("_dark_skin_tone", '🏿')]

/-- What stands before the name of a flag in its longer name. -/
def flagPrefix : String := "flag_for_"

/-- What selects how an emoji is drawn. -/
def selector : Char := '\ufe0f'

/-- What selects that an emoji is drawn as text. -/
def textSelector : Char := '\ufe0e'

/-- An emoji with a tone, which stands behind its first character and in the place of a selector
there. -/
def withTone (tone : Char) (emoji : String) : String :=
  match emoji.toList with
  | [] => ""
  | c :: cs => String.ofList (c :: tone :: cs.dropWhile (· = selector))

/-- The emoji of a name with a tone. -/
def ofTonedName? (name : String) : Option String :=
  tones.findSome? fun (ending, tone) =>
    if name.endsWith ending then
      (tonedTable.lookup (String.ofList (name.toList.take (name.length - ending.length)))).map
        (withTone tone)
    else none

/-- The flag of its longer name. -/
def ofFlagName? (name : String) : Option String :=
  if name.startsWith flagPrefix then
    flagTable.lookup (String.ofList (name.toList.drop flagPrefix.length))
  else none

/-- The emoji of a name in small letters. -/
def ofName? (name : String) : Option String :=
  table.lookup name <|> ofTonedName? name <|> ofFlagName? name

/-- The ends of a code that select how it is drawn. -/
def variants : List (List Char × Char) :=
  [("-text".toList, textSelector), ("-emoji".toList, selector)]

/-- The emoji of a code without its colons. -/
def ofCode? (code : List Char) : Option (List Char) :=
  let variant := variants.find? fun (ending, _) => ending.isSuffixOf code
  let name := code.take (code.length - (variant.map (·.1.length)).getD 0)
  (ofName? (String.ofList (Text.lower name))).map fun emoji =>
    emoji.toList ++ (variant.map (·.2)).toList

/-- The code after a colon, and the text after the colon that ends it. -/
def code? (cs : List Char) : Option (List Char × List Char) :=
  let code := cs.takeWhile fun c => c ≠ ':' && !Text.isBlankOrSeparator c
  match cs.drop code.length with
  | ':' :: rest => some (code, rest)
  | _ => none

/-- A code takes at least its last colon. -/
theorem code?_shorter {cs code rest : List Char} (h : code? cs = some (code, rest)) :
    rest.length < cs.length := by
  unfold code? at h
  simp only at h
  split at h
  · rename_i r hd
    have hlen := congrArg List.length hd
    simp only [List.length_drop, List.length_cons] at hlen
    simp only [Option.some.injEq, Prod.mk.injEq] at h
    rw [← h.2]
    omega
  · cases h

/-- A text with emoji for the codes of known names. -/
def replace : List Char → List Char
  | [] => []
  | c :: cs =>
    if c = ':' then
      match h : code? cs with
      | some (code, rest) =>
        have := code?_shorter h
        (ofCode? code).getD (':' :: code ++ [':']) ++ replace rest
      | none => c :: replace cs
    else c :: replace cs
termination_by cs => cs.length
decreasing_by
  all_goals simp_wf
  all_goals omega

end Emoji

end TokenBroker
