import TokenBroker.Environment
import TokenBroker.Log
import TokenBroker.Output.Screen
import TokenBroker.Text.Fold

/-!
# Presentation

How a command shows things. Data go to standard output, as JSON, as plain lines or drawn for a
terminal. Diagnostics go to standard error: without colour as they are, else as marked-up text that
is folded at the columns of the screen, or drawn in its styles where standard error counts as a
terminal. A presentation is settled once, from what the user asks for, the environment, and the
screen.
-/

namespace TokenBroker

/-- The formats of data. -/
inductive OutputFormat
  | json
  | plain
  /-- Drawn for a terminal. -/
  | rich
  deriving DecidableEq, Repr

/-- The name of a format. -/
def OutputFormat.name : OutputFormat → String
  | .json => "json"
  | .plain => "plain"
  | .rich => "rich"

/-- What the user asks for; without a format it is chosen by the terminal. -/
structure Preferences where
  format : Option OutputFormat := none
  noColor : Bool := false
  quiet : Bool := false
  verbose : Bool := false
  deriving DecidableEq, Repr

/-- The format that a name asks for; `auto` leaves the choice to the terminal. -/
def OutputFormat.ofName (name : String) : Except Fault (Option OutputFormat) :=
  match name with
  | "auto" => .ok none
  | "json" => .ok (some .json)
  | "plain" => .ok (some .plain)
  | "rich" => .ok (some .rich)
  | name => .error (.unknownName (.str name) "OutputFormat")

/-- How things are shown. -/
structure Presentation where
  format : OutputFormat
  color : Bool
  quiet : Bool
  verbose : Bool
  /-- The columns of a line. -/
  columns : Nat
  /-- Whether diagnostics in colour are drawn in their styles. -/
  styled : Bool
  drawing : Drawing

namespace Presentation

/-- The presentation for what the user asks for, in an environment and on a screen. -/
def settle (p : Preferences) (env : Environment) (screen : Screen) : Presentation :=
  let color := !p.noColor && !env.refusesColor
  { format := p.format.getD (if screen.output && color then .rich else .plain)
    color
    quiet := p.quiet
    verbose := p.verbose
    columns := env.columns screen.columns
    styled := env.assumesTerminal screen.error
    drawing := screen.drawing }

/-- The lowest level of the log that is shown. -/
def logLevel (p : Presentation) : LogLevel := if p.verbose then .debug else .warning

/-- Whether an entry of the log is shown. -/
def shows (p : Presentation) (e : LogEntry) : Bool := p.verbose || e.level == .warning

/-! ## Data -/

/-- A text on lines of its own. -/
def line (s : String) : String := s ++ "\n"

/-- A value without JSON: the members of an object and the items of an array on a line each. -/
def plainLines : Json → List String
  | .obj ms => ms.map fun (name, value) => s!"{name}\t{value.text}"
  | .arr js => js.map Json.text
  | j => [j.text]

/-- A value on standard output. -/
def response (p : Presentation) (j : Json) : String :=
  match p.format with
  | .json => line (j.render .readable)
  | .plain => String.join ((plainLines j).map line)
  | .rich => p.drawing.response p.columns j

/-- A row under its headers, as an object. A header counts as often as there are cells; of equal
headers the last cell counts. -/
def record (headers row : List String) : Json :=
  .obj ((headers.zip row).foldl (fun ms (name, cell) => Table.put ms name (.str cell)) [])

/-- A table on standard output; only a drawn one has a title. -/
def table (p : Presentation) (headers : List String) (rows : List (List String)) (title : String) :
    Except Markup.Error String :=
  match p.format with
  | .json => .ok (line ((Json.arr (rows.map (record headers))).render .readable))
  | .plain => .ok (String.join ((headers :: rows).map fun row => line ("\t".intercalate row)))
  | .rich => p.drawing.table p.columns headers rows title

/-! ## Diagnostics -/

/-- A text on the lines of a screen of some columns. A screen without columns shows nothing. -/
def folded (columns : Nat) (s : String) : String :=
  if columns = 0 then ""
  else String.join ((Text.fold columns s.toList).map fun cs => line (String.ofList cs))

/-- A diagnostic, from its text and its marked-up text. -/
def diagnostic (p : Presentation) (text marked : String) : Except Markup.Error String :=
  if p.color then
    (Markup.plain marked).map fun seen =>
      if p.styled then p.drawing.marked p.columns marked else folded p.columns seen
  else .ok (line text)

/-- A notice. -/
def info (p : Presentation) (s : String) : Except Markup.Error String :=
  if p.quiet then .ok "" else p.diagnostic s s

/-- A report of success. -/
def success (p : Presentation) (s : String) : Except Markup.Error String :=
  if p.quiet then .ok "" else p.diagnostic s s!"[green]{s}[/green]"

/-- A report of an error, which quiet users get too. -/
def error (p : Presentation) (s : String) : Except Markup.Error String :=
  p.diagnostic s!"Error: {s}" s!"[bold red]Error:[/bold red] {s}"

/-- A hint. -/
def suggest (p : Presentation) (s : String) : Except Markup.Error String :=
  if p.quiet then .ok "" else p.diagnostic s!"→ {s}" s!"[dim]→ {s}[/dim]"

/-- A remark for those who want to know more. -/
def debug (p : Presentation) (s : String) : Except Markup.Error String :=
  if p.verbose then p.diagnostic s!"[debug] {s}" ("[dim]\\[debug] " ++ s!"{s}[/dim]") else .ok ""

end Presentation

end TokenBroker
