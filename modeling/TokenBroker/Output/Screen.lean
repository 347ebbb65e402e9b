import TokenBroker.Json.Printer
import TokenBroker.Output.Markup

/-!
# The screen

What a program finds where its output goes: whether that is a terminal, how wide it is, and how
things are drawn there. The drawing is a parameter of all that is said here; `Drawing.bare` is one
without boxes and styles.
-/

namespace TokenBroker

/-- How things are drawn on a screen of some columns. -/
structure Drawing where
  /-- A value. -/
  response : Nat → Json → String
  /-- A table with its headers, its rows and its title, all of which may be marked up. -/
  table : Nat → List String → List (List String) → String → Except Markup.Error String
  /-- A marked-up text in its styles. -/
  marked : Nat → String → String

namespace Drawing

/-- The widths of columns. -/
def widths (rows : List (List String)) : List Nat :=
  rows.foldl (fun ws row => (List.range (max ws.length row.length)).map fun i =>
    max (ws.getD i 0) ((row.map String.length).getD i 0)) []

/-- Rows with their cells filled up to the widths of the columns. -/
def aligned (rows : List (List String)) : List String :=
  let ws := widths rows
  rows.map fun row => "  ".intercalate ((row.zip ws).map fun (cell, w) =>
    cell ++ String.ofList (List.replicate (w - cell.length) ' '))

/-- A drawing that folds nothing and leaves markup as it is. -/
def bare : Drawing where
  response _ j := j.render .readable ++ "\n"
  table _ headers rows title :=
    .ok (String.join ((title :: aligned (headers :: rows)).map (· ++ "\n")))
  marked _ s := s ++ "\n"

end Drawing

/-- Where output goes. -/
structure Screen where
  /-- Whether standard output is a terminal. -/
  output : Bool := false
  /-- Whether standard error is a terminal. -/
  error : Bool := false
  /-- The columns of the terminal, if there is one. -/
  columns : Option Nat := none
  drawing : Drawing := .bare

end TokenBroker
