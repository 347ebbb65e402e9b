/-!
# Options

Words of a command line as options and arguments. A long option stands behind two dashes and may
have its value behind `=`; options of one letter stand together behind one dash, and what follows a
letter that takes a value is its value. A value may also be the next word, whatever that is. Two
dashes alone end the options.
-/

namespace TokenBroker

/-- An option: its name, its letter, and whether it takes a value. -/
structure CommandOption where
  name : String
  letter : Option Char := none
  takesValue : Bool := false
  deriving DecidableEq, Repr

/-- What is wrong with a command line. -/
inductive UsageError
  | unknownOption (word : String)
  | missingValue (name : String)
  | unexpectedValue (name : String)
  | missingCommand
  | unknownCommand (word : String)
  | missingArgument (name : String)
  | extraArguments (words : List String)
  deriving DecidableEq, Repr

/-- The message for a wrong command line. -/
def UsageError.message : UsageError → String
  | .unknownOption word => s!"No such option: {word}"
  | .missingValue name => s!"Option '--{name}' requires an argument."
  | .unexpectedValue name => s!"Option '--{name}' does not take a value."
  | .missingCommand => "Missing command."
  | .unknownCommand word => s!"No such command '{word}'."
  | .missingArgument name => s!"Missing argument '{name}'."
  | .extraArguments words =>
    let listed := " ".intercalate words
    s!"Got unexpected extra arguments ({listed})"

/-- The options of a command line, by name with their values in order, and its arguments. -/
structure Words where
  options : List (String × Option String) := []
  arguments : List String := []
  deriving DecidableEq, Repr

namespace Words

/-- Whether an option is given. -/
def has (w : Words) (name : String) : Bool := w.options.any (·.1 == name)

/-- The last value of an option. -/
def value? (w : Words) (name : String) : Option String :=
  (w.options.reverse.find? (·.1 == name)).bind (·.2)

end Words

namespace CommandOption

/-- The options of letters that stand together, and the option among them that still needs a
value. -/
def letters (options : List CommandOption) :
    List Char → Except UsageError (List (String × Option String) × Option String)
  | [] => .ok ([], none)
  | c :: cs =>
    match options.find? (·.letter == some c) with
    | none => .error (.unknownOption (String.ofList ['-', c]))
    | some o =>
      if o.takesValue then
        if cs.isEmpty then .ok ([], some o.name)
        else .ok ([(o.name, some (String.ofList cs))], none)
      else do
        let (given, open?) ← letters options cs
        return ((o.name, none) :: given, open?)

/-- A word as options and, if the last of them still needs a value, that one; none if the word is no
option. -/
def ofWord (options : List CommandOption) (word : String) :
    Except UsageError (Option (List (String × Option String) × Option String)) :=
  match word.toList with
  | '-' :: '-' :: body =>
    let name := String.ofList (body.takeWhile (· ≠ '='))
    match options.find? (·.name == name), body.dropWhile (· ≠ '=') with
    | none, _ => .error (.unknownOption s!"--{name}")
    | some o, [] => if o.takesValue then .ok (some ([], some o.name)) else .ok
        (some ([(o.name, none)], none))
    | some o, _ :: value =>
      if o.takesValue then .ok (some ([(o.name, some (String.ofList value))], none))
      else .error (.unexpectedValue o.name)
  | ['-'] => .ok none
  | '-' :: cs => some <$> letters options cs
  | _ => .ok none

/-- The options and arguments of words. Unless options may follow arguments, all words from the
first argument on are arguments. -/
def scan (options : List CommandOption) (mixed : Bool) : List String → Except UsageError Words
  | [] => .ok {}
  | "--" :: rest => .ok { arguments := rest }
  | word :: rest => do
    match ← ofWord options word with
    | none =>
      let w ← bif mixed then scan options mixed rest else .ok { arguments := rest }
      return { w with arguments := word :: w.arguments }
    | some (given, none) =>
      let w ← scan options mixed rest
      return { w with options := given ++ w.options }
    | some (given, some name) =>
      match rest with
      | [] => throw (.missingValue name)
      | value :: rest =>
        let w ← scan options mixed rest
        return { w with options := given ++ (name, some value) :: w.options }

end CommandOption

end TokenBroker
