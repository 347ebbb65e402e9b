import TokenBroker.Json.Basic
import TokenBroker.Time.Reader

/-!
# Validation

Typed values from JSON, with every issue found on the way. A `Checked` value is either a value or a
list of issues, and combining two of them keeps the issues of both, in order. The checks accept the
neighbouring spellings of a type, such as a number in a text, where its meaning is plain.
-/

namespace TokenBroker

/-- A step from a value to a part of it. -/
inductive Segment
  | name (s : String)
  | index (i : Nat)
  deriving DecidableEq, Repr

/-- What is wrong with a value. -/
inductive IssueKind
  | missing
  | stringType
  | intType
  | intParsing
  | intFromFloat
  | intParsingSize
  | finiteNumber
  | floatType
  | floatParsing
  | boolType
  | boolParsing
  | enum
  | listType
  | sequenceType
  | objectType
  | modelType
  | datetimeType
  | datetimeParsing
  | datetimeFromDateParsing
  | greaterThan
  | greaterThanEqual
  | lessThanEqual
  deriving DecidableEq, Repr

/-- The label of an issue. -/
def IssueKind.label : IssueKind → String
  | .missing => "missing"
  | .stringType => "string_type"
  | .intType => "int_type"
  | .intParsing => "int_parsing"
  | .intFromFloat => "int_from_float"
  | .intParsingSize => "int_parsing_size"
  | .finiteNumber => "finite_number"
  | .floatType => "float_type"
  | .floatParsing => "float_parsing"
  | .boolType => "bool_type"
  | .boolParsing => "bool_parsing"
  | .enum => "enum"
  | .listType => "list_type"
  | .sequenceType => "tuple_type"
  | .objectType => "dict_type"
  | .modelType => "model_type"
  | .datetimeType => "datetime_type"
  | .datetimeParsing => "datetime_parsing"
  | .datetimeFromDateParsing => "datetime_from_date_parsing"
  | .greaterThan => "greater_than"
  | .greaterThanEqual => "greater_than_equal"
  | .lessThanEqual => "less_than_equal"

/-- An issue and the way to the value that has it. -/
structure Issue where
  place : List Segment
  kind : IssueKind
  deriving DecidableEq, Repr

/-- The place and label of an issue in one line. -/
def Issue.text (i : Issue) : String :=
  let step : Segment → String
    | .name s => s
    | .index n => toString n
  ".".intercalate (i.place.map step) ++ ": " ++ i.kind.label

/-- A value, or what is wrong with it. -/
inductive Checked (α : Type)
  | ok (value : α)
  | bad (issues : List Issue)

namespace Checked

variable {α β : Type}

/-- A value with one issue of its own. -/
def issue (kind : IssueKind) : Checked α := .bad [⟨[], kind⟩]

/-- The checked value of a function; issues stay. -/
def map (f : α → β) : Checked α → Checked β
  | .ok a => .ok (f a)
  | .bad is => .bad is

/-- The function's and the argument's issues together. -/
def app : Checked (α → β) → (Unit → Checked α) → Checked β
  | .ok f, a => (a ()).map f
  | .bad is, a =>
    match a () with
    | .ok _ => .bad is
    | .bad js => .bad (is ++ js)

instance : Functor Checked where
  map := map

instance : Pure Checked where
  pure := .ok

instance : Seq Checked where
  seq := app

/-- A further check of a checked value. -/
def andThen (a : Checked α) (check : α → Checked β) : Checked β :=
  match a with
  | .ok a => check a
  | .bad is => .bad is

/-- The issues of a part, seen from the whole. -/
def within (segment : Segment) : Checked α → Checked α
  | .ok a => .ok a
  | .bad is => .bad (is.map fun i => { i with place := segment :: i.place })

/-- All values of a list, or all issues of them. -/
def all : List (Checked α) → Checked (List α)
  | [] => .ok []
  | a :: rest => app (a.map List.cons) fun _ => all rest

end Checked

/-- A value that does not fit the model of a name. -/
structure Invalid where
  model : String
  issues : List Issue
  deriving DecidableEq, Repr

/-- How many issues a value has, and with what model. -/
def Invalid.headline (i : Invalid) : String :=
  let noun := if i.issues.length = 1 then "error" else "errors"
  s!"{i.issues.length} validation {noun} for {i.model}"

/-- The headline and a line for every issue. -/
def Invalid.message (i : Invalid) : String :=
  "\n".intercalate (i.headline :: i.issues.map Issue.text)

/-- The value, or the issues under the name of its model. -/
def Checked.named {α : Type} (model : String) : Checked α → Except Invalid α
  | .ok a => .ok a
  | .bad is => .error ⟨model, is⟩

namespace Validate

variable {α : Type}

/-! ## Members -/

/-- A member that has to be there. -/
def required (name : String) (check : Json → Checked α) (ms : List (String × Json)) : Checked α :=
  match Json.lookup? name ms with
  | none => .bad [⟨[.name name], .missing⟩]
  | some j => (check j).within (.name name)

/-- A member that stands for `default` when it is absent. -/
def defaulted (name : String) (check : Json → Checked α) (default : α) (ms : List (String × Json)) :
    Checked α :=
  match Json.lookup? name ms with
  | none => .ok default
  | some j => (check j).within (.name name)

/-- A value or null. -/
def nullable (check : Json → Checked α) : Json → Checked (Option α)
  | .null => .ok none
  | j => (check j).map some

/-- A member that may be absent or null. -/
def optional (name : String) (check : Json → Checked α) (ms : List (String × Json)) :
    Checked (Option α) :=
  defaulted name (nullable check) none ms

/-- An object whose members make up a model. -/
def model (check : List (String × Json) → Checked α) : Json → Checked α
  | .obj ms => check ms
  | _ => .issue .modelType

/-! ## Texts and containers -/

/-- A text. -/
def string : Json → Checked String
  | .str s => .ok s
  | _ => .issue .stringType

/-- The items of an array. -/
def items (check : Json → Checked α) (js : List Json) : Checked (List α) :=
  .all (js.zipIdx.map fun (j, i) => (check j).within (.index i))

/-- An array that is kept as a fixed sequence. -/
def sequence (check : Json → Checked α) : Json → Checked (List α)
  | .arr js => items check js
  | _ => .issue .sequenceType

/-- An array. -/
def list (check : Json → Checked α) : Json → Checked (List α)
  | .arr js => items check js
  | _ => .issue .listType

/-- An object as it is. -/
def object : Json → Checked (List (String × Json))
  | .obj ms => .ok ms
  | _ => .issue .objectType

/-- An object whose values are checked. -/
def objectOf (check : Json → Checked α) : Json → Checked (List (String × α))
  | .obj ms => .all (ms.map fun (name, j) => ((check j).within (.name name)).map (name, ·))
  | _ => .issue .objectType

/-- A text among the names of a finite type. -/
def enumeration (ofName? : String → Option α) : Json → Checked α
  | .str s =>
    match ofName? s with
    | some a => .ok a
    | none => .issue .enum
  | _ => .issue .enum

/-! ## Numbers -/

/-- The bound of the magnitudes that 64 bits hold. -/
def longLimit : Int := 9223372036854775808

/-- An integer; a boolean counts as one or zero, and a float or a text as the integer it denotes. A
float has to have a magnitude below `longLimit`. -/
def int : Json → Checked Int
  | .int n => .ok n
  | .bool b => .ok (if b then 1 else 0)
  | .float x =>
    if !x.isFinite then .issue .finiteNumber
    else
      match x.whole? with
      | none => .issue .intFromFloat
      | some n => if -longLimit < n ∧ n < longLimit then .ok n else .issue .intParsingSize
  | .str s =>
    match Numeral.settingInt? s with
    | some n => .ok n
    | none => .issue .intParsing
  | _ => .issue .intType

/-- An integer greater than a bound. -/
def above (bound n : Int) : Checked Int := if bound < n then .ok n else .issue .greaterThan

/-- An integer no less than a bound. -/
def atLeast (bound n : Int) : Checked Int := if bound ≤ n then .ok n else .issue .greaterThanEqual

/-- An integer no greater than a bound. -/
def atMost (bound n : Int) : Checked Int := if n ≤ bound then .ok n else .issue .lessThanEqual

/-- A floating-point number; integers, booleans and texts count as the number they denote. -/
def float : Json → Checked Binary64
  | .float x => .ok x
  | .int n =>
    match Binary64.ofInt? n with
    | some x => .ok x
    | none => .issue .floatType
  | .bool b => .ok (if b then .ofRatio false 1 1 else .zero false)
  | .str s =>
    match Numeral.settingFloat? s with
    | some x => .ok x
    | none => .issue .floatParsing
  | _ => .issue .floatType

/-- A floating-point number greater than zero. -/
def positive (x : Binary64) : Checked Binary64 :=
  if x.isPositive then .ok x else .issue .greaterThan

/-- The texts that mean false. -/
def falseWords : List String := ["0", "off", "f", "false", "n", "no"]

/-- The texts that mean true. -/
def trueWords : List String := ["1", "on", "t", "true", "y", "yes"]

/-- A boolean; the numbers zero and one and a few words count as one. -/
def bool : Json → Checked Bool
  | .bool b => .ok b
  | .int n => if n = 0 then .ok false else if n = 1 then .ok true else .issue .boolParsing
  | .float x =>
    match x.whole? with
    | some 0 => .ok false
    | some 1 => .ok true
    | _ => .issue .boolType
  | .str s =>
    if trueWords.contains s.toLower then .ok true
    else if falseWords.contains s.toLower then .ok false
    else .issue .boolParsing
  | _ => .issue .boolType

/-! ## Times -/

/-- A time as text, or as a number of seconds or milliseconds. -/
def time : Json → Checked DateTime
  | .str s =>
    match DateTime.read s with
    | .ok t => .ok t
    | .error .malformed => .issue .datetimeFromDateParsing
    | .error .outOfRange => .issue .datetimeParsing
  | .int n =>
    match DateTime.ofUnix? n with
    | some t => .ok t
    | none => .issue .datetimeParsing
  | .float x =>
    match DateTime.ofUnixFraction? x with
    | some t => .ok t
    | none => .issue .datetimeParsing
  | _ => .issue .datetimeType

end Validate

end TokenBroker
