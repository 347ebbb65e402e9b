import TokenBroker.Output.Markup.Literal.Token

/-!
# Reading literals

Reads an expression that should be a literal: a constant, or a tuple, set or dictionary of literals.
The reader knows the grammar of all expressions, because what is wrong with one is told by how far
it is one.

An expression is read up to twice. The first reading finds whether it is one at all; only the second
looks for what may have been meant. A construct that breaks off is taken back, so that the words
before it stand by themselves. But a reader that looks at a place from which nothing can be read,
such as the end of the text inside a bracket, ends the reading at once.
-/

namespace TokenBroker

namespace Literal

/-- Why nothing is read: something else may stand there, or the expression is wrong. -/
inductive Stop
  | noMatch
  | wrong (p : Problem)
  deriving DecidableEq, Repr

/-- What an expression is. -/
structure Value where
  /-- What the expression is called. -/
  what : String
  /-- The type that keeps the value from being in a set. -/
  unhashable : Option String := none
  /-- Why the value cannot be made. -/
  fault : Option String := none
  /-- Whether the expression is of one level with arithmetic. -/
  isSum : Bool := true
  /-- Whether a value may be meant to be given to it, which what it begins with tells. -/
  isTarget : Bool := true
  /-- Whether it is a word. -/
  isWord : Bool := false
  /-- Whether it is a word, if in parentheses, that a statement may be meant by. -/
  isStatement : Bool := false

/-- Whether a value can be given to the expression. -/
def Value.isAssignable (v : Value) : Bool :=
  v.isWord || ["name", "attribute", "tuple"].contains v.what

/-- The tokens that are left. -/
abbrev Rest := List Token

/-- What a reader gives back. -/
abbrev Reading := Except Stop (Value × Rest)

/-- The words that name nothing. -/
def keywords : List String :=
  ["False", "None", "True", "and", "as", "assert", "async", "await", "break", "class",
    "continue", "def", "del", "elif", "else", "except", "finally", "for", "from", "global", "if",
    "import", "in", "is", "lambda",
    "nonlocal", "not", "or", "pass", "raise", "return", "try", "while", "with", "yield"]

/-- The words that are keywords in some places. -/
def softKeywords : List String := ["_", "case", "match"]

/-- The words that a statement may be meant by. -/
def statementWords : List String := ["exec", "print"]

/-- The name at the front. -/
def name? : Rest → Option (String × Rest)
  | ⟨.word s, _⟩ :: rest => if keywords.contains s then none else some (s, rest)
  | _ => none

/-- Whether a word is at the front. -/
def isAt (s : String) : Rest → Bool
  | ⟨.word t, _⟩ :: _ => s == t
  | ⟨.mark t, _⟩ :: _ => s == t
  | _ => false

/-- What is left behind a word or mark at the front. -/
def skip (s : String) (ts : Rest) : Except Stop Rest :=
  match ts with
  | ⟨.stop p, _⟩ :: _ => .error (.wrong p)
  | _ => if isAt s ts then .ok (ts.drop 1) else .error .noMatch

/-- Looks at the token at the front, which must not be a stop. -/
def look (ts : Rest) : Except Stop Unit :=
  match ts with
  | ⟨.stop p, _⟩ :: _ => .error (.wrong p)
  | _ => .ok ()

/-- The result of a reader, or else none if it does not match. -/
def attempt {α : Type} (r : Except Stop α) : Except Stop (Option α) :=
  match r with
  | .ok a => .ok (some a)
  | .error .noMatch => .ok none
  | .error (.wrong p) => .error (.wrong p)

/-- The depth of the last token that a reader took. -/
def lastDepth (before after : Rest) : Nat :=
  ((before.take (before.length - after.length)).getLast?.map (·.depth)).getD 0

/-- The marks and words between operands, by level: alternatives, both, comparisons, arithmetic. -/
def operator? (level : Nat) (ts : Rest) : Option Rest :=
  let firstOf (marks : List String) : Option Rest :=
    if marks.any (isAt · ts) then some (ts.drop 1) else none
  match level with
  | 0 => firstOf ["or"]
  | 1 => firstOf ["and"]
  | 2 =>
    if isAt "not" ts ∧ isAt "in" (ts.drop 1) then some (ts.drop 2)
    else if isAt "is" ts ∧ isAt "not" (ts.drop 1) then some (ts.drop 2)
    else firstOf ["==", "!=", "<", "<=", ">", ">=", "in", "is"]
  | _ => firstOf ["|", "^", "&", "<<", ">>", "+", "-", "*", "/", "//", "%", "@"]

/-- The level of arithmetic. -/
def sumLevel : Nat := 3

/-- What an expression with operators of a level is called. -/
def calledAt (level : Nat) : String := if level = 2 then "comparison" else "expression"

/-- A value that is in a set or the key of a dictionary. -/
def Value.inSet (v : Value) : Option String :=
  v.fault <|> v.unhashable.map fun type => s!"unhashable type: '{type}'"

/-- What comes of unpacking where a key is wanted. -/
def unpacked : String := "malformed node or string: None"

/-- A set of values. -/
def setOf (vs : List Value) : Value :=
  { what := "set display", unhashable := some "set", fault := vs.findSome? Value.inSet }

/-- A dictionary of keys and values; an entry without a key is unpacked. -/
def dictionaryOf (entries : List (Option Value × Value)) : Value where
  what := "dict literal"
  unhashable := some "dict"
  fault := entries.findSome? fun (key, value) =>
    match key with
    | none => some unpacked
    | some key => key.fault <|> value.fault <|> key.inSet

/-- A tuple of values. -/
def tupleOf (vs : List Value) : Value :=
  { what := "tuple", isTarget := false, unhashable := vs.findSome? (·.unhashable)
    fault := vs.findSome? (·.fault) }

/-- The texts at the front, if there is one. -/
def texts? : Rest → Option (List Bool × Rest)
  | ⟨.text b, _⟩ :: ts =>
    match texts? ts with
    | some (bs, rest) => some (b :: bs, rest)
    | none => some ([b], ts)
  | _ => none

/-- The kinds of arguments of a call that have been read. -/
inductive Seen
  | nothing
  | plain
  | named
  | unpacked
  deriving DecidableEq, Repr

/-- Finds that parameters, of which one may have been read, are in parentheses. -/
def hintParameters : (started : Bool) → Rest → Except Stop Unit
  | started, t :: ts =>
    match t.kind with
    | .mark "," => if started then hintParameters started ts else .ok ()
    | .mark ")" => if started then .error (.wrong .groupedParameters) else .ok ()
    | .word s => if keywords.contains s then .ok () else hintParameters true ts
    | .stop p => .error (.wrong p)
    | _ => .ok ()
  | _, [] => .ok ()

mutual

/-- An expression. With `hints`, it is told what may be missing behind one. -/
def expression (hints : Bool) : (fuel : Nat) → Rest → Reading
  | 0, _ => .error .noMatch
  | fuel + 1, ts => do
    if isAt "lambda" ts then
      if hints ∧ isAt "(" (ts.drop 1) then hintParameters false (ts.drop 2)
      let rest ← parameters hints fuel false (ts.drop 1)
      let (_, rest) ← expression hints fuel rest
      return ({ what := "lambda", isSum := false }, rest)
    let (v, rest) ← chain hints 0 fuel ts
    if hints then hint fuel ts v rest
    conditional hints fuel v rest

/-- What is left behind the parameters of a function without a name. -/
def parameters (hints : Bool) : (fuel : Nat) → (started : Bool) → Rest → Except Stop Rest
  | 0, _, _ => .error .noMatch
  | fuel + 1, started, ts => do
    if isAt ":" ts then return ts.drop 1
    if hints ∧ isAt "*" ts then
      let next := if isAt "," (ts.drop 1) then ts.drop 2 else ts.drop 1
      if isAt ":" next ∨ (isAt "," (ts.drop 1) ∧ isAt "**" next) then throw (.wrong .bareStar)
    let isLast := isAt "**" ts
    let isBare := (started && isAt "/" ts) || (isAt "*" ts && isAt "," (ts.drop 1))
    let rest ← if isBare then pure (ts.drop 1) else
      let own := if isLast ∨ isAt "*" ts then ts.drop 1 else ts
      match name? own with
      | none => look own; throw .noMatch
      | some (_, rest) =>
        if isAt "=" rest ∧ own.length = ts.length then
          let (_, rest) ← expression hints fuel (rest.drop 1)
          pure rest
        else pure rest
    look rest
    if isAt "," rest ∧ !isLast then parameters hints fuel true (rest.drop 1)
    else skip ":" (if isAt "," rest then rest.drop 1 else rest)

/-- The condition behind an expression, and what holds otherwise. -/
def conditional (hints : Bool) : (fuel : Nat) → Value → Rest → Reading
  | 0, v, ts => .ok (v, ts)
  | fuel + 1, v, ts => do
    if !isAt "if" ts then return (v, ts)
    match ← attempt (chain hints 0 fuel (ts.drop 1)) with
    | none => return (v, ts)
    | some (_, rest) =>
      if !isAt "else" rest then return (v, ts)
      match ← attempt (expression hints fuel (rest.drop 1)) with
      | none => return (v, ts)
      | some (_, rest) => return ({ what := "conditional expression", isSum := false }, rest)

/-- Finds what may be missing behind an expression `v` that began at `ts`. -/
def hint : (fuel : Nat) → (ts : Rest) → (v : Value) → (rest : Rest) → Except Stop Unit
  | 0, _, _, _ => .ok ()
  | fuel + 1, ts, v, rest => do
    let word := ((name? ts).map (·.1)).getD ""
    let isBare := v.isWord && rest.length + 1 == ts.length
    let startsText := match ts with
      | ⟨.word s, _⟩ :: ⟨.text _, _⟩ :: _ => !keywords.contains s
      | _ => false
    let mayLackComma := !(startsText || softKeywords.contains word)
    if mayLackComma then
      match ← attempt (expression false fuel rest) with
      | some (_, after) =>
        if !v.isStatement ∧ lastDepth rest after ≠ 0 then throw (.wrong .missingComma)
      | none => pure ()
    if isAt "if" rest then
      match ← attempt (chain true 0 fuel (rest.drop 1)) with
      | some (_, after) =>
        if !(isAt "else" after || isAt ":" after) then throw (.wrong .missingElse)
      | none => pure ()
    match name? ts with
    | none => pure ()
    | some (_, after) =>
      if !isAt "(" after then
        let found ← if isAt "*" after then attempt (chain true sumLevel fuel (after.drop 1))
          else attempt (following (!(mayLackComma && isBare)) fuel after)
        if found.isSome ∧ statementWords.contains word then
          throw (.wrong (.missingParentheses word))

/-- An expression behind a word, told what may be missing behind it; its parts are told so only with
`hints`. -/
def following (hints : Bool) : (fuel : Nat) → Rest → Reading
  | 0, _ => .error .noMatch
  | fuel + 1, ts => do
    let (v, rest) ← if hints ∨ isAt "lambda" ts then expression true fuel ts else
      let (v, rest) ← chain false 0 fuel ts
      hint fuel ts v rest
      pure (v, rest)
    if isAt "," rest then look (rest.drop 1)
    return (v, rest)

/-- Operands of a level with the operators between them. -/
def chain (hints : Bool) (level : Nat) : (fuel : Nat) → Rest → Reading
  | 0, _ => .error .noMatch
  | fuel + 1, ts => do
    let (v, rest) ← operand hints level fuel ts
    further hints level fuel v rest

/-- Further operands of a level. -/
def further (hints : Bool) (level : Nat) : (fuel : Nat) → Value → Rest → Reading
  | 0, v, ts => .ok (v, ts)
  | fuel + 1, v, ts => do
    match operator? level ts with
    | none => return (v, ts)
    | some rest =>
      match ← attempt (operand hints level fuel rest) with
      | none => return (v, ts)
      | some (_, rest) =>
        further hints level fuel
          { what := calledAt level, isSum := v.isSum && level == sumLevel, isTarget := v.isTarget }
            rest

/-- An operand of a level. -/
def operand (hints : Bool) (level : Nat) : (fuel : Nat) → Rest → Reading
  | 0, _ => .error .noMatch
  | fuel + 1, ts =>
    match level with
    | 0 => chain hints 1 fuel ts
    | 1 =>
      if isAt "not" ts then do
        let (_, rest) ← operand hints 1 fuel (ts.drop 1)
        return ({ what := "expression", isSum := false }, rest)
      else chain hints 2 fuel ts
    | 2 => chain hints 3 fuel ts
    | _ => factor hints fuel ts

/-- A factor with its signs and its power. -/
def factor (hints : Bool) : (fuel : Nat) → Rest → Reading
  | 0, _ => .error .noMatch
  | fuel + 1, ts => do
    if ["+", "-", "~"].any (isAt · ts) then
      let (_, rest) ← factor hints fuel (ts.drop 1)
      return ({ what := "expression" }, rest)
    let awaits := isAt "await" ts
    let (v, rest) ← atom hints fuel (if awaits then ts.drop 1 else ts)
    let (v, rest) ← trailers hints fuel v rest
    let v : Value := if awaits then { what := "await expression" } else v
    if isAt "**" rest then
      match ← attempt (factor hints fuel (rest.drop 1)) with
      | some (_, rest) => return ({ what := "expression", isTarget := v.isTarget }, rest)
      | none => return (v, rest)
    return (v, rest)

/-- What stands right behind an operand: members and calls. -/
def trailers (hints : Bool) : (fuel : Nat) → Value → Rest → Reading
  | 0, v, ts => .ok (v, ts)
  | fuel + 1, v, ts => do
    look ts
    if isAt "." ts then
      match name? (ts.drop 1) with
      | some (_, rest) => trailers hints fuel { what := "attribute", isTarget := v.isTarget } rest
      | none =>
        look (ts.drop 1)
        return (v, ts)
    else
      if hints ∧ (isAt "(" ts ∨ isAt "\x7b" ts) then hintEach (isAt "\x7b" ts) fuel (ts.drop 1)
      if !isAt "(" ts then return (v, ts)
      match ← attempt (arguments hints fuel .nothing (ts.drop 1)) with
      | none => return (v, ts)
      | some rest =>
        -- a call of `set` without arguments is the empty set
        let isSet := v.isWord && v.what == "set" && (ts.drop 2).length == rest.length
        trailers hints fuel
          { what := "function call", unhashable := if isSet then some "set" else none
            isTarget := v.isTarget } rest

/-- The arguments of a call up to its closing bracket. -/
def arguments (hints : Bool) : (fuel : Nat) → Seen → Rest → Except Stop Rest
  | 0, _, _ => .error .noMatch
  | fuel + 1, seen, ts => do
    if isAt ")" ts then return ts.drop 1
    let isNamed := (name? ts).any fun (_, rest) => isAt "=" rest
    let mut seen := seen
    let mut rest := ts
    if isAt "*" ts then
      rest ← starred hints fuel ts
      if seen = .unpacked then throw (if hints then .wrong .unpackingLate else .noMatch)
      if seen ≠ .nothing then hintGenerator hints fuel .bareGenerator rest
      if seen = .nothing then seen := .plain
    else if isAt "**" ts then
      let (_, r) ← expression hints fuel (ts.drop 1)
      rest := r
      seen := .unpacked
    else if isNamed then
      let (_, r) ← expression hints fuel (ts.drop 2)
      rest := r
      hintGenerator hints fuel .equals rest
      if seen ≠ .unpacked then seen := .named
    else
      rest ← argument hints fuel seen ts
      if seen = .nothing then seen := .plain
    if isAt "," rest then arguments hints fuel seen (rest.drop 1)
    else skip ")" rest

/-- Finds the clauses of a comprehension where there may be none. -/
def hintGenerator (hints : Bool) : (fuel : Nat) → Problem → Rest → Except Stop Unit
  | 0, _, _ => .ok ()
  | fuel + 1, p, ts => do
    if hints ∧ isAt "for" ts then
      if (← attempt (clauses hints fuel ts)).isSome then throw (.wrong p)

/-- What is left behind an argument without a name. -/
def argument (hints : Bool) : (fuel : Nat) → Seen → Rest → Except Stop Rest
  | 0, _, _ => .error .noMatch
  | fuel + 1, seen, ts => do
    let (v, rest) ← expression hints fuel ts
    if isAt "for" rest then
      if seen = .nothing then
        let rest ← clauses hints fuel rest
        if isAt ")" rest then return rest
        look rest
        throw (if hints && isAt "," rest then .wrong .bareGenerator else .noMatch)
      hintGenerator hints fuel .bareGenerator rest
    if isAt ":=" rest ∧ v.isWord then
      let (_, rest) ← expression hints fuel (rest.drop 1)
      return rest
    if hints ∧ isAt "=" rest then
      match ts with
      | ⟨.word s, _⟩ :: _ =>
        if ["True", "False", "None"].contains s then throw (.wrong (.unassignable s))
        else throw (.wrong .equalsInCall)
      | _ => throw (.wrong .equalsInCall)
    match seen with
    | .named => throw (if hints then .wrong .positionalLate else .noMatch)
    | .unpacked => throw (if hints then .wrong .positionalAfterUnpacking else .noMatch)
    | _ => return rest

/-- An expression that may be given a name. -/
def namedExpression (hints : Bool) : (fuel : Nat) → Rest → Reading
  | 0, _ => .error .noMatch
  | fuel + 1, ts => do
    let (v, rest) ← expression hints fuel ts
    named hints fuel v rest

/-- What may be given the name `v` that has been read. -/
def named (hints : Bool) : (fuel : Nat) → (v : Value) → Rest → Reading
  | 0, v, ts => .ok (v, ts)
  | fuel + 1, v, ts => do
    if isAt ":=" ts then
      if v.isWord then
        let (_, rest) ← expression hints fuel (ts.drop 1)
        return ({ what := "named expression" }, rest)
      if hints then
        if (← attempt (expression hints fuel (ts.drop 1))).isSome then
          throw (.wrong (.namedAfter v.what))
      throw .noMatch
    if hints ∧ isAt "=" ts ∧ v.isSum ∧ (v.isWord ∨ v.isTarget) then
      match ← attempt (chain hints sumLevel fuel (ts.drop 1)) with
      | some (_, after) =>
        if !(isAt "=" after || isAt ":=" after) then
          throw (.wrong (if v.isWord then .equals else .equalsAfter v.what))
      | none => pure ()
    return (v, ts)

/-- The clauses of a comprehension. -/
def clauses (hints : Bool) : (fuel : Nat) → Rest → Except Stop Rest
  | 0, _ => .error .noMatch
  | fuel + 1, ts => do
    let rest ← skip "for" ts
    let found ← attempt (targets hints fuel rest)
    match found with
    | none =>
      if hints then hintTarget fuel rest
      throw .noMatch
    | some rest =>
      let (_, rest) ← chain hints 0 fuel rest
      let rest ← conditions hints fuel rest
      if isAt "for" rest then clauses hints fuel rest else return rest

/-- What is left behind the targets of a clause and the word that ends them. -/
def targets (hints : Bool) : (fuel : Nat) → Rest → Except Stop Rest
  | 0, _ => .error .noMatch
  | fuel + 1, ts => do
    let (v, rest) ← factor hints fuel (if isAt "*" ts then ts.drop 1 else ts)
    if !v.isAssignable then throw .noMatch
    if isAt "," rest ∧ !isAt "in" (rest.drop 1) then targets hints fuel (rest.drop 1)
    else skip "in" (if isAt "," rest then rest.drop 1 else rest)

/-- Finds that a target of a clause is none. -/
def hintTarget : (fuel : Nat) → Rest → Except Stop Unit
  | 0, _ => .ok ()
  | fuel + 1, ts => do
    match ← attempt (expression true fuel (if isAt "*" ts then ts.drop 1 else ts)) with
    | none => return ()
    | some (whole, rest) =>
      if whole.what = "comparison" then
        let (left, after) ← chain true sumLevel fuel (if isAt "*" ts then ts.drop 1 else ts)
        if isAt "in" after ∧ !left.isAssignable then throw (.wrong (.unassignable left.what))
      else if !whole.isAssignable then throw (.wrong (.unassignable whole.what))
      if isAt "," rest then hintTarget fuel (rest.drop 1)

/-- The conditions of a clause. -/
def conditions (hints : Bool) : (fuel : Nat) → Rest → Except Stop Rest
  | 0, ts => .ok ts
  | fuel + 1, ts => do
    if isAt "if" ts then
      match ← attempt (chain hints 0 fuel (ts.drop 1)) with
      | some (_, rest) => conditions hints fuel rest
      | none => return ts
    else return ts

/-- An element of a tuple or a set, and whether it is unpacked. -/
def element (hints : Bool) : (fuel : Nat) → Rest → Except Stop (Value × Bool × Rest)
  | 0, _ => .error .noMatch
  | fuel + 1, ts => do
    if isAt "*" ts then
      let (v, rest) ← chain hints sumLevel fuel (ts.drop 1)
      return (v, true, rest)
    let (v, rest) ← namedExpression hints fuel ts
    return (v, false, rest)

/-- Further elements behind a comma. -/
def elements (hints : Bool) : (fuel : Nat) → Rest → Except Stop (List Value × Rest)
  | 0, ts => .ok ([], ts)
  | fuel + 1, ts => do
    match ← attempt (element hints fuel ts) with
    | none =>
      look ts
      return ([], ts)
    | some (v, _, rest) =>
      if isAt "," rest then
        let (vs, rest) ← elements hints fuel (rest.drop 1)
        return (v :: vs, rest)
      else return ([v], rest)

/-- What is left behind an expression that is unpacked, of which the star is at the front. -/
def starred (hints : Bool) : (fuel : Nat) → Rest → Except Stop Rest
  | 0, _ => .error .noMatch
  | fuel + 1, ts => do
    match ← attempt (expression hints fuel (ts.drop 1)) with
    | some (_, rest) => return rest
    | none => throw (.wrong .loneStar)

/-- Finds that what stands behind a bracket would be a comprehension, were it not unpacked or
without one. -/
def hintEach (isBrace : Bool) : (fuel : Nat) → Rest → Except Stop Unit
  | 0, _ => .ok ()
  | fuel + 1, ts => do
    if isAt "*" ts then
      let rest ← starred true fuel ts
      if (← attempt (clauses true fuel rest)).isSome then throw (.wrong .unpackingEach)
    if isBrace then
      match ← attempt (element true fuel ts) with
      | none => return ()
      | some (_, _, rest) =>
        if isAt "," rest then
          let (_, rest) ← elements true fuel (rest.drop 1)
          if (← attempt (clauses true fuel rest)).isSome then throw (.wrong .bareTarget)

/-- What stands behind an opening parenthesis. -/
def group (hints : Bool) : (fuel : Nat) → Rest → Reading
  | 0, _ => .error .noMatch
  | fuel + 1, ts => do
    if isAt ")" ts then return (tupleOf [], ts.drop 1)
    if isAt "yield" ts then
      let ts := if isAt "from" (ts.drop 1) then ts.drop 2 else ts.drop 1
      let (_, rest) ← elements hints fuel ts
      return ({ what := "yield expression" }, ← skip ")" rest)
    if isAt "**" ts then
      if hints then
        let (_, rest) ← expression hints fuel (ts.drop 1)
        if isAt ")" rest then throw (.wrong .doubleStar)
      throw .noMatch
    if isAt "*" ts ∧ hints then
      let first ← attempt (element hints fuel ts)
      if !first.any fun (_, _, rest) => isAt "," rest then
        let rest ← starred hints fuel ts
        if isAt ")" rest then throw (.wrong .star)
        hintEach false fuel ts
    let (v, unpacks, rest) ← element hints fuel ts
    if isAt "," rest then
      let (vs, rest) ← elements hints fuel (rest.drop 1)
      return (tupleOf (v :: vs), ← skip ")" rest)
    if unpacks then
      let _ ← skip "," rest
      throw .noMatch
    if isAt "for" rest then
      let rest ← clauses hints fuel rest
      return ({ what := "generator expression", isTarget := false }, ← skip ")" rest)
    let rest ← skip ")" rest
    return ({ v with isSum := true, isTarget := true, isWord := false,
                     what := if v.isWord then "name" else v.what }, rest)

/-- An entry of a dictionary. -/
def entry (hints : Bool) : (fuel : Nat) → Rest → Except Stop ((Option Value × Value) × Rest)
  | 0, _ => .error .noMatch
  | fuel + 1, ts => do
    if isAt "**" ts then
      let (v, rest) ← chain hints sumLevel fuel (ts.drop 1)
      return ((none, v), rest)
    let (key, rest) ← expression hints fuel ts
    let (value, rest) ← expression hints fuel (← skip ":" rest)
    return ((some key, value), rest)

/-- The entries of a dictionary behind a comma, and whether there is none behind the last one. -/
def entries (hints : Bool) : (fuel : Nat) → Rest →
    Except Stop (List (Option Value × Value) × Bool × Rest)
  | 0, ts => .ok ([], false, ts)
  | fuel + 1, ts => do
    match ← attempt (entry hints fuel ts) with
    | none => return ([], true, ts)
    | some (e, rest) =>
      if isAt "," rest then
        let (es, trails, rest) ← entries hints fuel (rest.drop 1)
        return (e :: es, trails, rest)
      else return ([e], false, rest)

/-- Finds what is wrong with an entry of which the key has been read. -/
def hintEntry (hints : Bool) : (fuel : Nat) → Rest → Except Stop Unit
  | 0, _ => .ok ()
  | fuel + 1, ts => do
    if !isAt ":" ts then throw (.wrong .missingColon)
    let ts := ts.drop 1
    if isAt "*" ts then
      if (← attempt (chain hints sumLevel fuel (ts.drop 1))).isSome then throw (.wrong .starValue)
    if isAt "\x7d" ts ∨ isAt "," ts then throw (.wrong .missingValue)

/-- A dictionary of which the first entry has been read. -/
def dictionary (hints : Bool) : (fuel : Nat) → (first : Option Value × Value) → Rest → Reading
  | 0, _, _ => .error .noMatch
  | fuel + 1, first, ts => do
    let (es, trails, rest) ←
      if isAt "," ts then entries hints fuel (ts.drop 1) else pure ([], false, ts)
    if isAt "\x7d" rest then return (dictionaryOf (first :: es), rest.drop 1)
    if trails then
      match ← attempt (expression hints fuel rest) with
      | some (_, after) => hintEntry hints fuel after
      | none => pure ()
    if isAt "for" ts then
      if first.1.isSome then
        let rest ← clauses hints fuel ts
        return ({ what := "dict comprehension" }, ← skip "\x7d" rest)
      if hints then
        let rest ← clauses hints fuel ts
        if isAt "\x7d" rest then throw (.wrong .unpackingPairs)
    look rest
    throw .noMatch

/-- A set of which the first element has been read. -/
def members (hints : Bool) : (fuel : Nat) → (first : Value) → Rest → Reading
  | 0, _, _ => .error .noMatch
  | fuel + 1, first, ts => do
    let (vs, rest) ← if isAt "," ts then elements hints fuel (ts.drop 1) else pure ([], ts)
    if isAt "\x7d" rest then return (setOf (first :: vs), rest.drop 1)
    if isAt "," ts then hintGenerator hints fuel .bareTarget rest
    look rest
    throw .noMatch

/-- What stands behind an opening brace. -/
def braces (hints : Bool) : (fuel : Nat) → Rest → Reading
  | 0, _ => .error .noMatch
  | fuel + 1, ts => do
    if isAt "\x7d" ts then return (dictionaryOf [], ts.drop 1)
    if isAt "**" ts then
      let (e, rest) ← entry hints fuel ts
      return ← dictionary hints fuel e rest
    if isAt "*" ts then
      match ← attempt (element hints fuel ts) with
      | some (v, _, rest) =>
        match ← attempt (members hints fuel v rest) with
        | some r => return r
        | none => pure ()
      | none => pure ()
      if hints then hintEach false fuel ts
      throw .noMatch
    let (v, rest) ← expression hints fuel ts
    if isAt ":" rest then
      match ← attempt (expression hints fuel (rest.drop 1)) with
      | some (value, rest) => dictionary hints fuel (some v, value) rest
      | none => hintEntry hints fuel rest; throw .noMatch
    else
      let (v, rest) ← named hints fuel v rest
      if isAt "for" rest then
        let rest ← clauses hints fuel rest
        return ({ what := "set comprehension" }, ← skip "\x7d" rest)
      members hints fuel v rest

/-- An operand by itself. -/
def atom (hints : Bool) : (fuel : Nat) → Rest → Reading
  | 0, _ => .error .noMatch
  | fuel + 1, ts => do
    match ts with
    | [] => throw .noMatch
    | t :: rest =>
      match t.kind with
      | .stop p => throw (.wrong p)
      | .lineEnd => throw .noMatch
      | .number => return ({ what := "literal" }, rest)
      | .text _ =>
        match texts? ts with
        | some (bs, rest) =>
          look rest
          if bs.any (· ≠ bs.headD false) then throw (.wrong .mixedTexts)
          else return ({ what := "literal" }, rest)
        | none => throw .noMatch
      | .word s =>
        if ["True", "False", "None"].contains s then return ({ what := s, isTarget := false }, rest)
        else if keywords.contains s then throw .noMatch
        else return ({ what := if s = "set" then s else "name", isWord := true
                       isStatement := statementWords.contains s }, rest)
      | .mark s =>
        if s = "..." then return ({ what := "ellipsis" }, rest)
        else if s = "(" then group hints fuel rest
        else if s = "\x7b" then braces hints fuel rest
        else throw .noMatch

end

/-- Expressions up to the end. -/
def whole (hints : Bool) (fuel : Nat) (ts : Rest) : Except Stop Value := do
  let (v, rest) ← expression hints fuel ts
  let rec more : Nat → Rest → Except Stop (List Value × Rest)
    | 0, ts => .ok ([], ts)
    | n + 1, ts => do
      if isAt "," ts then
        match ← attempt (expression hints fuel (ts.drop 1)) with
        | some (v, rest) =>
          let (vs, rest) ← more n rest
          return (v :: vs, rest)
        | none => return ([], ts.drop 1)
      else return ([], ts)
  let (vs, after) ← more ts.length rest
  look (after.dropWhile (·.kind = .lineEnd))
  if after.all (·.kind = .lineEnd) then
    return if after.length < rest.length then tupleOf (v :: vs) else v
  else throw .noMatch

/-- How many steps a reading of tokens takes at most. -/
def steps (ts : Rest) : Nat := 32 * (ts.length + 1)

/-- What is wrong with the grammar of tokens, or what they stand for. -/
def readTokens (ts : Rest) : Except Problem Value :=
  match whole false (steps ts) ts with
  | .ok v => .ok v
  | .error (.wrong p) => .error p
  | .error .noMatch =>
    match whole true (steps ts) ts with
    | .error (.wrong p) => .error p
    | _ => .error .unexpected

/-- The value of an expression. -/
def read (cs : List Char) : Except Problem Value := tokens cs >>= readTokens

end Literal

end TokenBroker
