import TokenBroker.Json.Printer
import TokenBroker.Json.Reader
import TokenBroker.Proofs.Text.Utf8

/-!
# Strings read as written

Every string is read back from its quoted text (`Json.readString_render`), also when it is confined
to ASCII. A character is written by one escape, or as it is, or by two escapes, the surrogates of
its code point; what is read of it are its code units (`Json.stringUnits_renderChar`), and these are
joined to the character again (`Json.joinSurrogates_unitsOf`).

An escape may also be half of a character, which is no text and is replaced when it is read. No
string of a text that spells them all out is changed so (`Json.SpellsOut.spells`).
-/

namespace TokenBroker

namespace Json

variable {opening u d : Nat} {c e : Char} {rest after : List Char} {us : List Nat}

/-! ## Escapes -/

theorem hexValue?_digitChar (h : d < 16) : Text.hexValue? (Nat.digitChar d) = some d := by
  have digits : ∀ d < 16, Text.hexValue? (Nat.digitChar d) = some d := by decide
  exact digits d h

theorem hexValue4?_hexDigits (h : u < 0x10000) :
    ∃ a b c d, Text.hexDigits 4 u = [a, b, c, d] ∧ hexValue4? a b c d = some u := by
  refine ⟨_, _, _, _, rfl, ?_⟩
  have digit (n : Nat) : Text.hexValue? (Nat.digitChar (n % 16)) = some (n % 16) :=
    hexValue?_digitChar (Nat.mod_lt n (by decide))
  simp only [hexValue4?, digit, Option.pure_def, Option.bind_eq_bind, Option.bind_some,
    Option.some.injEq, Nat.pow_eq]
  omega

/-- What follows is not empty if a string ends in it. -/
theorem exists_cons_of_stringUnits (later : stringUnits opening rest = .ok (us, after)) :
    ∃ c tail, rest = c :: tail := by
  cases rest with
  | nil =>
    rw [stringUnits.eq_1] at later
    cases later
  | cons c tail => exact ⟨c, tail, rfl⟩

theorem stringUnits_unitEscape (h : u < 0x10000)
    (later : stringUnits opening rest = .ok (us, after)) :
    stringUnits opening (unitEscape u ++ rest) = .ok (u :: us, after) := by
  obtain ⟨a, b, c, d, digits, value⟩ := hexValue4?_hexDigits h
  obtain ⟨head, tail, rfl⟩ := exists_cons_of_stringUnits later
  unfold unitEscape
  rw [digits]
  simp only [List.cons_append, List.nil_append]
  rw [stringUnits.eq_4 opening a b c d head tail u value, later]
  rfl

theorem stringUnits_shortEscape (short : shortEscape? e = some c)
    (later : stringUnits opening rest = .ok (us, after)) :
    stringUnits opening ('\\' :: e :: rest) = .ok (c.toNat :: us, after) := by
  have other : e ≠ 'u' := by
    rintro rfl
    cases short
  rw [stringUnits.eq_7 opening e rest (fun _ _ _ _ _ same _ => other same) other, short, later]
  rfl

theorem stringUnits_plain (quote : c ≠ '"') (backslash : c ≠ '\\') (printed : ¬c.toNat < 0x20)
    (later : stringUnits opening rest = .ok (us, after)) :
    stringUnits opening (c :: rest) = .ok (c.toNat :: us, after) := by
  rw [stringUnits.eq_8 opening c rest quote (fun same _ => backslash same)
    (fun _ _ _ _ _ same _ => backslash same) (fun _ same _ => backslash same)
    (fun _ _ same _ => backslash same), if_neg printed, later]
  rfl

/-! ## Characters -/

/-- The code units that a character is written by. -/
def unitsOf (ascii : Bool) (c : Char) : List Nat :=
  if !ascii || c.toNat < 0x10000 then [c.toNat]
  else [0xD800 + (c.toNat - 0x10000) / 0x400, 0xDC00 + (c.toNat - 0x10000) % 0x400]

/-- The ways in which a character is written. -/
inductive WritesChar (ascii : Bool) (c : Char) : List Char → Prop
  | short {e : Char} (escape : shortEscape? e = some c) (basic : c.toNat < 0x10000) :
      WritesChar ascii c ['\\', e]
  | unit (basic : c.toNat < 0x10000) : WritesChar ascii c (unitEscape c.toNat)
  | plain (quote : c ≠ '"') (backslash : c ≠ '\\') (printed : ¬c.toNat < 0x20)
      (whole : !ascii || c.toNat < 0x10000) : WritesChar ascii c [c]
  | surrogates (confined : ascii = true) (large : 0x10000 ≤ c.toNat) :
      WritesChar ascii c (unitEscape (0xD800 + (c.toNat - 0x10000) / 0x400) ++
        unitEscape (0xDC00 + (c.toNat - 0x10000) % 0x400))

theorem writesChar_renderChar (ascii : Bool) (c : Char) :
    WritesChar ascii c (renderChar ascii c) := by
  by_cases quote : c = '"'
  · subst quote
    exact .short rfl (by decide)
  by_cases backslash : c = '\\'
  · subst backslash
    exact .short rfl (by decide)
  by_cases feed : c = '\n'
  · subst feed
    exact .short rfl (by decide)
  by_cases ret : c = '\r'
  · subst ret
    exact .short rfl (by decide)
  by_cases tab : c = '\t'
  · subst tab
    exact .short rfl (by decide)
  by_cases back : c = '\x08'
  · subst back
    exact .short rfl (by decide)
  by_cases form : c = '\x0c'
  · subst form
    exact .short rfl (by decide)
  unfold renderChar
  rw [if_neg quote, if_neg backslash, if_neg feed, if_neg ret, if_neg tab, if_neg back, if_neg form]
  split
  · next control => exact .unit (by omega)
  next printed =>
  split
  · next whole =>
    refine .plain quote backslash printed ?_
    simp only [Bool.or_eq_true, decide_eq_true_eq] at whole ⊢
    exact whole.imp_right fun small => by omega
  next confined =>
  simp only [Bool.or_eq_true, Bool.not_eq_true', not_or, Bool.not_eq_false] at confined
  split
  · next basic => exact .unit basic
  · next large => exact .surrogates confined.1 (by omega)

/-- A character is read as it was written. -/
theorem stringUnits_renderChar (ascii : Bool) (c : Char)
    (later : stringUnits opening rest = .ok (us, after)) :
    stringUnits opening (renderChar ascii c ++ rest) = .ok (unitsOf ascii c ++ us, after) := by
  have one (h : c.toNat < 0x10000) : unitsOf ascii c = [c.toNat] := by
    unfold unitsOf
    rw [if_pos (by simp [h])]
  have writes := writesChar_renderChar ascii c
  generalize renderChar ascii c = text at writes ⊢
  cases writes with
  | short escape basic =>
    rw [one basic]
    exact stringUnits_shortEscape escape later
  | unit basic =>
    rw [one basic]
    exact stringUnits_unitEscape basic later
  | plain quote backslash printed whole =>
    rw [unitsOf, if_pos whole]
    exact stringUnits_plain quote backslash printed later
  | surrogates confined large =>
    have range := Utf8.codePoint_cases c
    rw [unitsOf, if_neg (by rw [confined]; simp [large]), List.append_assoc]
    exact stringUnits_unitEscape (by omega) (stringUnits_unitEscape (by omega) later)

theorem charOfCodePoint?_toNat (c : Char) : Text.charOfCodePoint? c.toNat = some c := by
  have valid : c.toNat.isValidChar := c.valid
  rw [Text.charOfCodePoint?, if_pos valid, Char.ofNat_toNat]

/-- Code units are joined to the character that they are of. -/
theorem joinSurrogates_unitsOf (ascii : Bool) (c : Char) (us : List Nat) :
    joinSurrogates (unitsOf ascii c ++ us) = c :: joinSurrogates us := by
  have range := Utf8.codePoint_cases c
  unfold unitsOf
  split
  · rw [List.singleton_append]
    cases us with
    | nil => rw [joinSurrogates, joinSurrogates, charOfCodePoint?_toNat, Option.getD_some]
    | cons v us =>
      rw [joinSurrogates, if_neg (by omega), charOfCodePoint?_toNat, Option.getD_some]
  · next large =>
    simp only [Bool.or_eq_true, decide_eq_true_eq, not_or, Nat.not_lt] at large
    rw [List.cons_append, List.singleton_append, joinSurrogates, if_pos (by omega)]
    have whole : 0x10000 + (0xD800 + (c.toNat - 0x10000) / 0x400 - 0xD800) * 0x400 +
        (0xDC00 + (c.toNat - 0x10000) % 0x400 - 0xDC00) = c.toNat := by omega
    rw [whole, Char.ofNat_toNat]

/-! ## Strings -/

/-- By induction on the characters. -/
theorem stringUnits_renderChars (opening : Nat) (ascii : Bool) (cs rest : List Char) :
    stringUnits opening (cs.flatMap (renderChar ascii) ++ '"' :: rest) =
      .ok (cs.flatMap (unitsOf ascii), rest) := by
  induction cs with
  | nil => exact stringUnits.eq_2 opening rest
  | cons c cs ih =>
    rw [List.flatMap_cons, List.flatMap_cons, List.append_assoc]
    exact stringUnits_renderChar ascii c ih

/-- The units of a text are joined to the text. -/
theorem joinSurrogates_units (ascii : Bool) (cs : List Char) :
    joinSurrogates (cs.flatMap (unitsOf ascii)) = cs := by
  induction cs with
  | nil => rw [List.flatMap_nil, joinSurrogates]
  | cons c cs ih => rw [List.flatMap_cons, joinSurrogates_unitsOf, ih]

/-- A string is read back from its text, whatever follows. -/
theorem readString_render (ascii : Bool) (s : String) (rest : List Char) :
    readString (s.toList.flatMap (renderChar ascii) ++ '"' :: rest) = .ok (s, rest) := by
  unfold readString
  rw [stringUnits_renderChars]
  show Except.ok (String.ofList (joinSurrogates _), rest) = _
  rw [joinSurrogates_units, String.ofList_toList]

/-! ## Strings that are texts -/

/-- The characters that code units spell, each by its code point or by its two surrogates. -/
inductive Spells : List Nat → List Char → Prop
  | nil : Spells [] []
  | cons (ascii : Bool) (c : Char) {us : List Nat} {cs : List Char} (later : Spells us cs) :
      Spells (unitsOf ascii c ++ us) (c :: cs)

/-- The code units of whatever stands behind a quotation mark of a text and up to the next one. -/
def quotedUnits : List Char → List (List Nat)
  | [] => []
  | c :: rest =>
    match c, stringUnits (rest.length + 1) rest with
    | '"', .ok (us, _) => us :: quotedUnits rest
    | _, _ => quotedUnits rest

/-- Whether every string of a text is one of characters, so that no escape is half of one. -/
def SpellsOut (text : String) : Prop := ∀ us ∈ quotedUnits text.toList, ∃ cs, Spells us cs

/-- Code units that spell characters are joined to them. -/
theorem Spells.joinSurrogates_eq {cs : List Char} (spells : Spells us cs) :
    joinSurrogates us = cs := by
  induction spells with
  | nil => rw [joinSurrogates]
  | cons ascii c later ih => rw [joinSurrogates_unitsOf, ih]

theorem mem_quotedUnits_cons (h : us ∈ quotedUnits rest) (c : Char) :
    us ∈ quotedUnits (c :: rest) := by
  unfold quotedUnits
  split
  · exact List.mem_cons_of_mem _ h
  · exact h

theorem mem_quotedUnits (front : List Char)
    (read : stringUnits (rest.length + 1) rest = .ok (us, after)) :
    us ∈ quotedUnits (front ++ '"' :: rest) := by
  induction front with
  | nil =>
    rw [List.nil_append]
    unfold quotedUnits
    rw [read]
    exact List.mem_cons_self
  | cons c front ih => exact mem_quotedUnits_cons ih c

/-- A string of such a text is read as the characters that its code units spell. -/
theorem SpellsOut.spells {text : String} {front : List Char} (h : SpellsOut text)
    (stands : text.toList = front ++ '"' :: rest)
    (read : stringUnits (rest.length + 1) rest = .ok (us, after)) :
    Spells us (joinSurrogates us) := by
  obtain ⟨cs, spells⟩ := h us (stands ▸ mem_quotedUnits front read)
  rwa [spells.joinSurrogates_eq]

/-- The units of a string without escapes spell a text. -/
theorem spells_of_stringUnits (plain : '\\' ∉ rest)
    (read : stringUnits opening rest = .ok (us, after)) :
    ∃ cs, Spells us cs := by
  induction rest generalizing us with
  | nil =>
    rw [stringUnits.eq_1] at read
    cases read
  | cons c rest ih =>
    rw [List.mem_cons, not_or] at plain
    by_cases quote : c = '"'
    · subst quote
      rw [stringUnits.eq_2] at read
      cases read
      exact ⟨[], .nil⟩
    · rw [stringUnits.eq_8 opening c rest quote (fun same _ => plain.1 same.symm)
        (fun _ _ _ _ _ same _ => plain.1 same.symm) (fun _ same _ => plain.1 same.symm)
        (fun _ _ same _ => plain.1 same.symm)] at read
      split at read
      · cases read
      · cases later : stringUnits opening rest with
        | error stop =>
          rw [later] at read
          cases read
        | ok found =>
          rw [later] at read
          cases read
          obtain ⟨cs, spells⟩ := ih plain.2 later
          exact ⟨c :: cs, .cons false c spells⟩

/-- A text without escapes spells its strings out. -/
theorem spellsOut_of_not_mem {text : String} (plain : '\\' ∉ text.toList) : SpellsOut text := by
  unfold SpellsOut
  generalize text.toList = cs at plain
  induction cs with
  | nil => exact nofun
  | cons c cs ih =>
    rw [List.mem_cons, not_or] at plain
    intro us quoted
    unfold quotedUnits at quoted
    split at quoted
    · next read =>
      rcases List.mem_cons.1 quoted with rfl | quoted
      · exact spells_of_stringUnits plain.2 read
      · exact ih plain.2 us quoted
    · exact ih plain.2 us quoted

end Json

end TokenBroker
