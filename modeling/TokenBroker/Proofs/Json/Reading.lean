import TokenBroker.Proofs.Json.Numbers
import TokenBroker.Proofs.Json.Strings

/-!
# Values read as written

Every value without repeated names and without integers that are too long is read back from its
text, in any style and with white space behind it (`Json.read_render`), and also under a limit that
its containers keep (`Json.readWithin_render`). The induction is on the bound that the readers have
on the parts that they read: every part lowers it by one and takes at least one character, so the
length of the text suffices. What is read under a limit is what is read without
(`Json.read_of_readWithin`).
-/

namespace TokenBroker

namespace Json

open Text (IsWhole)

variable {style : Style} {c : Char} {cs whole rest blank : List Char} {level outer fuel : Nat}
  {levels inner : Levels}

/-! ## Values without repeated names -/

mutual

/-- Whether no object in a value has a name twice. -/
def Distinct : Json → Prop
  | .arr items => ItemsDistinct items
  | .obj members => (members.map (·.1)).Nodup ∧ MembersDistinct members
  | _ => True

/-- Whether no object in any item has a name twice. -/
def ItemsDistinct : List Json → Prop
  | [] => True
  | item :: items => item.Distinct ∧ ItemsDistinct items

/-- Whether no object in any value of members has a name twice. -/
def MembersDistinct : List (String × Json) → Prop
  | [] => True
  | (_, value) :: members => value.Distinct ∧ MembersDistinct members

end

/-! ## Containers within each other -/

mutual

/-- How many containers stand within each other in a value. -/
def height : Json → Nat
  | .arr items => itemsHeight items + 1
  | .obj members => membersHeight members + 1
  | _ => 0

/-- The height of the highest item. -/
def itemsHeight : List Json → Nat
  | [] => 0
  | item :: items => max item.height (itemsHeight items)

/-- The height of the highest value of members. -/
def membersHeight : List (String × Json) → Nat
  | [] => 0
  | (_, value) :: members => max value.height (membersHeight members)

end

/-- Whether values of a height can be read with the levels that are left. -/
def Levels.Allow (levels : Levels) (height : Nat) : Prop := ∀ n, levels = some n → height ≤ n

theorem Levels.none_allow (height : Nat) : Levels.Allow none height := nofun

theorem Levels.Allow.mono {low high : Nat} (h : levels.Allow high) (le : low ≤ high) :
    levels.Allow low :=
  fun n some => Nat.le_trans le (h n some)

/-- Where a container can be read, it can be opened, and what it holds can be read in it. -/
theorem Levels.Allow.inside {height : Nat} (h : levels.Allow (height + 1)) :
    ∃ inner, levels.inside? = some inner ∧ inner.Allow height := by
  cases levels with
  | none => exact ⟨none, rfl, Levels.none_allow _⟩
  | some n =>
    have le := h n rfl
    obtain ⟨n, rfl⟩ : ∃ m, n = m + 1 := ⟨n - 1, by omega⟩
    refine ⟨some n, rfl, fun m same => ?_⟩
    cases same
    omega

/-! ## Members without repeated names -/

theorem setMember_of_not_mem {name : String} {ms : List (String × Json)}
    (fresh : name ∉ ms.map (·.1)) (value : Json) :
    setMember name value ms = ms ++ [(name, value)] := by
  induction ms with
  | nil => rfl
  | cons m ms ih =>
    obtain ⟨n, v⟩ := m
    rw [List.map_cons, List.mem_cons, not_or] at fresh
    rw [setMember, if_neg (fun same => fresh.1 same.symm), ih fresh.2]
    rfl

theorem foldl_setMember (front ms : List (String × Json))
    (nodup : ((front ++ ms).map (·.1)).Nodup) :
    ms.foldl (fun acc m => setMember m.1 m.2 acc) front = front ++ ms := by
  induction ms generalizing front with
  | nil => rw [List.append_nil, List.foldl_nil]
  | cons m ms ih =>
    have fresh : m.1 ∉ front.map (·.1) := by
      rw [List.map_append, List.nodup_append] at nodup
      intro member
      exact nodup.2.2 m.1 member m.1 List.mem_cons_self rfl
    rw [List.foldl_cons, setMember_of_not_mem fresh, ih, List.append_assoc, List.singleton_append]
    rwa [List.append_assoc, List.singleton_append]

/-- Members without repeated names are an object as they are. -/
theorem ofMembers_of_nodup {ms : List (String × Json)} (nodup : (ms.map (·.1)).Nodup) :
    ofMembers ms = .obj ms :=
  congrArg Json.obj (foldl_setMember [] ms nodup)

/-! ## White space -/

theorem skipSpace_blank (h : ∀ c ∈ blank, isSpace c = true) (cs : List Char) :
    skipSpace (blank ++ cs) = skipSpace cs := by
  unfold skipSpace
  rw [List.dropWhile_append_of_pos h]

theorem skipSpace_cons (h : isSpace c = false) (cs : List Char) :
    skipSpace (c :: cs) = c :: cs := by
  unfold skipSpace
  rw [List.dropWhile_cons, h]
  rfl

theorem skipSpace_lineBreak (style : Style) (level : Nat) (cs : List Char) :
    skipSpace (style.lineBreak level ++ cs) = skipSpace cs := by
  apply skipSpace_blank
  unfold Style.lineBreak
  split
  · intro c member
    rcases List.mem_cons.1 member with rfl | member
    · rfl
    · rw [List.eq_of_mem_replicate member]
      rfl
  · intro c member
    cases member

theorem endsNumber_cons (other : c.isDigit = false ∧ c ≠ '.' ∧ c ≠ 'e' ∧ c ≠ 'E') :
    EndsNumber (c :: cs) := by
  intro d head
  cases head
  exact other

/-- A line break and what follows it do not go on with a number. -/
theorem EndsNumber.lineBreak (h : EndsNumber (c :: cs)) :
    EndsNumber (style.lineBreak level ++ c :: cs) := by
  unfold Style.lineBreak
  split
  · exact endsNumber_cons (by decide)
  · exact h

/-! ## Scalars -/

theorem readValue_eq_readScalar (string : c ≠ '"') (array : c ≠ '[') (object : c ≠ '{')
    (cs : List Char) :
    readValue (fuel + 1) levels (c :: cs) = readScalar (c :: cs) := by
  rw [readValue]
  · exact fun _ same => string (List.cons.inj same).1
  · exact fun _ same => array (List.cons.inj same).1
  · exact fun _ same => object (List.cons.inj same).1

/-- A text with a character in front that starts a value. -/
def StartsValue (cs : List Char) : Prop :=
  ∃ c tail, cs = c :: tail ∧ isSpace c = false ∧ c ≠ ']' ∧ c ≠ '\uFEFF'

theorem IsWhole.exists_digit (isWhole : IsWhole whole) :
    ∃ d row, whole = d :: row ∧ d.isDigit = true := by
  have digits := isWhole.digits
  rcases isWhole with rfl | significant
  · exact ⟨_, _, rfl, rfl⟩
  · obtain ⟨d, row, rfl, -⟩ := significant.leading
    exact ⟨d, row, rfl, digits d List.mem_cons_self⟩

/-- A text that starts like a number is read as one. -/
theorem readValue_signed (negative : Bool) (isWhole : IsWhole whole) (cs : List Char) :
    readValue (fuel + 1) levels (signText negative ++ (whole ++ cs)) =
      readNumber (signText negative ++ (whole ++ cs)) := by
  obtain ⟨d, row, rfl, digit⟩ := IsWhole.exists_digit isWhole
  have other (c : Char) (h : c.isDigit = false) : c ≠ d := by
    rintro rfl
    rw [digit] at h
    cases h
  have scalar : readScalar (signText negative ++ (d :: row ++ cs)) =
      readNumber (signText negative ++ (d :: row ++ cs)) := by
    cases negative
    · simp [readScalar, words, afterWord?, signText, other]
    · simp [readScalar, words, afterWord?, signText, other]
  rw [← scalar]
  cases negative
  · exact readValue_eq_readScalar (other _ rfl).symm (other _ rfl).symm (other _ rfl).symm _
  · exact readValue_eq_readScalar (by decide) (by decide) (by decide) _

theorem startsValue_signed (negative : Bool) (isWhole : IsWhole whole) (cs : List Char) :
    StartsValue (signText negative ++ (whole ++ cs)) := by
  obtain ⟨d, row, rfl, digit⟩ := IsWhole.exists_digit isWhole
  have other (c : Char) (h : c.isDigit = false) : d ≠ c := by
    rintro rfl
    rw [digit] at h
    cases h
  cases negative
  · refine ⟨d, row ++ cs, rfl, ?_, other _ rfl, other _ rfl⟩
    unfold isSpace
    simp [other]
  · exact ⟨'-', _, rfl, rfl, by decide, by decide⟩

theorem readValue_renderInt {n : Int}
    (short : (Binary64.digitsOf n.natAbs).length ≤ Numeral.maxDigits) (ends : EndsNumber rest) :
    readValue (fuel + 1) levels (renderInt n ++ rest) = .ok (.int n, rest) := by
  have read := readNumber_renderInt short ends
  rw [renderInt_eq, List.append_assoc] at *
  rw [readValue_signed _ (Text.isWhole_digitsOf _), read]

/-- Every binary number is read back from its text. -/
theorem readValue_renderFloat (x : Binary64) (ends : EndsNumber rest) :
    readValue (fuel + 1) levels ((Binary64.Layout.json.render x).toList ++ rest) = .ok
      (.float x, rest) := by
  cases x with
  | nan => exact readValue_eq_readScalar (by decide) (by decide) (by decide) _
  | infinite negative =>
    cases negative
    · exact readValue_eq_readScalar (by decide) (by decide) (by decide) _
    · exact readValue_eq_readScalar (by decide) (by decide) (by decide) _
  | finite negative m e canonical =>
    obtain ⟨cs, text, writes⟩ := Binary64.writes_render negative canonical
    cases writes with
    | parts isWhole digits binary value =>
      rw [text]
      simp only [List.append_assoc]
      rw [readValue_signed _ isWhole, readNumber_numeral isWhole digits binary ends, value]

theorem startsValue_renderFloat (x : Binary64) (cs : List Char) :
    StartsValue ((Binary64.Layout.json.render x).toList ++ cs) := by
  cases x with
  | nan => exact ⟨'N', _, rfl, rfl, by decide, by decide⟩
  | infinite negative =>
    cases negative
    · exact ⟨'I', _, rfl, rfl, by decide, by decide⟩
    · exact ⟨'-', _, rfl, rfl, by decide, by decide⟩
  | finite negative m e canonical =>
    obtain ⟨text, read, writes⟩ := Binary64.writes_render negative canonical
    cases writes with
    | parts isWhole digits binary value =>
      rw [read]
      simp only [List.append_assoc]
      exact startsValue_signed negative isWhole _

theorem startsValue_renderValue (style : Style) (level : Nat) (j : Json) (cs : List Char) :
    StartsValue (renderValue style level j ++ cs) := by
  cases j with
  | null => exact ⟨'n', _, rfl, rfl, by decide, by decide⟩
  | bool b =>
    cases b
    · exact ⟨'f', _, rfl, rfl, by decide, by decide⟩
    · exact ⟨'t', _, rfl, rfl, by decide, by decide⟩
  | int n =>
    rw [renderValue, renderInt_eq, List.append_assoc]
    exact startsValue_signed _ (Text.isWhole_digitsOf _) cs
  | float x => exact startsValue_renderFloat x cs
  | str s => exact ⟨'"', _, rfl, rfl, by decide, by decide⟩
  | arr items => cases items <;> exact ⟨'[', _, rfl, rfl, by decide, by decide⟩
  | obj members => cases members <;> exact ⟨'\x7b', _, rfl, rfl, by decide, by decide⟩

theorem StartsValue.skipSpace (starts : StartsValue cs) : skipSpace cs = cs := by
  obtain ⟨c, tail, rfl, printed, -⟩ := starts
  exact skipSpace_cons printed tail

/-! ## Containers -/

section Containers

variable {item value : Json} {items : List Json} {ms : List (String × Json)} {more : List Char}
  {name : String}

theorem readValue_array (opens : levels.inside? = some inner) (starts : StartsValue cs)
    (read : readItems fuel inner cs = .ok (items, rest)) :
    readValue (fuel + 1) levels ('[' :: (style.lineBreak level ++ cs)) = .ok
      (.arr items, rest) := by
  obtain ⟨c, tail, rfl, printed, other, -⟩ := starts
  rw [readValue, opens]
  dsimp only
  rw [skipSpace_lineBreak, skipSpace_cons printed]
  split
  · next closed => exact absurd (List.cons.inj closed).1 other
  · rw [read]
    rfl

theorem readValue_empty_array (opens : levels.inside? = some inner) (rest : List Char) :
    readValue (fuel + 1) levels ('[' :: ']' :: rest) = .ok (.arr [], rest) := by
  rw [readValue, opens]
  rfl

theorem readItems_last (read : readValue fuel levels cs = .ok
    (item, style.lineBreak outer ++ ']' :: rest)) :
    readItems (fuel + 1) levels cs = .ok ([item], rest) := by
  rw [readItems, read]
  simp only [bind, Except.bind, skipSpace_lineBreak,
    skipSpace_cons (show isSpace ']' = false from rfl)]

theorem readItems_next (read : readValue fuel levels cs = .ok
    (item, ',' :: (style.lineBreak level ++ more))) (starts : StartsValue more)
    (later : readItems fuel levels more = .ok (items, rest)) :
    readItems (fuel + 1) levels cs = .ok (item :: items, rest) := by
  rw [readItems, read]
  simp only [bind, Except.bind, skipSpace_cons (show isSpace ',' = false from rfl),
    skipSpace_lineBreak, starts.skipSpace, later]

theorem readValue_object (opens : levels.inside? = some inner) (nodup : (ms.map (·.1)).Nodup)
    (read : readMembers fuel inner ('"' :: cs) = .ok (ms, rest)) :
    readValue (fuel + 1) levels ('\x7b' :: (style.lineBreak level ++ '"' :: cs)) =
      .ok (.obj ms, rest) := by
  rw [readValue, opens]
  dsimp only
  rw [skipSpace_lineBreak, skipSpace_cons (show isSpace '"' = false from rfl)]
  split
  · next closed => cases closed
  · rw [read]
    simp only [bind, Except.bind, ofMembers_of_nodup nodup]

theorem readValue_empty_object (opens : levels.inside? = some inner) (rest : List Char) :
    readValue (fuel + 1) levels ('\x7b' :: '\x7d' :: rest) = .ok (.obj [], rest) := by
  rw [readValue, opens]
  rfl

theorem exists_after_colon (style : Style) (starts : StartsValue cs) :
    ∃ after, style.colon ++ cs = ':' :: after ∧ skipSpace after = cs := by
  unfold Style.colon
  split
  · refine ⟨' ' :: cs, rfl, ?_⟩
    have blank : ∀ c ∈ [' '], isSpace c = true := by simp [isSpace]
    exact (skipSpace_blank blank cs).trans starts.skipSpace
  · exact ⟨cs, rfl, starts.skipSpace⟩

theorem readMembers_last (starts : StartsValue cs)
    (read : readValue fuel levels cs = .ok (value, style.lineBreak outer ++ '\x7d' :: rest)) :
    readMembers (fuel + 1) levels (renderString style.ascii name ++ (style.colon ++ cs)) = .ok
      ([(name, value)], rest) := by
  obtain ⟨after, colon, next⟩ := exists_after_colon style starts
  rw [renderString, List.cons_append, List.cons_append, List.append_assoc, List.singleton_append,
    colon, readMembers, readString_render]
  simp only [bind, Except.bind, skipSpace_cons (show isSpace ':' = false from rfl), next, read,
    skipSpace_lineBreak, skipSpace_cons (show isSpace '\x7d' = false from rfl)]

theorem readMembers_next (starts : StartsValue cs)
    (read : readValue fuel levels cs = .ok (value, ',' :: (style.lineBreak level ++ '"' :: more)))
    (later : readMembers fuel levels ('"' :: more) = .ok (ms, rest)) :
    readMembers (fuel + 1) levels (renderString style.ascii name ++ (style.colon ++ cs)) =
      .ok ((name, value) :: ms, rest) := by
  obtain ⟨after, colon, next⟩ := exists_after_colon style starts
  rw [renderString, List.cons_append, List.cons_append, List.append_assoc, List.singleton_append,
    colon, readMembers, readString_render]
  simp only [bind, Except.bind, skipSpace_cons (show isSpace ':' = false from rfl), next, read,
    skipSpace_cons (show isSpace ',' = false from rfl), skipSpace_lineBreak,
    skipSpace_cons (show isSpace '"' = false from rfl), later]

end Containers

/-! ## Values -/

theorem length_renderValue_pos (style : Style) (level : Nat) (j : Json) :
    0 < (renderValue style level j).length := by
  obtain ⟨c, tail, text, -⟩ := startsValue_renderValue style level j []
  rw [List.append_nil] at text
  rw [text]
  exact Nat.succ_pos _

mutual

/-- A value is read as it was written. -/
theorem readValue_render (style : Style) (level fuel : Nat) (levels : Levels) (j : Json)
    (rest : List Char) (distinct : j.Distinct) (writable : j.isWritable = true)
    (room : levels.Allow j.height) (enough : (renderValue style level j).length ≤ fuel)
    (ends : EndsNumber rest) :
    readValue fuel levels (renderValue style level j ++ rest) = .ok (j, rest) := by
  have positive := length_renderValue_pos style level j
  obtain ⟨fuel, rfl⟩ : ∃ f, fuel = f + 1 := ⟨fuel - 1, by omega⟩
  cases j with
  | null => exact readValue_eq_readScalar (by decide) (by decide) (by decide) _
  | bool b => cases b <;> exact readValue_eq_readScalar (by decide) (by decide) (by decide) _
  | int n =>
    rw [isWritable, decide_eq_true_eq] at writable
    exact readValue_renderInt writable ends
  | float x => exact readValue_renderFloat x ends
  | str s =>
    have read := readString_render style.ascii s rest
    rw [renderValue, renderString, List.cons_append, List.cons_append, List.append_assoc,
      List.singleton_append, readValue, read]
    rfl
  | arr items =>
    -- the items stand one level deeper, for which there is room
    obtain ⟨inner, opens, allow⟩ := room.inside
    cases items with
    | nil => exact readValue_empty_array opens rest
    | cons item items =>
      simp only [renderValue, List.length_cons, List.length_append, List.cons_append,
        List.append_assoc, List.nil_append] at enough ⊢
      exact readValue_array opens (startsValue_renderValue ..)
        (readItems_render style (level + 1) level fuel inner item items rest distinct writable allow
          (by omega))
  | obj members =>
    obtain ⟨inner, opens, allow⟩ := room.inside
    cases members with
    | nil => exact readValue_empty_object opens rest
    | cons member members =>
      obtain ⟨name, value⟩ := member
      simp only [renderValue, List.length_cons, List.length_append, List.cons_append,
        List.append_assoc, List.nil_append] at enough ⊢
      exact readValue_object opens distinct.1
        (readMembers_render style (level + 1) level fuel inner name value members rest distinct.2
          writable allow (by omega))
termination_by fuel

/-- The items of an array are read as they were written. -/
theorem readItems_render (style : Style) (level outer fuel : Nat) (levels : Levels) (item : Json)
    (items : List Json) (rest : List Char) (distinct : ItemsDistinct (item :: items))
    (writable : itemsWritable (item :: items) = true)
    (room : levels.Allow (itemsHeight (item :: items)))
    (enough : (renderValue style level item).length + (renderItems style level items).length <
      fuel) :
    readItems fuel levels (renderValue style level item ++ (renderItems style level items ++
      (style.lineBreak outer ++ ']' :: rest))) = .ok (item :: items, rest) := by
  obtain ⟨fuel, rfl⟩ : ∃ f, fuel = f + 1 := ⟨fuel - 1, by omega⟩
  rw [itemsWritable, Bool.and_eq_true] at writable
  have positive := length_renderValue_pos style level item
  have first (after : List Char) (ends : EndsNumber after) :=
    readValue_render style level fuel levels item after distinct.1 writable.1
      (room.mono (Nat.le_max_left ..)) (by omega) ends
  cases items with
  | nil => exact readItems_last (first _ (EndsNumber.lineBreak (endsNumber_cons (by decide))))
  | cons next items =>
    have text : renderItems style level (next :: items) ++ (style.lineBreak outer ++ ']' :: rest) =
        ',' :: (style.lineBreak level ++ (renderValue style level next ++
          (renderItems style level items ++ (style.lineBreak outer ++ ']' :: rest)))) := by
      simp only [renderItems, List.cons_append, List.append_assoc]
    simp only [renderItems, List.length_cons, List.length_append] at enough
    rw [text]
    have others := readItems_render style level outer fuel levels next items rest distinct.2
      writable.2 (room.mono (Nat.le_max_right ..)) (by omega)
    exact readItems_next (first _ (endsNumber_cons (by decide))) (startsValue_renderValue ..) others
termination_by fuel

/-- The members of an object are read as they were written. -/
theorem readMembers_render (style : Style) (level outer fuel : Nat) (levels : Levels)
    (name : String) (value : Json) (members : List (String × Json)) (rest : List Char)
    (distinct : MembersDistinct ((name, value) :: members))
    (writable : membersWritable ((name, value) :: members) = true)
    (room : levels.Allow (membersHeight ((name, value) :: members)))
    (enough : (renderString style.ascii name).length + (renderValue style level value).length +
      (renderMembers style level members).length < fuel) :
    readMembers fuel levels (renderString style.ascii name ++ (style.colon ++
      (renderValue style level value ++ (renderMembers style level members ++
        (style.lineBreak outer ++ '\x7d' :: rest))))) = .ok ((name, value) :: members, rest) := by
  obtain ⟨fuel, rfl⟩ : ∃ f, fuel = f + 1 := ⟨fuel - 1, by omega⟩
  rw [membersWritable, Bool.and_eq_true] at writable
  have first (after : List Char) (ends : EndsNumber after) :=
    readValue_render style level fuel levels value after distinct.1 writable.1
      (room.mono (Nat.le_max_left ..)) (by omega) ends
  cases members with
  | nil =>
    exact readMembers_last (startsValue_renderValue ..)
      (first _ (EndsNumber.lineBreak (endsNumber_cons (by decide))))
  | cons member members =>
    obtain ⟨next, item⟩ := member
    have text : renderMembers style level ((next, item) :: members) ++
        (style.lineBreak outer ++ '\x7d' :: rest) =
        ',' :: (style.lineBreak level ++ (renderString style.ascii next ++ (style.colon ++
          (renderValue style level item ++ (renderMembers style level members ++
            (style.lineBreak outer ++ '\x7d' :: rest)))))) := by
      simp only [renderMembers, List.cons_append, List.append_assoc]
    simp only [renderMembers, List.length_cons, List.length_append] at enough
    rw [text]
    have others := readMembers_render style level outer fuel levels next item members rest
      distinct.2 writable.2 (room.mono (Nat.le_max_right ..)) (by omega)
    exact readMembers_next (startsValue_renderValue ..)
      (first _ (endsNumber_cons (by decide))) others
termination_by fuel

end

/-- A value is read back from its text, with white space behind it, under every limit that its
containers keep. -/
theorem readWithin_render (style : Style) {j : Json} (distinct : j.Distinct)
    (writable : j.isWritable = true) (room : levels.Allow j.height) (blank : String)
    (space : ∀ c ∈ blank.toList, isSpace c = true) :
    readWithin levels (j.render style ++ blank) = .ok j := by
  have text : (j.render style ++ blank).toList = renderValue style 0 j ++ blank.toList := by
    rw [String.toList_append, render, String.toList_ofList]
  have starts := startsValue_renderValue style 0 j blank.toList
  have unmarked : (renderValue style 0 j ++ blank.toList).head? ≠ some '\uFEFF' := by
    obtain ⟨c, tail, front, -, -, other⟩ := starts
    rw [front]
    exact fun same => other (Option.some.inj same)
  have ends : EndsNumber blank.toList := by
    intro c head
    have white := space c (List.mem_of_mem_head? head)
    unfold isSpace at white
    simp only [Bool.or_eq_true, beq_iff_eq] at white
    rcases white with ((rfl | rfl) | rfl) | rfl <;> decide
  have value := readValue_render style 0 (2 * (renderValue style 0 j ++ blank.toList).length + 2)
    levels j blank.toList distinct writable room (by rw [List.length_append]; omega) ends
  have rest : skipSpace blank.toList = [] := by
    have := skipSpace_blank space []
    rwa [List.append_nil] at this
  unfold readWithin
  simp only [text]
  rw [if_neg unmarked, readDocument, starts.skipSpace, value]
  simp only [bind, Except.bind, rest]
  rfl

/-- A document is read as it was written, whatever blanks follow it. -/
theorem read_render (style : Style) {j : Json} (distinct : j.Distinct)
    (writable : j.isWritable = true) (blank : String)
    (space : ∀ c ∈ blank.toList, isSpace c = true) :
    Json.read (j.render style ++ blank) = .ok j :=
  readWithin_render style distinct writable (Levels.none_allow _) blank space

theorem readWithin_eq_ok_iff {text : String} {j : Json} :
    readWithin levels text = .ok j ↔
      text.toList.head? ≠ some '\uFEFF' ∧ readDocument levels text.toList = .ok j := by
  unfold readWithin
  dsimp only
  split
  · next marked => exact ⟨nofun, fun h => absurd marked h.1⟩
  · next unmarked =>
    refine ⟨fun read => ⟨unmarked, ?_⟩, fun h => by rw [h.2]; rfl⟩
    cases document : readDocument levels text.toList with
    | ok value =>
      rw [document] at read
      cases read
      rfl
    | error stop =>
      rw [document] at read
      cases read

/-! ## Reading without the limit -/

/-- What is read within a bound under a limit is read without the limit as well. -/
structure ReadsUnlimited (fuel : Nat) : Prop where
  value : ∀ {levels : Levels} {cs rest : List Char} {j : Json},
    readValue fuel levels cs = .ok (j, rest) → readValue fuel none cs = .ok (j, rest)
  items : ∀ {levels : Levels} {cs rest : List Char} {items : List Json},
    readItems fuel levels cs = .ok (items, rest) → readItems fuel none cs = .ok (items, rest)
  members : ∀ {levels : Levels} {cs rest : List Char} {ms : List (String × Json)},
    readMembers fuel levels cs = .ok (ms, rest) → readMembers fuel none cs = .ok (ms, rest)

namespace ReadsUnlimited

variable {j : Json} {items : List Json} {ms : List (String × Json)}

theorem value_succ (h : ReadsUnlimited fuel)
    (read : readValue (fuel + 1) levels cs = .ok (j, rest)) :
    readValue (fuel + 1) none cs = .ok (j, rest) := by
  unfold readValue at read ⊢
  split at read
  · exact read
  · dsimp only [Levels.inside?]
    split at read
    · cases read
    · split at read
      · exact read
      · simp only [bind, Except.bind] at read ⊢
        split at read
        · cases read
        · next inner =>
          cases read
          rw [h.items inner]
  · dsimp only [Levels.inside?]
    split at read
    · cases read
    · split at read
      · exact read
      · simp only [bind, Except.bind] at read ⊢
        split at read
        · cases read
        · next inner =>
          cases read
          rw [h.members inner]
  · exact read

theorem items_succ (h : ReadsUnlimited fuel)
    (read : readItems (fuel + 1) levels cs = .ok (items, rest)) :
    readItems (fuel + 1) none cs = .ok (items, rest) := by
  rw [readItems] at read ⊢
  simp only [bind, Except.bind] at read ⊢
  split at read
  · cases read
  · next first =>
    rw [h.value first]
    dsimp only
    split at read
    · exact read
    · split at read
      · cases read
      · next later =>
        rw [h.items later]
        exact read
    · cases read

theorem members_succ (h : ReadsUnlimited fuel)
    (read : readMembers (fuel + 1) levels cs = .ok (ms, rest)) :
    readMembers (fuel + 1) none cs = .ok (ms, rest) := by
  unfold readMembers at read ⊢
  split at read
  · simp only [bind, Except.bind] at read ⊢
    split at read
    · cases read
    · split at read
      · split at read
        · cases read
        · next first =>
          rw [h.value first]
          dsimp only
          split at read
          · exact read
          · split at read
            · cases read
            · next later =>
              rw [h.members later]
              exact read
          · cases read
      · cases read
  · cases read

end ReadsUnlimited

/-- What is read within a limit of nesting is read without one. -/
theorem readsUnlimited (fuel : Nat) : ReadsUnlimited fuel := by
  induction fuel with
  | zero => exact ⟨nofun, nofun, nofun⟩
  | succ fuel ih => exact ⟨ih.value_succ, ih.items_succ, ih.members_succ⟩

/-- What is read under a limit is what is read without. -/
theorem read_of_readWithin {text : String} {j : Json} (read : readWithin levels text = .ok j) :
    Json.read text = .ok j := by
  obtain ⟨unmarked, document⟩ := readWithin_eq_ok_iff.1 read
  refine readWithin_eq_ok_iff.2 ⟨unmarked, ?_⟩
  unfold readDocument at document ⊢
  simp only [bind, Except.bind] at document ⊢
  split at document
  · cases document
  · next value =>
    rw [(readsUnlimited _).value value]
    exact document

end Json

end TokenBroker
