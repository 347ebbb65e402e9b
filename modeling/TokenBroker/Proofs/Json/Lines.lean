import TokenBroker.Proofs.Json.Numbers
import TokenBroker.Proofs.Json.Strings
import TokenBroker.Text.Blank

/-!
# Line ends in written values

A written value has no carriage return: strings escape it, and what stands around them has none
(`Json.return_not_mem_renderValue`). So its text stays as it is when line ends are made alike
(`Json.unifyLines_render`).
-/

namespace TokenBroker

namespace Text

theorem unifyChars_of_not_mem {cs : List Char} (none : '\r' ∉ cs) : unifyChars cs = cs := by
  induction cs with
  | nil => rfl
  | cons c cs ih =>
    rw [List.mem_cons, not_or] at none
    rw [unifyChars, ih none.2]
    · rintro _ rfl
      exact absurd rfl none.1
    · rintro rfl
      exact absurd rfl none.1

theorem unifyLines_of_not_mem {s : String} (none : '\r' ∉ s.toList) : unifyLines s = s := by
  rw [unifyLines, unifyChars_of_not_mem none, String.ofList_toList]

theorem AllDigits.return_not_mem {cs : List Char} (digits : AllDigits cs) : '\r' ∉ cs := by
  intro member
  have digit := digits '\r' member
  cases digit

end Text

namespace Json

open Text (AllDigits)

variable {style : Style}

theorem return_not_mem_signText (negative : Bool) : '\r' ∉ signText negative := by
  cases negative <;> decide

theorem return_not_mem_fractionText {fs : List Char} (digits : AllDigits fs) :
    '\r' ∉ fractionText fs := by
  unfold fractionText
  split
  · exact List.not_mem_nil
  · simp [digits.return_not_mem]

theorem return_not_mem_powerText (power : Option Int) : '\r' ∉ powerText power := by
  cases power with
  | none => exact List.not_mem_nil
  | some power =>
    obtain ⟨ds, text, digits, -⟩ := exists_exponentText power
    rw [powerText, text]
    split <;> simp [digits.return_not_mem]

theorem return_not_mem_renderFloat (x : Binary64) :
    '\r' ∉ (Binary64.Layout.json.render x).toList := by
  cases x with
  | nan => decide
  | infinite negative => cases negative <;> decide
  | finite negative m e canonical =>
    obtain ⟨cs, text, writes⟩ := Binary64.writes_render negative canonical
    cases writes with
    | parts isWhole digits =>
      rw [text]
      simp only [List.mem_append, not_or]
      exact ⟨return_not_mem_signText negative, isWhole.digits.return_not_mem,
        return_not_mem_fractionText digits, return_not_mem_powerText _⟩

theorem return_not_mem_unitEscape (u : Nat) : '\r' ∉ unitEscape u := by
  have digit : ∀ d < 16, '\r' ≠ Nat.digitChar d := by decide
  unfold unitEscape Text.hexDigits
  simp only [List.mem_cons, List.mem_map, not_or, not_exists, not_and]
  refine ⟨by decide, by decide, ?_⟩
  intro i _ same
  exact digit _ (Nat.mod_lt _ (by decide)) same.symm

theorem return_not_mem_renderChar (ascii : Bool) (c : Char) : '\r' ∉ renderChar ascii c := by
  have writes := writesChar_renderChar ascii c
  generalize renderChar ascii c = text at writes ⊢
  cases writes with
  | short escape =>
    intro member
    rcases List.mem_cons.1 member with same | member
    · cases same
    · rw [← List.mem_singleton.1 member] at escape
      cases escape
  | unit => exact return_not_mem_unitEscape _
  | plain quote backslash printed =>
    rw [List.mem_singleton]
    rintro rfl
    exact printed (by decide)
  | surrogates =>
    rw [List.mem_append, not_or]
    exact ⟨return_not_mem_unitEscape _, return_not_mem_unitEscape _⟩

theorem return_not_mem_renderString (ascii : Bool) (s : String) : '\r' ∉ renderString ascii s := by
  unfold renderString
  simp [return_not_mem_renderChar]

theorem return_not_mem_lineBreak (style : Style) (level : Nat) : '\r' ∉ style.lineBreak level := by
  unfold Style.lineBreak
  split
  · simp
  · exact List.not_mem_nil

theorem return_not_mem_colon (style : Style) : '\r' ∉ style.colon := by
  unfold Style.colon
  split <;> decide

mutual

/-- No text of a value has a carriage return. -/
theorem return_not_mem_renderValue (style : Style) (level : Nat) (j : Json) :
    '\r' ∉ renderValue style level j := by
  match j with
  | .null =>
    rw [renderValue]
    decide
  | .bool true =>
    rw [renderValue]
    decide
  | .bool false =>
    rw [renderValue]
    decide
  | .int n =>
    rw [renderValue, renderInt_eq, List.mem_append, not_or]
    exact ⟨return_not_mem_signText _, (Text.allDigits_digitsOf _).return_not_mem⟩
  | .float x => exact return_not_mem_renderFloat x
  | .str s => exact return_not_mem_renderString style.ascii s
  | .arr [] =>
    rw [renderValue]
    decide
  | .arr (item :: items) =>
    have first := return_not_mem_renderValue style (level + 1) item
    have others := return_not_mem_renderItems style (level + 1) items
    rw [renderValue]
    simp [return_not_mem_lineBreak, first, others]
  | .obj [] =>
    rw [renderValue]
    decide
  | .obj ((name, value) :: members) =>
    have first := return_not_mem_renderValue style (level + 1) value
    have others := return_not_mem_renderMembers style (level + 1) members
    rw [renderValue]
    simp [return_not_mem_lineBreak, return_not_mem_renderString, return_not_mem_colon,
      first, others]

theorem return_not_mem_renderItems (style : Style) (level : Nat) (items : List Json) :
    '\r' ∉ renderItems style level items := by
  match items with
  | [] => exact List.not_mem_nil
  | item :: items =>
    have first := return_not_mem_renderValue style level item
    have others := return_not_mem_renderItems style level items
    rw [renderItems]
    simp [return_not_mem_lineBreak, first, others]

theorem return_not_mem_renderMembers (style : Style) (level : Nat)
    (members : List (String × Json)) :
    '\r' ∉ renderMembers style level members := by
  match members with
  | [] => exact List.not_mem_nil
  | (name, value) :: members =>
    have first := return_not_mem_renderValue style level value
    have others := return_not_mem_renderMembers style level members
    rw [renderMembers]
    simp [return_not_mem_lineBreak, return_not_mem_renderString, return_not_mem_colon,
      first, others]

end

/-- A written value, with a line feed behind it, stays as it is when line ends are made alike. -/
theorem unifyLines_render (style : Style) (j : Json) :
    Text.unifyLines (j.render style ++ "\n") = j.render style ++ "\n" := by
  apply Text.unifyLines_of_not_mem
  rw [String.toList_append, render, String.toList_ofList, List.mem_append, not_or]
  exact ⟨return_not_mem_renderValue style 0 j, by decide⟩

end Json

end TokenBroker
