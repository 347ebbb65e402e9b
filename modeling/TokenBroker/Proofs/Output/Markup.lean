import TokenBroker.Output.Presentation
import TokenBroker.Proofs.Text.Fold

/-!
# Which diagnostics can be shown

A text of plain characters, that is without opening brackets and backslashes, has no tags; put
between a style's own tags it can be shown (`Markup.isOk_styled`). So a diagnostic about plain texts
can always be shown. One that quotes a closing tag cannot, since nothing is open that it could close
(`Markup.isOk_closing`).
-/

namespace TokenBroker

namespace Markup

/-- Characters that have no meaning of their own in a marked-up text. -/
def isPlain (c : Char) : Bool := c ≠ '[' && c ≠ '\\'

/-- A text that means itself in a marked-up text. -/
def isPlainText (cs : List Char) : Bool := cs.all isPlain

variable {cs ds rest run body : List Char} {position : Nat} {opened : List Opened} {c : Char}

/-! ## Pieces -/

theorem piecesFrom_plain_cons (plain : isPlain c = true) :
    piecesFrom position run 0 (c :: rest) = piecesFrom (position + 1) (c :: run) 0 rest := by
  simp only [isPlain, Bool.and_eq_true, decide_eq_true_eq] at plain
  rw [piecesFrom]
  · simp
  · exact plain.2
  · exact plain.1

/-- A plain text is gathered into the run before the next tag. -/
theorem piecesFrom_plain_append (plain : isPlainText cs = true) :
    piecesFrom position run 0 (cs ++ rest) =
      piecesFrom (position + cs.length) (cs.reverse ++ run) 0 rest := by
  induction cs generalizing position run with
  | nil => rfl
  | cons c cs ih =>
    simp only [isPlainText, List.all_cons, Bool.and_eq_true] at plain
    rw [List.cons_append, piecesFrom_plain_cons plain.1, ih plain.2]
    simp only [List.length_cons, List.reverse_cons, List.append_assoc, List.singleton_append]
    congr 1
    omega

theorem piecesFrom_tag (tag : body? cs = some (body, rest)) :
    piecesFrom position run 0 ('[' :: cs) =
      .text (unescaped run.reverse) :: .text [] :: .tag (tagOf body position) ::
        piecesFrom (position + body.length + 2) [] 0 rest := by
  rw [piecesFrom]
  split
  · next found =>
    rw [tag] at found
    cases found
    rfl
  · next missing =>
    rw [tag] at missing
    cases missing

/-- A backslash before a tag makes it text. -/
theorem piecesFrom_escaped (tag : body? cs = some (body, rest)) :
    piecesFrom position run 0 ('\\' :: '[' :: cs) =
      .text (unescaped run.reverse) :: .text [] :: .text ('[' :: body ++ [']']) ::
        piecesFrom (position + 1 + body.length + 2) [] 0 rest := by
  rw [piecesFrom, piecesFrom]
  split
  · next found =>
    rw [tag] at found
    cases found
    rfl
  · next missing =>
    rw [tag] at missing
    cases missing

/-- What stands between brackets is a tag. -/
theorem body?_of_name (starts : startsTag c = true) (name : ∀ d ∈ cs, d ≠ '[' ∧ d ≠ ']') :
    body? (c :: (cs ++ ']' :: rest)) = some (c :: cs, rest) := by
  have within : ∀ d ∈ cs, (d ≠ '[' && d ≠ ']') = true :=
    fun d inside => by simpa using name d inside
  have dropped : (cs ++ ']' :: rest).dropWhile (fun d => d ≠ '[' && d ≠ ']') = ']' :: rest := by
    rw [List.dropWhile_append_of_pos within]
    rfl
  have taken : (cs ++ ']' :: rest).takeWhile (fun d => d ≠ '[' && d ≠ ']') = cs := by
    rw [List.takeWhile_append_of_pos within]
    simp
  simp only [body?, starts, if_true, dropped, taken]

/-! ## What is seen -/

theorem isOk_map {ε α β : Type} (f : α → β) (x : Except ε α) : (x.map f).isOk = x.isOk := by
  cases x <;> rfl

theorem isOk_seenOf_text (opened : List Opened) (cs : List Char) (ps : List Piece) :
    (seenOf opened (.text cs :: ps)).isOk = (seenOf opened ps).isOk := isOk_map _ _

theorem seenOf_tag {t : Tag} {next : List Opened} (after : afterTag opened t = .ok next)
    (ps : List Piece) : seenOf opened (.tag t :: ps) = seenOf next ps := by
  simp only [seenOf, after]
  rfl

/-- A plain text can be shown. -/
theorem isOk_plain (plain : isPlainText cs = true) :
    (seenOf opened (piecesFrom position run 0 cs)).isOk = true := by
  have gathered : piecesFrom position run 0 (cs ++ []) = piecesFrom (position + cs.length)
      (cs.reverse ++ run) 0 [] :=
    piecesFrom_plain_append plain
  rw [List.append_nil] at gathered
  rw [gathered, piecesFrom, isOk_seenOf_text]
  rfl

/-- A tag that is written without parameters. -/
theorem tagOf_of_bare (bare : ∀ c ∈ body, c ≠ '=') (position : Nat) :
    tagOf body position = ⟨body, none, position⟩ := by
  have rest : body.dropWhile (· ≠ '=') = [] := by
    have dropped : (body ++ []).dropWhile (· ≠ '=') = List.dropWhile (· ≠ '=') [] :=
      List.dropWhile_append_of_pos fun c inside => decide_eq_true (bare c inside)
    rwa [List.append_nil] at dropped
  simp only [tagOf, rest]

/-- The tag that opens a style. -/
def opening (name : List Char) : List Char := '[' :: (name ++ [']'])

/-- The tag that closes a style. -/
def closing (name : List Char) : List Char := '[' :: '/' :: (name ++ [']'])

/-- A name under which a style is opened and closed. -/
structure IsStyle (name : List Char) : Prop where
  starts : ∃ c cs, name = c :: cs ∧ startsTag c = true ∧ c ≠ '/'
  inside : ∀ c ∈ name, c ≠ '[' ∧ c ≠ ']'
  bare : ∀ c ∈ name, c ≠ '='
  visible : Text.stripChars Text.isBlankOrSeparator name = name
  normal : ∃ form, normalName name = .ok form

namespace IsStyle

variable {name : List Char}

theorem afterTag_opening (style : IsStyle name) {form : List Char}
    (normal : normalName name = .ok form) :
    afterTag opened ⟨name, none, position⟩ = .ok (⟨form, none⟩ :: opened) := by
  obtain ⟨c, cs, rfl, -, open_⟩ := style.starts
  unfold afterTag
  split
  · next same => exact absurd (List.cons.inj same).1 open_
  · rw [normal]
    rfl

theorem afterTag_closing (style : IsStyle name) {form : List Char}
    (normal : normalName name = .ok form) :
    afterTag (⟨form, none⟩ :: opened) ⟨'/' :: name, none, position⟩ = .ok opened := by
  obtain ⟨c, cs, rfl, -, -⟩ := style.starts
  have checked : Opened.check ⟨form, none⟩ = .ok () := by
    unfold Opened.check
    split
    · next parameters => cases parameters
    · rfl
  simp only [afterTag, style.visible, normal, bind, Except.bind, close?, if_true, checked]
  rfl

/-- The pieces of a style that is opened. -/
theorem seenOf_opening (style : IsStyle name) {form : List Char}
    (normal : normalName name = .ok form) :
    (seenOf opened (piecesFrom position [] 0 (opening name ++ rest))).isOk =
      (seenOf (⟨form, none⟩ :: opened) (piecesFrom (position + name.length + 2)
        [] 0 rest)).isOk := by
  obtain ⟨c, tail, rfl, starts, -⟩ := style.starts
  have tag : body? (c :: (tail ++ ']' :: rest)) = some (c :: tail, rest) :=
    body?_of_name starts fun d member => style.inside d (List.mem_cons_of_mem _ member)
  simp only [opening, List.cons_append, List.append_assoc, List.nil_append]
  rw [piecesFrom_tag tag, isOk_seenOf_text, isOk_seenOf_text, tagOf_of_bare style.bare,
    seenOf_tag (style.afterTag_opening normal)]

/-- The pieces of a plain text up to where its style is closed. -/
theorem seenOf_closing (style : IsStyle name) {form : List Char}
    (normal : normalName name = .ok form) (plain : isPlainText cs = true) :
    (seenOf (⟨form, none⟩ :: opened) (piecesFrom position [] 0
      (cs ++ (closing name ++ rest)))).isOk =
      (seenOf opened (piecesFrom (position + cs.length + ('/' :: name).length + 2)
        [] 0 rest)).isOk := by
  have tag : body? ('/' :: (name ++ ']' :: rest)) = some ('/' :: name, rest) :=
    body?_of_name (by decide) style.inside
  have bare : ∀ d ∈ '/' :: name, d ≠ '=' := by
    intro d member
    rcases List.mem_cons.1 member with rfl | member
    · decide
    · exact style.bare d member
  simp only [closing, List.cons_append, List.append_assoc, List.nil_append]
  rw [piecesFrom_plain_append plain, piecesFrom_tag tag, isOk_seenOf_text, isOk_seenOf_text,
    tagOf_of_bare bare, seenOf_tag (style.afterTag_closing normal)]

/-- A plain text in a style of its own changes nothing about what follows. -/
theorem isOk_styled (style : IsStyle name) (plain : isPlainText cs = true) (rest : List Char) :
    ∃ next, (seenOf [] (pieces (opening name ++ (cs ++ (closing name ++ rest))))).isOk =
      (seenOf [] (piecesFrom next [] 0 rest)).isOk := by
  obtain ⟨form, normal⟩ := style.normal
  exact ⟨_, (style.seenOf_opening normal).trans (style.seenOf_closing normal plain)⟩

end IsStyle

/-- A name whose words add up to a style, or to none, has a normal form. -/
theorem exists_normalName {name : List Char}
    (sum : Style.ofWords {} (Style.words name) ≠ .error .emptyPart) :
    ∃ form, normalName name = .ok form := by
  unfold normalName Style.normalName
  split
  · exact ⟨_, rfl⟩
  · cases added : Style.ofWords {} (Style.words name) with
    | ok style => exact ⟨_, rfl⟩
    | error problem =>
      cases problem with
      | unknown => exact ⟨_, rfl⟩
      | emptyPart => exact absurd added sum

theorem isStyle_dim : IsStyle "dim".toList where
  starts := ⟨'d', _, rfl, by decide, by decide⟩
  inside := by simp
  bare := by simp
  visible := by decide
  normal := by
    apply exists_normalName
    have words : Style.words "dim".toList = ["dim".toList] := by decide +kernel
    have single : Style.isLeading "dim".toList = false := by decide +kernel
    have dim : Style.addWord {} "dim".toList = .ok { attributes := [("dim", true)] } := rfl
    rw [words, Style.ofWords, single, if_neg Bool.false_ne_true, dim]
    exact fun same => by cases same

theorem isStyle_boldRed : IsStyle "bold red".toList where
  starts := ⟨'b', _, rfl, by decide, by decide⟩
  inside := by simp
  bare := by simp
  visible := by decide
  normal := by
    apply exists_normalName
    have words : Style.words "bold red".toList = ["bold".toList, "red".toList] := by decide +kernel
    have leading : Style.isLeading "bold".toList = false := by decide +kernel
    have bold : Style.addWord {} "bold".toList = .ok { attributes := [("bold", true)] } := rfl
    have last : Style.isLeading "red".toList = false := by decide +kernel
    have other : Style.attribute? (Text.lower "red".toList) = none := by decide +kernel
    -- whether or not the palette has it, red is no colour of several parts
    have color : Color.name "red".toList ≠ .error .emptyPart := by
      have lower : Text.lower "red".toList = "red".toList := by decide +kernel
      have single : Color.inside? "color(" ")" "red".toList = none := by decide +kernel
      have parted : Color.inside? "rgb(" ")" "red".toList = none := by decide +kernel
      simp only [Color.name, Color.check, lower, single, parted]
      split <;> exact fun same => by cases same
    have added : Style.ofWords { attributes := [("bold", true)] }
      ["red".toList] ≠ .error .emptyPart := by
      rw [Style.ofWords, last, if_neg Bool.false_ne_true]
      simp only [Style.addWord, other]
      cases named : Color.name "red".toList with
      | ok name => exact fun same => by cases same
      | error problem =>
        rw [named] at color
        intro same
        cases same
        exact color rfl
    rw [words, Style.ofWords, leading, if_neg Bool.false_ne_true, bold]
    exact added

/-! ## Diagnostics -/

theorem isOk_plain_eq (s : String) : (plain s).isOk = (seenOf [] (pieces s.toList)).isOk :=
  isOk_map _ _

/-- With nothing open, a closing tag in a text cannot be shown. -/
theorem isOk_closing {name : List Char} (plain : isPlainText cs = true)
    (inside : ∀ c ∈ name, c ≠ '[' ∧ c ≠ ']') (bare : ∀ c ∈ name, c ≠ '=') :
    (seenOf [] (piecesFrom position [] 0 (cs ++ (closing name ++ rest)))).isOk = false := by
  have tag : body? ('/' :: (name ++ ']' :: rest)) = some ('/' :: name, rest) :=
    body?_of_name (by decide) inside
  have unslashed : ∀ c ∈ '/' :: name, c ≠ '=' := by
    intro c member
    rcases List.mem_cons.1 member with rfl | member
    · decide
    · exact bare c member
  have refused (position : Nat) : ∃ e, afterTag [] ⟨'/' :: name, none, position⟩ = .error e := by
    simp only [afterTag]
    split
    · exact ⟨_, rfl⟩
    · next same => cases same
    · cases normalName (Text.stripChars Text.isBlankOrSeparator name) with
      | error e => exact ⟨e, rfl⟩
      | ok form => exact ⟨_, rfl⟩
  simp only [closing, List.cons_append, List.append_assoc, List.nil_append]
  rw [piecesFrom_plain_append plain, piecesFrom_tag tag, isOk_seenOf_text, isOk_seenOf_text,
    tagOf_of_bare unslashed]
  obtain ⟨e, refused⟩ := refused (position + cs.length)
  simp only [seenOf, refused]
  rfl

end Markup

namespace Presentation

open Markup

variable {s : String}

theorem exists_diagnostic {text marked : String} (shown : (Markup.plain marked).isOk = true)
    (p : Presentation) : ∃ shown, p.diagnostic text marked = .ok shown := by
  unfold diagnostic
  split
  · cases seen : Markup.plain marked with
    | ok shown => exact ⟨_, rfl⟩
    | error e =>
      rw [seen] at shown
      cases shown
  · exact ⟨_, rfl⟩

/-- A plain error message can be shown. -/
theorem exists_error (plain : isPlainText s.toList = true) (p : Presentation) :
    ∃ shown, p.error s = .ok shown := by
  refine exists_diagnostic ?_ p
  have text : ("[bold red]Error:[/bold red] " ++ s).toList =
      opening "bold red".toList ++
        ("Error:".toList ++ (closing "bold red".toList ++ ' ' :: s.toList)) := by
    simp [opening, closing]
  have rest : isPlainText (' ' :: s.toList) = true := by
    simpa [isPlainText, isPlain] using plain
  have label : isPlainText "Error:".toList = true := by decide
  obtain ⟨next, same⟩ := isStyle_boldRed.isOk_styled label (' ' :: s.toList)
  have marked : "[bold red]Error:[/bold red] " ++ s = s!"[bold red]Error:[/bold red] {s}" := rfl
  rw [← marked, isOk_plain_eq, text, same]
  exact isOk_plain rest

/-- A plain hint can be shown. -/
theorem exists_suggest (plain : isPlainText s.toList = true) (p : Presentation) :
    ∃ shown, p.suggest s = .ok shown := by
  unfold suggest
  split
  · exact ⟨_, rfl⟩
  · refine exists_diagnostic ?_ p
    have text : (s!"[dim]→ {s}[/dim]").toList =
        opening "dim".toList ++ (('→' :: ' ' :: s.toList) ++ (closing "dim".toList ++ [])) := by
      have joined : s!"[dim]→ {s}[/dim]" = "[dim]→ " ++ s ++ "[/dim]" := rfl
      simp [joined, opening, closing]
    have hint : isPlainText ('→' :: ' ' :: s.toList) = true := by
      simpa [isPlainText, isPlain] using plain
    obtain ⟨next, same⟩ := isStyle_dim.isOk_styled hint []
    rw [isOk_plain_eq, text, same]
    exact isOk_plain rfl

/-- A plain remark can be shown. -/
theorem exists_debug (plain : isPlainText s.toList = true) (p : Presentation) :
    ∃ shown, p.debug s = .ok shown := by
  unfold debug
  split
  · refine exists_diagnostic ?_ p
    have text : ("[dim]\\[debug] " ++ s!"{s}[/dim]").toList =
        opening "dim".toList ++ ('\\' :: '[' :: 'd' :: ("ebug".toList ++ ']' ::
          ((' ' :: s.toList) ++ (closing "dim".toList ++ [])))) := by
      have joined : s!"{s}[/dim]" = s ++ "[/dim]" := rfl
      simp [joined, opening, closing]
    have remark : isPlainText (' ' :: s.toList) = true := by
      simpa [isPlainText, isPlain] using plain
    obtain ⟨form, normal⟩ := isStyle_dim.normal
    have label (rest : List Char) : body? ('d' :: ("ebug".toList ++ ']' :: rest)) =
        some ('d' :: "ebug".toList, rest) := body?_of_name (by decide) (by simp)
    rw [isOk_plain_eq, pieces, text, isStyle_dim.seenOf_opening normal,
      piecesFrom_escaped (label _), isOk_seenOf_text, isOk_seenOf_text, isOk_seenOf_text,
        isStyle_dim.seenOf_closing normal remark]
    exact isOk_plain rfl
  · exact ⟨_, rfl⟩

/-- Without colour every text can be shown. -/
theorem exists_of_colorless {p : Presentation} (colorless : p.color = false) (s : String) :
    (∃ shown, p.error s = .ok shown) ∧ ∃ shown, p.debug s = .ok shown := by
  have shown (text marked : String) : p.diagnostic text marked = .ok (line text) := by
    simp [diagnostic, colorless]
  refine ⟨⟨_, shown _ _⟩, ?_⟩
  unfold debug
  split
  · exact ⟨_, shown _ _⟩
  · exact ⟨_, rfl⟩

/-- An error message cannot be shown in colour if a closing tag stands in it after plain text. -/
theorem error_of_closing {before name after : List Char} {p : Presentation} (color : p.color = true)
    (plain : isPlainText before = true) (inside : ∀ c ∈ name, c ≠ '[' ∧ c ≠ ']')
    (bare : ∀ c ∈ name, c ≠ '=') (text : s.toList = before ++ (closing name ++ after)) :
    ∃ e, p.error s = .error e := by
  have marked : ("[bold red]Error:[/bold red] " ++ s).toList =
      opening "bold red".toList ++ ("Error:".toList ++ (closing "bold red".toList ++
        ((' ' :: before) ++ (closing name ++ after)))) := by
    simp [opening, closing, text]
  have quoted : isPlainText (' ' :: before) = true := by
    simpa [isPlainText, isPlain] using plain
  have label : isPlainText "Error:".toList = true := by decide
  obtain ⟨next, same⟩ :=
    isStyle_boldRed.isOk_styled label ((' ' :: before) ++ (closing name ++ after))
  have unseen : (Markup.plain ("[bold red]Error:[/bold red] " ++ s)).isOk = false := by
    rw [isOk_plain_eq, marked, same]
    exact isOk_closing quoted inside bare
  unfold error diagnostic
  rw [if_pos color]
  show ∃ e, (Markup.plain ("[bold red]Error:[/bold red] " ++ s)).map _ = .error e
  cases shown : Markup.plain ("[bold red]Error:[/bold red] " ++ s) with
  | ok cs =>
    rw [shown] at unseen
    cases unseen
  | error e => exact ⟨e, rfl⟩

/-! ## Folded diagnostics -/

theorem toList_folded {columns : Nat} (positive : 0 < columns) (s : String) :
    (folded columns s).toList = (Text.fold columns s.toList).flatMap (· ++ ['\n']) := by
  rw [folded, if_neg (Nat.ne_of_gt positive)]
  simp [String.toList_join, List.flatMap_map, line]

/-- What can be seen of a text. -/
def visible (s : String) : List Char := s.toList.filter (!Text.isBlankOrSeparator ·)

theorem visible_folded {columns : Nat} (positive : 0 < columns)
    (narrow : ∀ c ∈ s.toList, c ≠ '\n' → Text.charWidth c = 1) :
    visible (folded columns s) = visible s := by
  have ended (lines : List (List Char)) :
      (lines.flatMap (· ++ ['\n'])).filter (!Text.isBlankOrSeparator ·) =
      lines.flatten.filter (!Text.isBlankOrSeparator ·) := by
    have blank : ['\n'].filter (!Text.isBlankOrSeparator ·) = [] := by decide
    induction lines with
    | nil => rfl
    | cons l lines ih =>
      rw [List.flatMap_cons, List.flatten_cons, List.filter_append, List.filter_append,
        List.filter_append, blank, ih, List.append_nil]
  rw [visible, toList_folded positive, ended, (Text.fold_narrow narrow positive).2, visible]

/-- A diagnostic that is folded shows all that can be seen of its text without tags, if each
character of it takes one column and the screen has any. -/
theorem visible_diagnostic {text marked seen shown : String} {p : Presentation}
    (color : p.color = true) (unstyled : p.styled = false) (positive : 0 < p.columns)
    (untagged : Markup.plain marked = .ok seen)
    (narrow : ∀ c ∈ seen.toList, c ≠ '\n' → Text.charWidth c = 1)
    (told : p.diagnostic text marked = .ok shown) :
    visible shown = visible seen := by
  rw [diagnostic, if_pos color, untagged, unstyled] at told
  cases told
  exact visible_folded positive narrow

end Presentation

end TokenBroker
