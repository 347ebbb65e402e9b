import TokenBroker.Proofs.Text.Pieces
import TokenBroker.Text.Fold

/-!
# What folding keeps

Words are cut and put on lines in their order, so nothing of a text is lost on the way
(`flatten_linesOfWords`); what goes at the end of a line is blank. For texts of characters that take
one column each, every line fits the screen, and all that can be seen of the text is seen on its
lines (`fold_narrow`). A text that fits a line is that line (`foldLine_of_fits`).
-/

namespace TokenBroker

namespace Text

variable {c : Char} {cs line part word : List Char} {lines pieces ws : List (List Char)}
  {columns used : Nat}

/-! ## Nothing is lost by cutting -/

theorem flatMap_clustersFrom (last : Option Char) (now : Cluster) (cs : List Char) :
    (clustersFrom last now cs).flatMap (·.chars) = now.chars ++ cs := by
  fun_induction clustersFrom last now cs <;> simp_all

theorem flatMap_clusters (cs : List Char) : (clusters cs).flatMap (·.chars) = cs := by
  cases cs with
  | nil => rfl
  | cons c cs => exact flatMap_clustersFrom _ _ cs

theorem flatten_chopFrom (columns : Nat) (part : List Char) (used : Nat) (cl : List Cluster) :
    (chopFrom columns part used cl).flatten = part ++ cl.flatMap (·.chars) := by
  fun_induction chopFrom columns part used cl <;> simp_all

/-- The pieces of a word that is cut are the word. -/
theorem flatten_chop (columns : Nat) (cs : List Char) : (chop columns cs).flatten = cs := by
  rw [chop, flatten_chopFrom, flatMap_clusters]
  rfl

theorem flatten_wordsFrom (word : List Char) (ended : Bool) (cs : List Char) :
    (wordsFrom word ended cs).flatten = word ++ cs := by
  fun_induction wordsFrom word ended cs <;> simp_all

/-- The words of a text are the text. -/
theorem flatten_words (cs : List Char) : (words cs).flatten = cs := by
  rw [words, flatten_wordsFrom, List.takeWhile_append_dropWhile]

theorem flatten_dropWhile_isEmpty (lines : List (List Char)) :
    (lines.dropWhile (·.isEmpty)).flatten = lines.flatten := by
  induction lines with
  | nil => rfl
  | cons line lines ih => cases line <;> simp_all

theorem flatten_dropLast_append (lines : List (List Char)) :
    lines.dropLast.flatten ++ lines.getLastD [] = lines.flatten := by
  rcases lines.eq_nil_or_concat with rfl | ⟨front, last, rfl⟩
  · rfl
  · simp

theorem flatten_cutWord (columns : Nat) (line word : List Char) :
    (cutWord columns line word).flatten = line ++ word := by
  unfold cutWord
  split
  · next start =>
    rw [flatten_dropWhile_isEmpty, flatten_chop, List.isEmpty_iff.1 start]
    rfl
  · rw [List.flatten_cons, flatten_chop]

/-- The lines of words hold the words in their order. -/
theorem flatten_linesOfWords (columns : Nat) (line : List Char) (used : Nat)
    (ws : List (List Char)) :
    (linesOfWords columns line used ws).flatten = line ++ ws.flatten := by
  induction ws generalizing line used with
  | nil => simp [linesOfWords]
  | cons word ws ih =>
    unfold linesOfWords
    split
    · rw [ih, List.flatten_cons, List.append_assoc]
    · split
      · rw [List.flatten_cons, ih, List.flatten_cons]
      · simp only [List.flatten_append, ih]
        rw [← List.append_assoc, flatten_dropLast_append, flatten_cutWord, List.flatten_cons,
          List.append_assoc]

/-! ## Blanks at the end of a line -/

/-- The blanks at the end of a text. -/
def blanksAtEnd (cs : List Char) : List Char := (cs.reverse.takeWhile isBlankOrSeparator).reverse

theorem trimEnd_append_blanksAtEnd (cs : List Char) : trimEnd cs ++ blanksAtEnd cs = cs := by
  rw [trimEnd, blanksAtEnd, ← List.reverse_append, List.takeWhile_append_dropWhile,
    List.reverse_reverse]

theorem isBlank_of_mem_blanksAtEnd (blank : c ∈ blanksAtEnd cs) : isBlankOrSeparator c = true := by
  rw [blanksAtEnd, List.mem_reverse] at blank
  exact List.all_eq_true.1 List.all_takeWhile c blank

theorem trimEnd_append (cs cs' : List Char) :
    trimEnd (cs ++ cs') = if trimEnd cs' = [] then trimEnd cs else cs ++ trimEnd cs' := by
  simp only [trimEnd, List.reverse_append, List.dropWhile_append, List.reverse_eq_nil_iff,
    List.isEmpty_iff]
  split <;> simp

theorem length_trimEnd_le (cs : List Char) : (trimEnd cs).length ≤ cs.length := by
  have whole := congrArg List.length (trimEnd_append_blanksAtEnd cs)
  rw [List.length_append] at whole
  omega

/-- What goes at the end of a line stands behind its last visible character. -/
theorem trimBeyond_eq (columns : Nat) (line : List Char) :
    ∃ n, trimBeyond columns line = trimEnd line ++ (blanksAtEnd line).take n ∧
      ((trimEnd line).length ≤ columns → (trimBeyond columns line).length ≤ columns) := by
  have whole := trimEnd_append_blanksAtEnd line
  have length := congrArg List.length whole
  have blanks : (blanksAtEnd line).length = (line.reverse.takeWhile isBlankOrSeparator).length := by
    rw [blanksAtEnd, List.length_reverse]
  rw [List.length_append, blanks] at length
  simp only [trimBeyond]
  generalize (line.reverse.takeWhile isBlankOrSeparator).length = b at length
  refine ⟨line.length - min b (line.length - columns) - (trimEnd line).length, ?_, fun fits => ?_⟩
  · have front : (trimEnd line).length ≤ line.length - min b (line.length - columns) := by omega
    have taken : (trimEnd line ++ blanksAtEnd line).take
        (line.length - min b (line.length - columns)) = _ :=
      List.take_append
    rwa [whole, List.take_of_length_le front] at taken
  · rw [List.length_take]
    omega

theorem filter_trimBeyond (columns : Nat) (line : List Char) :
    (trimBeyond columns line).filter (!isBlankOrSeparator ·) = line.filter
      (!isBlankOrSeparator ·) := by
  obtain ⟨n, kept, -⟩ := trimBeyond_eq columns line
  have unseen {cs : List Char} (blank : ∀ c ∈ cs, isBlankOrSeparator c = true) :
      cs.filter (!isBlankOrSeparator ·) = [] := by
    simpa [List.filter_eq_nil_iff] using blank
  have whole := congrArg (List.filter (!isBlankOrSeparator ·)) (trimEnd_append_blanksAtEnd line)
  rw [List.filter_append, unseen fun c => isBlank_of_mem_blanksAtEnd] at whole
  rw [kept, List.filter_append, unseen fun c member =>
    isBlank_of_mem_blanksAtEnd (List.mem_of_mem_take member), whole]

theorem trimBeyond_of_fits (fits : line.length ≤ columns) : trimBeyond columns line = line := by
  simp [trimBeyond, Nat.sub_eq_zero_of_le fits]

/-! ## Characters of one column -/

/-- Every character takes one column. -/
def Narrow (cs : List Char) : Prop := ∀ c ∈ cs, charWidth c = 1

theorem Narrow.mono {cs' : List Char} (narrow : Narrow cs) (within : ∀ c ∈ cs', c ∈ cs) :
    Narrow cs' :=
  fun c member => narrow c (within c member)

/-- A joiner and an emoji selector take no column by themselves. -/
theorem ne_of_charWidth (one : charWidth c = 1) : c ≠ joiner ∧ c ≠ emojiSelector := by
  have joins : charWidth joiner = 0 := by decide +kernel
  have selects : charWidth emojiSelector = 0 := by decide +kernel
  constructor <;> rintro rfl <;> omega

theorem widthAfter_narrow (narrow : Narrow cs) (last : Option Char) :
    widthAfter last cs = cs.length := by
  induction cs generalizing last with
  | nil => rfl
  | cons c cs ih =>
    have one := narrow c List.mem_cons_self
    obtain ⟨other, plain⟩ := ne_of_charWidth one
    rw [widthAfter.eq_def]
    simp only [if_neg other, if_neg plain, one, ih (narrow.mono fun _ => List.mem_cons_of_mem _),
      List.length_cons]
    omega

/-- A narrow text takes as many columns as it has characters. -/
theorem width_narrow (narrow : Narrow cs) : width cs = cs.length := widthAfter_narrow narrow none

theorem clustersFrom_narrow (narrow : Narrow cs) (last : Option Char) (now : Cluster) :
    clustersFrom last now cs = now :: cs.map fun c => ⟨[c], 1⟩ := by
  induction cs generalizing last now with
  | nil => rfl
  | cons c cs ih =>
    have one := narrow c List.mem_cons_self
    obtain ⟨other, plain⟩ := ne_of_charWidth one
    rw [clustersFrom.eq_def]
    simp only [if_neg other, if_neg plain, one, Nat.one_ne_zero, if_false,
      ih (narrow.mono fun _ => List.mem_cons_of_mem _), List.map_cons]

theorem clusters_narrow (narrow : Narrow cs) : clusters cs = cs.map fun c => ⟨[c], 1⟩ := by
  cases cs with
  | nil => rfl
  | cons c cs =>
    rw [clusters, clustersFrom_narrow (narrow.mono fun _ => List.mem_cons_of_mem _),
      narrow c List.mem_cons_self, List.map_cons]

theorem length_le_of_mem_chop (narrow : Narrow cs) (positive : 0 < columns) :
    ∀ piece ∈ chop columns cs, piece.length ≤ columns := by
  have from_part (part : List Char) (fits : part.length ≤ columns) (cs : List Char) :
      ∀ piece ∈ chopFrom columns part part.length (cs.map fun c => ⟨[c], 1⟩),
        piece.length ≤ columns := by
    induction cs generalizing part with
    | nil => simpa [chopFrom] using fits
    | cons c cs ih =>
      rw [List.map_cons, chopFrom]
      split
      · next room => simpa using ih (part ++ [c]) (by simpa using room)
      · exact List.forall_mem_cons.2 ⟨fits, ih [c] positive⟩
  rw [chop, clusters_narrow narrow]
  exact from_part [] (Nat.zero_le _) cs

/-! ## Lines that fit -/

theorem mem_cutWord {piece : List Char} (member : piece ∈ cutWord columns line word) :
    piece = line ∨ piece ∈ chop columns word := by
  unfold cutWord at member
  split at member
  · exact .inr ((List.dropWhile_suffix _).subset member)
  · exact List.mem_cons.1 member

/-- The lines of narrow words fit the screen, apart from blanks at their ends. -/
theorem length_trimEnd_le_of_mem_linesOfWords (narrow : ∀ word ∈ ws, Narrow word)
    (whole : Narrow line) (positive : 0 < columns) (fits : (trimEnd line).length ≤ columns) :
    ∀ l ∈ linesOfWords columns line line.length ws, (trimEnd l).length ≤ columns := by
  induction ws generalizing line with
  | nil => simpa [linesOfWords] using fits
  | cons word ws ih =>
    obtain ⟨own, others⟩ := List.forall_mem_cons.1 narrow
    have trimmed : width (trimEnd word) = (trimEnd word).length := by
      refine width_narrow (own.mono fun c member => ?_)
      rw [← trimEnd_append_blanksAtEnd word]
      exact List.mem_append_left _ member
    unfold linesOfWords
    rw [trimmed, width_narrow own]
    split
    · next room =>
      rw [← List.length_append]
      refine ih others (List.forall_mem_append.2 ⟨whole, own⟩) ?_
      rw [trimEnd_append]
      split
      · exact fits
      · rwa [List.length_append]
    · split
      · next room => exact List.forall_mem_cons.2 ⟨fits, ih others own room⟩
      · -- the word is cut, and its last piece is the line that goes on
        have short : ∀ piece ∈ cutWord columns line word, (trimEnd piece).length ≤ columns ∧
            Narrow piece := by
          intro piece member
          rcases mem_cutWord member with rfl | cut
          · exact ⟨fits, whole⟩
          · refine ⟨Nat.le_trans (length_trimEnd_le piece)
              (length_le_of_mem_chop own positive piece cut), ?_⟩
            refine own.mono fun c inside => ?_
            rw [← flatten_chop columns word]
            exact List.mem_flatten_of_mem cut inside
        have last : (trimEnd ((cutWord columns line word).getLastD [])).length ≤ columns ∧
            Narrow ((cutWord columns line word).getLastD []) := by
          rcases List.eq_nil_or_concat (cutWord columns line word) with none | ⟨front, last, some⟩
          · rw [none]
            exact ⟨Nat.zero_le _, nofun⟩
          · rw [List.concat_eq_append] at some
            rw [some, List.getLastD_concat]
            exact short last (by rw [some]; exact List.mem_concat_self)
        simp only [width_narrow last.2]
        refine List.forall_mem_append.2 ⟨fun l member => ?_, ih others last.2 last.1⟩
        exact (short l (List.dropLast_subset _ member)).1

theorem narrow_of_mem_words (narrow : Narrow cs) : ∀ word ∈ words cs, Narrow word := by
  intro word member
  refine narrow.mono fun c inside => ?_
  rw [← flatten_words cs]
  exact List.mem_flatten_of_mem member inside

/-- All lines of a narrow text fit the screen, and show what can be seen of it. -/
theorem foldLine_narrow (narrow : Narrow cs) (positive : 0 < columns) :
    (∀ l ∈ foldLine columns cs, l.length ≤ columns) ∧
      (foldLine columns cs).flatten.filter (!isBlankOrSeparator ·) = cs.filter
        (!isBlankOrSeparator ·) := by
  have fits : ∀ l ∈ linesOfWords columns [] 0 (words cs), (trimEnd l).length ≤ columns :=
    length_trimEnd_le_of_mem_linesOfWords (narrow_of_mem_words narrow) nofun
      positive (Nat.zero_le _)
  have all : (linesOfWords columns [] 0 (words cs)).flatten = cs := by
    rw [flatten_linesOfWords, flatten_words]
    rfl
  -- a line without the blanks beyond the screen has room on it
  have kept : ∀ l ∈ linesOfWords columns [] 0 (words cs),
      (trimBeyond columns l).length ≤ columns ∧
      crop columns (trimBeyond columns l) = trimBeyond columns l := by
    intro l member
    obtain ⟨n, same, short⟩ := trimBeyond_eq columns l
    have short := short (fits l member)
    have within : Narrow (trimBeyond columns l) := by
      refine narrow.mono fun c inside => ?_
      rw [← all]
      exact List.mem_flatten_of_mem member (List.take_subset _ _ inside)
    refine ⟨short, if_pos ?_⟩
    rwa [width_narrow within]
  have lines : foldLine columns cs = (linesOfWords columns [] 0 (words cs)).map
      (trimBeyond columns) :=
    List.map_congr_left fun l member => (kept l member).2
  rw [lines]
  refine ⟨fun l member => ?_, ?_⟩
  · obtain ⟨line, inside, rfl⟩ := List.mem_map.1 member
    exact (kept line inside).1
  · rw [List.filter_flatten, List.map_map]
    have visible : List.filter (!isBlankOrSeparator ·) ∘ trimBeyond columns =
        List.filter (!isBlankOrSeparator ·) :=
      funext (filter_trimBeyond columns)
    rw [visible, ← List.filter_flatten, all]

/-- Narrow words that fit one line stay on it. -/
theorem linesOfWords_of_fits (narrow : ∀ word ∈ ws, Narrow word)
    (fits : line.length + ws.flatten.length ≤ columns) :
    linesOfWords columns line line.length ws = [line ++ ws.flatten] := by
  induction ws generalizing line with
  | nil => simp [linesOfWords]
  | cons word ws ih =>
    obtain ⟨own, others⟩ := List.forall_mem_cons.1 narrow
    rw [List.flatten_cons, List.length_append] at fits
    have trimmed : Narrow (trimEnd word) := by
      refine own.mono fun c member => ?_
      rw [← trimEnd_append_blanksAtEnd word]
      exact List.mem_append_left _ member
    have room : line.length + width (trimEnd word) ≤ columns := by
      have shorter := length_trimEnd_le word
      rw [width_narrow trimmed]
      omega
    rw [linesOfWords, if_pos room, width_narrow own, ← List.length_append,
      ih others (by rw [List.length_append]; omega), List.flatten_cons, List.append_assoc]

/-- A narrow text that fits a line is that line. -/
theorem foldLine_of_fits (narrow : Narrow cs) (fits : cs.length ≤ columns) :
    foldLine columns cs = [cs] := by
  -- no word has to go to a line of its own
  have one : linesOfWords columns [] 0 (words cs) = [cs] := by
    have lines : linesOfWords columns [] 0 (words cs) = [[] ++ (words cs).flatten] :=
      linesOfWords_of_fits (narrow_of_mem_words narrow)
        (by rw [flatten_words, List.length_nil, Nat.zero_add]; exact fits)
    rwa [flatten_words] at lines
  have kept : crop columns cs = cs := by
    rw [crop, width_narrow narrow, if_pos fits]
  rw [foldLine, one, List.map_singleton, trimBeyond_of_fits fits, kept]

/-! ## Whole texts -/

/-- **What can be seen of a text is seen when it is folded.** Let each of its characters but the
line ends take one column. Then every line fits the screen, and the lines show all that is not
blank, in its order. -/
theorem fold_narrow (narrow : ∀ c ∈ cs, c ≠ '\n' → charWidth c = 1) (positive : 0 < columns) :
    (∀ l ∈ fold columns cs, l.length ≤ columns) ∧
      (fold columns cs).flatten.filter (!isBlankOrSeparator ·) = cs.filter
        (!isBlankOrSeparator ·) := by
  have each : ∀ part ∈ cs.splitOn '\n', Narrow part := by
    intro part member c inside
    obtain ⟨other, inside⟩ := ne_and_mem_of_mem_splitOn member c inside
    exact narrow c inside other
  refine ⟨fun l member => ?_, ?_⟩
  · obtain ⟨part, inside, member⟩ := List.mem_flatMap.1 member
    exact (foldLine_narrow (each part inside) positive).1 l member
  · have blank : (!isBlankOrSeparator '\n') = false := by decide
    rw [← filter_flatten_splitOn blank cs, fold]
    generalize cs.splitOn '\n' = parts at each
    induction parts with
    | nil => rfl
    | cons part parts ih =>
      obtain ⟨own, others⟩ := List.forall_mem_cons.1 each
      rw [List.flatMap_cons, List.flatten_append, List.filter_append,
        (foldLine_narrow own positive).2, ih others, List.flatten_cons, List.filter_append]

example : fold 12 "written to /tmp/crash.log".toList =
    ["written to ".toList, "/tmp/crash.l".toList, "og".toList] := by cbv

end Text

end TokenBroker
