import Mathlib.Data.List.Chain
import ScriptDoc.Proofs.TextWords

-- Filling takes on each line what still fits, and there is only one way to do so.
namespace ScriptDoc.GreedyFill
open TextLines TextWords

-- A line ends only where the next word would go over the width, and goes over the width itself only
-- with a single word. The number in front is the indent of the first line, the others have `next`.
inductive Greedy (width next : Nat) : Nat → List (List Text) → Prop where
  | nothing (indent : Nat) : Greedy width next indent []
  | line {indent : Nat} {row : List Text} {rest : List (List Text)} (filled : row ≠ [])
      (fits : 2 ≤ row.length → (lineText indent row).length ≤ width)
      (ends : ∀ word ∈ rest.flatten.head?, width < (lineText indent row).length + 1 + word.length)
      (more : Greedy width next next rest) : Greedy width next indent (row :: rest)

section Lengths
variable {indent : Nat} {row : List Text}

theorem length_lineText (indent : Nat) (row : List Text) :
    (lineText indent row).length = indent + (Text.join " " row).length := by
  rw [lineText,List.length_append,Text.spaces,List.length_replicate]

theorem length_lineText_append (filled : row ≠ []) {more : List Text} (some : more ≠ []) :
    (lineText indent (row ++ more)).length = (lineText indent row).length + 1 + (Text.join " " more).length := by
  have space : (" " : Text).length = 1 := rfl
  rw [length_lineText,length_lineText,join_append filled some,List.length_append,List.length_append,space]
  omega

theorem length_word_le (word : Text) (more : List Text) : word.length ≤ (Text.join " " (word :: more)).length := by
  by_cases last : more = []
  · subst more
    exact Nat.le_refl _
  · rw [join_cons word last,List.length_append,List.length_append]
    omega

-- A line that would not take a word does not hold it.
theorem row_not_longer {width : Nat} (filled : row ≠ []) {word : Text} {more : List Text}
    (ends : width < (lineText indent row).length + 1 + word.length)
    (fits : 2 ≤ (row ++ word :: more).length → (lineText indent (row ++ word :: more)).length ≤ width) : False := by
  have long : 2 ≤ (row ++ word :: more).length := by
    have some := List.length_pos_of_ne_nil filled
    rw [List.length_append,List.length_cons]
    omega
  have inside := fits long
  have held := length_word_le word more
  rw [length_lineText_append filled (List.cons_ne_nil _ _)] at inside
  omega

end Lengths

section Filling
variable {width next : Nat}

-- The open line is greedy so far, and stays so with each word.
theorem fillFrom_greedy {indent used : Nat} {line words : List Text} (filled : line ≠ [])
    (measured : used = (lineText indent line).length) (fits : 2 ≤ line.length → used ≤ width) :
    Greedy width next indent (fillFrom width next used line words) := by
  induction words generalizing indent used line with
  | nil => exact .line filled (measured ▸ fits) (by simp) (.nothing next)
  | cons word words ih =>
    rw [fillFrom]
    split
    · rename_i full
      refine .line filled (measured ▸ fits) ?_ (ih (by simp) (length_lineText next [word]).symm (by simp))
      intro first found
      rw [fillFrom_flatten,List.singleton_append,List.head?_cons] at found
      cases found
      rwa [measured] at full
    · rename_i room
      have longer := @length_lineText_append indent line filled [word] (by simp)
      apply ih (by simp)
      · rw [longer,measured]
        rfl
      · intro _
        exact Nat.le_of_not_lt room

theorem fill_greedy (first : Nat) (words : List Text) : Greedy width next first (fill width first next words) := by
  cases words with
  | nil => exact .nothing first
  | cons word words => exact fillFrom_greedy (by simp) (length_lineText first [word]).symm (by simp)

theorem greedy_empty {indent : Nat} {rows : List (List Text)} (greedy : Greedy width next indent rows)
    (none : rows.flatten = []) : rows = [] := by
  cases greedy with
  | nothing => rfl
  | line filled fits ends more =>
    rw [List.flatten_cons,List.append_eq_nil_iff] at none
    exact absurd none.1 filled

theorem greedy_unique {indent : Nat} {rows others : List (List Text)} (one : Greedy width next indent rows)
    (two : Greedy width next indent others) (same : rows.flatten = others.flatten) : rows = others := by
  induction one generalizing others with
  | nothing indent => exact (greedy_empty two same.symm).symm
  | @line indent row rest filled fits ends more ih =>
    cases two with
    | nothing =>
      rw [List.flatten_cons,List.flatten_nil,List.append_eq_nil_iff] at same
      exact absurd same.1 filled
    | @line _ other left filled' fits' ends' more' =>
      rw [List.flatten_cons,List.flatten_cons] at same
      -- Of two first lines one begins the other; a word more would have ended the shorter one too early.
      rcases List.append_eq_append_iff.mp same with ⟨extra,longer,words⟩ | ⟨extra,longer,words⟩
      · cases extra with
        | nil =>
          rw [List.append_nil] at longer
          rw [longer,ih more' words]
        | cons word extra =>
          rw [longer] at fits'
          exact (row_not_longer filled (ends word (by rw [words]; rfl)) fits').elim
      · cases extra with
        | nil =>
          rw [List.append_nil] at longer
          rw [longer,ih more' words.symm]
        | cons word extra =>
          rw [longer] at fits
          exact (row_not_longer filled' (ends' word (by rw [words]; rfl)) fits).elim

theorem greedy_iff {first : Nat} {words : List Text} {rows : List (List Text)} :
    Greedy width next first rows ∧ rows.flatten = words ↔ rows = fill width first next words := by
  constructor
  · intro ⟨greedy,whole⟩
    exact greedy_unique greedy (fill_greedy first words) (whole.trans (fill_flatten words).symm)
  · intro same
    subst rows
    exact ⟨fill_greedy first words,fill_flatten words⟩

end Filling

section Shown
variable {width first next : Nat}

-- Rows as lines of text.
def shownRows (first next : Nat) : List (List Text) → List Text
  | [] => []
  | row :: rest => lineText first row :: rest.map (lineText next)

theorem shownRows_even (indent : Nat) (rows : List (List Text)) :
    shownRows indent indent rows = rows.map (lineText indent) := by cases rows <;> rfl

theorem shownRows_cons (row : List Text) (rest : List (List Text)) :
    shownRows first next (row :: rest) = lineText first row :: shownRows next next rest :=
  congrArg (_ :: ·) (shownRows_even next rest).symm

theorem linesText_shown (rows : List (List Text)) :
    linesText first next rows = Text.join "\n" (shownRows first next rows) := by cases rows <;> rfl

theorem lineText_clean (indent : Nat) {row : List Text} (solid : ∀ word ∈ row, Solid word) :
    '\n' ∉ lineText indent row :=
  List.not_mem_append (by simp [Text.spaces]) (feed_not_mem_row solid)

theorem shownRows_clean {rows : List (List Text)} (solid : ∀ row ∈ rows, ∀ word ∈ row, Solid word) :
    ∀ line ∈ shownRows first next rows, '\n' ∉ line := by
  cases rows with
  | nil => simp [shownRows]
  | cons row rest =>
    obtain ⟨here,later⟩ := List.forall_mem_cons.mp solid
    refine List.forall_mem_cons.mpr ⟨lineText_clean first here,?_⟩
    intro line member
    obtain ⟨other,listed,rfl⟩ := List.mem_map.mp member
    exact lineText_clean next (later other listed)

theorem splitOn_fillText {words : List Text} (solid : ∀ word ∈ words, Solid word) (some : words ≠ []) :
    Text.splitOn '\n' (fillText width first next words) = shownRows first next (fill width first next words) := by
  have rows : shownRows first next (fill width first next words) ≠ [] := by
    obtain ⟨row,rest,found⟩ := List.exists_cons_of_ne_nil (@fill_ne_nil width next first words some)
    simp [found,shownRows]
  rw [fillText,linesText_shown]
  exact splitOn_join_clean rows (shownRows_clean fun row => fill_solid solid)

end Shown

section Lines
variable {width first next : Nat}

-- No line ends while the first word of the next one would still fit on it.
def Full (width : Nat) (lines : List Text) : Prop :=
  lines.IsChain fun line later => ∀ word ∈ later.words.head?, width < line.length + 1 + word.length

-- Only a single word goes over the width.
def Within (width : Nat) (lines : List Text) : Prop :=
  ∀ line ∈ lines, 2 ≤ line.words.length → line.length ≤ width

theorem greedy_lines {indent : Nat} {rows : List (List Text)} (greedy : Greedy width next indent rows)
    (solid : ∀ row ∈ rows, ∀ word ∈ row, Solid word) :
    Full width (shownRows indent next rows) ∧ Within width (shownRows indent next rows) := by
  induction greedy with
  | nothing indent => exact ⟨.nil,by simp [Within,shownRows]⟩
  | @line indent row rest filled fits ends more ih =>
    obtain ⟨here,later⟩ := List.forall_mem_cons.mp solid
    obtain ⟨full,within⟩ := ih later
    rw [shownRows_cons]
    refine ⟨List.isChain_cons.mpr ⟨?_,full⟩,List.forall_mem_cons.mpr ⟨?_,within⟩⟩
    · intro line front word found
      apply ends
      cases rest with
      | nil => cases front
      | cons other rest =>
        cases front
        rw [words_lineText next (later other (by simp))] at found
        obtain ⟨tail,rfl⟩ := List.head?_eq_some_iff.mp found
        rfl
    · rwa [words_lineText indent here]

-- What the lines show is enough: rows whose lines are full and within the width are greedy.
theorem greedy_of_lines {indent : Nat} {rows : List (List Text)} (filled : ∀ row ∈ rows, row ≠ [])
    (solid : ∀ row ∈ rows, ∀ word ∈ row, Solid word) (full : Full width (shownRows indent next rows))
    (within : Within width (shownRows indent next rows)) : Greedy width next indent rows := by
  induction rows generalizing indent with
  | nil => exact .nothing indent
  | cons row rest ih =>
    obtain ⟨some,others⟩ := List.forall_mem_cons.mp filled
    obtain ⟨here,later⟩ := List.forall_mem_cons.mp solid
    rw [shownRows_cons] at full within
    obtain ⟨front,tail⟩ := List.isChain_cons.mp full
    obtain ⟨short,inside⟩ := List.forall_mem_cons.mp within
    rw [words_lineText indent here] at short
    refine .line some short ?_ (ih others later tail inside)
    intro word found
    cases rest with
    | nil => cases found
    | cons other rest =>
      apply front (lineText next other) rfl
      rw [words_lineText next (later other (by simp))]
      rwa [List.flatten_cons,List.head?_append_of_ne_nil _ (others other (by simp))] at found

theorem greedy_filled {indent : Nat} {rows : List (List Text)} (greedy : Greedy width next indent rows) :
    ∀ row ∈ rows, row ≠ [] := by
  induction greedy with
  | nothing => simp
  | line filled _ _ _ ih => exact List.forall_mem_cons.mpr ⟨filled,ih⟩

-- Rows filled to a narrow width are those of a wider one, if their lines are full for that as well.
theorem greedy_widened {narrow indent : Nat} (less : narrow ≤ width) {rows : List (List Text)}
    (greedy : Greedy narrow next indent rows) (solid : ∀ row ∈ rows, ∀ word ∈ row, Solid word)
    (full : Full width (shownRows indent next rows)) : Greedy width next indent rows := by
  have within := (greedy_lines greedy solid).2
  exact greedy_of_lines (greedy_filled greedy) solid full fun line listed long => (within line listed long).trans less

theorem fillText_lines {words : List Text} (solid : ∀ word ∈ words, Solid word) :
    Full width (Text.splitOn '\n' (fillText width first next words)) ∧
      Within width (Text.splitOn '\n' (fillText width first next words)) := by
  by_cases none : words = []
  · subst words
    exact ⟨.singleton _,by simp [Within,fillText,fill,linesText,Text.splitOn,pieces]⟩
  · rw [splitOn_fillText solid none]
    exact greedy_lines (fill_greedy first words) fun row => fill_solid solid

-- A text laid out in lines: each has an indent and words of the text, as many as fit and none left over.
structure LaidOut (width first next : Nat) (t out : Text) : Prop where
  empty : out = [] ↔ t.words = []
  rows : t.words ≠ [] → ∃ rows, out.splitOn '\n' = shownRows first next rows ∧ (∀ row ∈ rows, row ≠ []) ∧
    rows.flatten = t.words
  within : Within width (out.splitOn '\n')
  full : Full width (out.splitOn '\n')

theorem fillText_nil_iff {words : List Text} (solid : ∀ word ∈ words, Solid word) :
    fillText width first next words = [] ↔ words = [] := by
  constructor
  · intro none
    rw [← @words_fillText width next first words solid,none]
    rfl
  · rintro rfl
    rfl

theorem fillText_laidOut (t : Text) : LaidOut width first next t (fillText width first next t.words) := by
  have solid : ∀ word ∈ t.words, Solid word := fun word => solid_of_mem
  refine ⟨fillText_nil_iff solid,?_,(fillText_lines solid).2,(fillText_lines solid).1⟩
  intro some
  exact ⟨_,splitOn_fillText solid some,fill_filled,fill_flatten t.words⟩

theorem laidOut_iff_fillText (width first next : Nat) (t out : Text) :
    LaidOut width first next t out ↔ out = fillText width first next t.words := by
  constructor
  · intro laid
    by_cases none : t.words = []
    · rw [laid.empty.mpr none,none]
      rfl
    · obtain ⟨rows,shown,filled,whole⟩ := laid.rows none
      have solid : ∀ row ∈ rows, ∀ word ∈ row, Solid word := by
        intro row listed word inside
        apply @solid_of_mem t
        rw [← whole]
        exact List.mem_flatten.mpr ⟨row,listed,inside⟩
      have greedy := greedy_of_lines filled solid (shown ▸ laid.full) (shown ▸ laid.within)
      rw [fillText,← greedy_iff.mp ⟨greedy,whole⟩,linesText_shown,← shown]
      exact (join_splitOn '\n' out).symm
  · rintro rfl
    exact fillText_laidOut t

-- The long word stands alone and goes over the width, and the two after it fit behind the indent.
example : fillText 6 0 2 (Text.words "a  bb\nincomplete c d") = "a bb\n  incomplete\n  c d" := by decide

end Lines
end ScriptDoc.GreedyFill
