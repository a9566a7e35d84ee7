import ScriptDoc.Proofs.TextLines
import ScriptDoc.Wrap

-- The words of a text, whatever stands between them.
namespace ScriptDoc.TextWords
open TextLines

theorem space_blank : isBlank ' ' = true := by decide
theorem feed_blank : isBlank '\n' = true := by decide

def Solid (word : Text) : Prop := word ≠ [] ∧ ∀ c ∈ word, isBlank c = false

-- Everything about words follows from this: a blank divides a text.
theorem words_append_blank {c : Char} (blank : isBlank c = true) (before after : Text) :
    Text.words (before ++ c :: after) = before.words ++ after.words := by
  rw [Text.words,pieces_append_sep blank,List.filter_append]
  rfl

theorem words_cons_blank {c : Char} (blank : isBlank c = true) (t : Text) : Text.words (c :: t) = t.words :=
  words_append_blank blank [] t

theorem words_solid {word : Text} (solid : Solid word) : word.words = [word] := by
  rw [Text.words,pieces_of_none solid.2,List.filter_cons_of_pos (by simpa using solid.1)]
  rfl

theorem solid_of_mem {t word : Text} (member : word ∈ t.words) : Solid word := by
  obtain ⟨piece,filled⟩ := List.mem_filter.mp member
  exact ⟨of_decide_eq_true filled,sep_of_mem_pieces piece⟩

theorem words_spaces (n : Nat) (t : Text) : Text.words (Text.spaces n ++ t) = t.words := by
  induction n with
  | zero => rfl
  | succ n ih => exact (words_cons_blank space_blank (Text.spaces n ++ t)).trans ih

theorem words_join {sep : Char} (blank : isBlank sep = true) (ts : List Text) :
    Text.words (Text.join [sep] ts) = ts.flatMap Text.words := by
  induction ts with
  | nil => rfl
  | cons t ts ih =>
    by_cases last : ts = []
    · subst ts
      exact (List.append_nil t.words).symm
    · rw [join_cons t last,List.append_assoc,List.singleton_append,words_append_blank blank,ih,List.flatMap_cons]

theorem words_splitOn {sep : Char} (blank : isBlank sep = true) (t : Text) :
    (t.splitOn sep).flatMap Text.words = t.words := by
  rw [← words_join blank,join_splitOn]

theorem words_row {row : List Text} (solid : ∀ word ∈ row, Solid word) : Text.words (Text.join " " row) = row :=
  (words_join space_blank row).trans (flatMap_alone fun word listed => words_solid (solid word listed))

-- A row begins where its first word does.
theorem row_head {row : List Text} (some : row ≠ []) (solid : ∀ word ∈ row, Solid word) :
    ∃ c rest, Text.join " " row = c :: rest ∧ isBlank c = false := by
  cases row with
  | nil => exact absurd rfl some
  | cons word more =>
    obtain ⟨filled,clean⟩ := solid word (by simp)
    obtain ⟨c,rest,shape⟩ := List.exists_cons_of_ne_nil filled
    have front : isBlank c = false := clean c (by simp [shape])
    by_cases last : more = []
    · subst more
      exact ⟨c,rest,shape,front⟩
    · rw [join_cons word last,shape]
      exact ⟨c,_,rfl,front⟩

-- Rows that are read back one by one are read back together.
theorem flatMap_words {write : List Text → Text} {rows : List (List Text)}
    (each : ∀ row ∈ rows, Text.words (write row) = row) : (rows.map write).flatMap Text.words = rows.flatten := by
  rw [List.flatMap_map,List.flatMap_def,List.map_congr_left each,List.map_id']

theorem solid_words (lines : List Text) : ∀ word ∈ lines.flatMap Text.words, Solid word := by
  intro word listed
  obtain ⟨line,_,member⟩ := List.mem_flatMap.mp listed
  exact solid_of_mem member

theorem feed_not_mem {word : Text} (solid : Solid word) : '\n' ∉ word := by
  intro inside
  cases (solid.2 '\n' inside).symm.trans feed_blank

theorem feed_not_mem_row {row : List Text} (solid : ∀ word ∈ row, Solid word) : '\n' ∉ Text.join " " row := by
  intro inside
  rcases mem_join_cases inside with space | ⟨word,listed,within⟩
  · revert space
    decide
  · exact feed_not_mem (solid word listed) within

section Filling
variable {width next : Nat}

-- Words move from line to line, and none is lost between two.
theorem fillFrom_flatten (used : Nat) (line words : List Text) :
    (fillFrom width next used line words).flatten = line ++ words := by
  induction words generalizing used line with
  | nil => simp [fillFrom]
  | cons word words ih =>
    rw [fillFrom]
    split
    · rw [List.flatten_cons,ih,List.singleton_append]
    · rw [ih,List.append_assoc,List.singleton_append]

theorem fillFrom_filled {used : Nat} {line words : List Text} (filled : line ≠ []) :
    ∀ row ∈ fillFrom width next used line words, row ≠ [] := by
  induction words generalizing used line with
  | nil =>
    intro row member
    rw [fillFrom,List.mem_singleton] at member
    rwa [member]
  | cons word words ih =>
    rw [fillFrom]
    split
    · exact List.forall_mem_cons.mpr ⟨filled,ih (by simp)⟩
    · exact ih (by simp)

variable {first : Nat}

theorem fill_flatten (words : List Text) : (fill width first next words).flatten = words := by
  cases words with
  | nil => rfl
  | cons word words => exact fillFrom_flatten _ [word] words

theorem fill_filled {words : List Text} : ∀ row ∈ fill width first next words, row ≠ [] := by
  cases words with
  | nil => simp [fill]
  | cons word words => exact fillFrom_filled (by simp)

theorem fill_ne_nil {words : List Text} (some : words ≠ []) : fill width first next words ≠ [] := by
  intro none
  rw [← @fill_flatten width next first words,none] at some
  exact some rfl

theorem fill_solid {words row : List Text} (solid : ∀ word ∈ words, Solid word)
    (member : row ∈ fill width first next words) : ∀ word ∈ row, Solid word := by
  intro word listed
  apply solid
  rw [← @fill_flatten width next first words]
  exact List.mem_flatten.mpr ⟨row,member,listed⟩

theorem words_lineText (indent : Nat) {row : List Text} (solid : ∀ word ∈ row, Solid word) :
    Text.words (lineText indent row) = row := by
  rw [lineText,words_spaces,words_row solid]

theorem words_linesText {rows : List (List Text)} (solid : ∀ row ∈ rows, ∀ word ∈ row, Solid word) :
    Text.words (linesText first next rows) = rows.flatten := by
  cases rows with
  | nil => rfl
  | cons row rows =>
    obtain ⟨here,later⟩ := List.forall_mem_cons.mp solid
    have others := flatMap_words fun other listed => words_lineText next (later other listed)
    apply (words_join feed_blank _).trans
    rw [List.flatMap_cons,words_lineText first here,others,List.flatten_cons]

theorem words_fillText {words : List Text} (solid : ∀ word ∈ words, Solid word) :
    Text.words (fillText width first next words) = words := by
  have rows := fun row => @fill_solid width next first words row solid
  rw [fillText,words_linesText rows,fill_flatten]

end Filling
end ScriptDoc.TextWords
