import ScriptDoc.Proofs.GreedyFill
import ScriptDoc.Proofs.WrappedText

-- How the lines of a text are filled when its first one begins somewhere else.
namespace ScriptDoc.HangingText
open TextLines TextWords GreedyFill WrappedText

section Front
variable {indent width : Nat}

theorem paragraphs_prose {line : Text} (filled : line ≠ []) (flush : ¬ Indented line) (rest : List Text) :
    ∃ run ps, paragraphs (line :: rest) = .prose run :: ps := by
  rw [paragraphs,if_neg filled,if_neg fun indented => flush ((isIndented_iff line).mp indented)]
  split <;> exact ⟨_,_,rfl⟩

theorem splitOn_front (t : Text) : ∃ rest, t.splitOn '\n' = Text.firstLine t :: rest := by
  obtain ⟨line,rest,found⟩ := splitOn_cases '\n' t
  exact ⟨rest,splitOn_first found ▸ found⟩

theorem wrap_front {t : Text} {p : Paragraph} {ps : List Paragraph} (found : paragraphs (t.splitOn '\n') = p :: ps) :
    wrap t indent width false
      = Text.join "\n" (p.layout indent width true :: ps.map (·.layout indent width false)) := by
  rw [wrap,found]
  rfl

end Front

section Filling
variable {indent width : Nat}

-- The indent is taken off the width of every line of hanging prose, though only the first stands without it.
-- Nothing is lost by that exactly when the lines break where they would break without hanging.
structure Hung (indent width : Nat) (run lines : List Text) : Prop where
  words : lines.flatMap Text.words = run.flatMap Text.words
  full : Full (width - indent) lines
  within : Within (width - indent) lines
  whole : Full width lines.tail ↔
    fill (width - indent) 0 indent (run.flatMap Text.words) = fill width indent indent (run.flatMap Text.words)

def Filled (width : Nat) : Paragraph → Text → Prop
  | .prose _, out => Full width (out.splitOn '\n') ∧ Within width (out.splitOn '\n')
  | _, _ => True

-- The first line is as long as it would be behind the indent.
theorem greedy_moved {rows : List (List Text)} (room : indent ≤ width) (greedy : Greedy (width - indent) indent 0 rows)
    (solid : ∀ row ∈ rows, ∀ word ∈ row, Solid word) (full : Full width (shownRows 0 indent rows).tail) :
    Greedy width indent indent rows := by
  cases greedy with
  | nothing => exact .nothing indent
  | @line _ row rest filled fits ends more =>
    have moved := length_lineText indent row
    have flush := length_lineText 0 row
    refine .line filled ?_ ?_ (greedy_widened (Nat.sub_le width indent) more (List.forall_mem_cons.mp solid).2 ?_)
    · intro long
      have short := fits long
      omega
    · intro word coming
      have beyond := ends word coming
      omega
    · rwa [shownRows_cons] at full

theorem whole_iff {words : List Text} (room : indent ≤ width) (solid : ∀ word ∈ words, Solid word) :
    Full width (shownRows 0 indent (fill (width - indent) 0 indent words)).tail ↔
      fill (width - indent) 0 indent words = fill width indent indent words := by
  constructor
  · intro full
    have moved := greedy_moved room (fill_greedy 0 words) (fun row => fill_solid solid) full
    exact greedy_iff.mp ⟨moved,fill_flatten words⟩
  · intro same
    have full := (greedy_lines (@fill_greedy width indent indent words) fun row => fill_solid solid).1
    rw [same]
    cases found : fill width indent indent words with
    | nil => exact .nil
    | cons row rest =>
      rw [found,shownRows_cons] at full
      rw [shownRows_cons]
      exact full.tail

theorem hung_fillText (room : indent ≤ width) (run : List Text) :
    Hung indent width run
      (Text.splitOn '\n' (fillText (width - indent) 0 indent (run.flatMap Text.words))) where
  words := (words_splitOn feed_blank _).trans (words_fillText (solid_words run))
  full := (fillText_lines (solid_words run)).1
  within := (fillText_lines (solid_words run)).2
  whole := by
    by_cases none : run.flatMap Text.words = []
    · rw [none]
      exact iff_of_true .nil rfl
    · rw [splitOn_fillText (solid_words run) none]
      exact whole_iff room (solid_words run)

theorem filled_layout (p : Paragraph) : Filled width p (p.layout indent width false) := by
  cases p with
  | prose run => exact fillText_lines (solid_words run)
  | _ => trivial

end Filling

theorem hanging_lines {t : Text} {indent width : Nat}
    (prose : Text.firstLine t ≠ [] ∧ ¬ Indented (Text.firstLine t)) (room : indent < width) :
    ∃ run ps out outs, Cut (t.splitOn '\n') (.prose run :: ps) ∧
      wrap t indent width false = Text.join "\n" (out :: outs) ∧
      Hung indent width run (out.splitOn '\n') ∧ List.Forall₂ (Filled width) ps outs := by
  obtain ⟨rest,front⟩ := splitOn_front t
  obtain ⟨run,ps,found⟩ := paragraphs_prose prose.1 prose.2 rest
  rw [← front] at found
  refine ⟨run,ps,_,_,cut_iff.mpr found.symm,wrap_front found,hung_fillText room.le run,?_⟩
  rw [List.forall₂_map_right_iff,List.forall₂_same]
  exact fun p _ => filled_layout p

-- The second paragraph breaks its lines as the first one should, and the first keeps its words all the same.
theorem hanging_lines_divided :
    let t : Text := "aaa bbb ccc ddd\n\naaa bbb ccc ddd"
    (Text.firstLine t ≠ [] ∧ ¬ Indented (Text.firstLine t)) ∧ 4 < 12 ∧
      wrap t 4 12 false = "aaa bbb\n    ccc\n    ddd\n\n    aaa bbb\n    ccc ddd" ∧
      ∃ run ps out outs, Cut (t.splitOn '\n') (.prose run :: ps) ∧
        wrap t 4 12 false = Text.join "\n" (out :: outs) ∧
        Hung 4 12 run (out.splitOn '\n') ∧ List.Forall₂ (Filled 12) ps outs := by
  intro t
  have prose : Text.firstLine t ≠ [] ∧ ¬ Indented (Text.firstLine t) := by decide
  exact ⟨prose,by decide,by decide,hanging_lines prose (by decide)⟩

-- The third line stands where the second had room for it.
theorem continuation_stops_short :
    let t : Text := "aaa bbb ccc ddd"
    (Text.firstLine t ≠ [] ∧ ¬ Indented (Text.firstLine t)) ∧ 4 < 12 ∧ Cut (t.splitOn '\n') [.prose [t]] ∧
      Text.splitOn '\n' (wrap t 4 12 false) = ["aaa bbb", "    ccc", "    ddd"] ∧
      ¬ Full 12 ["    ccc", "    ddd"] := by
  intro t
  refine ⟨by decide,by decide,cut_iff.mpr (by decide),by decide,?_⟩
  intro full
  have room := List.isChain_cons_cons.mp full |>.1 "ddd" (by decide)
  exact absurd room (by decide)

end ScriptDoc.HangingText
