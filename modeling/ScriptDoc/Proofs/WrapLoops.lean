import ScriptDoc.Proofs.GreedyFill
import ScriptDoc.Proofs.WrappedText

-- Wrapping done in place: lines are joined as they come, and words are put on a line that is kept as
-- text. `paragraphs` and `fill` say the same without what is still open.
namespace ScriptDoc.WrapLoops
open TextLines TextWords GreedyFill WrappedText

-- The closed lines, the text of the open one, and whether a word stands on it.
structure Filling where
  lines : List Text
  current : Text
  hasWord : Bool

namespace Filling

-- A line that holds a word and has no room for another is closed, and the next begins with its indent.
def makeRoom (width : Nat) (next : Text) (s : Filling) (word : Text) : Filling :=
  if s.hasWord ∧ s.current.length + 1 + word.length > width then ⟨s.lines ++ [s.current], next, false⟩ else s

def push (s : Filling) (word : Text) : Filling :=
  ⟨s.lines, (if s.hasWord then s.current ++ " " else s.current) ++ word, true⟩

def add (width : Nat) (next : Text) (s : Filling) (word : Text) : Filling := (s.makeRoom width next word).push word

def close (s : Filling) : List Text := if s.hasWord then s.lines ++ [s.current] else s.lines

def run (width : Nat) (first next t : Text) : Text :=
  Text.join "\n" (t.words.foldl (add width next) ⟨[], first, false⟩).close

section Steps
variable {width : Nat} {next current word : Text} (lines : List Text)

theorem add_first : add width next ⟨lines, current, false⟩ word = ⟨lines, current ++ word, true⟩ := rfl

theorem add_full (full : current.length + 1 + word.length > width) :
    add width next ⟨lines, current, true⟩ word = ⟨lines ++ [current], next ++ word, true⟩ := by
  rw [add,makeRoom,if_pos ⟨rfl,full⟩]
  rfl

theorem add_room (room : ¬ current.length + 1 + word.length > width) :
    add width next ⟨lines, current, true⟩ word = ⟨lines, current ++ " " ++ word, true⟩ := by
  rw [add,makeRoom,if_neg fun both => room both.2]
  rfl

end Steps

theorem lineText_snoc (indent : Nat) {line : List Text} (filled : line ≠ []) (word : Text) :
    lineText indent (line ++ [word]) = lineText indent line ++ " " ++ word := by
  rw [lineText,join_append filled (by simp),lineText]
  simp only [List.append_assoc]
  rfl

-- The open line is the text of the row that is being filled. Both take the same words, because both
-- measure the same line.
theorem close_foldl {width next indent : Nat} {line : List Text} (filled : line ≠ []) (lines words : List Text) :
    (words.foldl (add width (Text.spaces next)) ⟨lines, lineText indent line, true⟩).close =
      lines ++ shownRows indent next (fillFrom width next (lineText indent line).length line words) := by
  induction words generalizing indent line lines with
  | nil => rfl
  | cons word words ih =>
    rw [List.foldl_cons,fillFrom]
    split
    · rename_i full
      have opened : Text.spaces next ++ word = lineText next [word] := rfl
      rw [add_full lines full,opened,ih (by simp),shownRows_cons,List.append_assoc,List.singleton_append,
        length_lineText next]
      rfl
    · rename_i room
      have longer := @length_lineText_append indent line filled [word] (by simp)
      rw [add_room lines room,← lineText_snoc indent filled,ih (by simp),longer]
      rfl

theorem run_eq_fillText (width first next : Nat) (t : Text) :
    run width (Text.spaces first) (Text.spaces next) t = fillText width first next t.words := by
  rw [run,fillText,linesText_shown]
  cases t.words with
  | nil => rfl
  | cons word words =>
    have opened : Text.spaces first ++ word = lineText first [word] := rfl
    rw [List.foldl_cons,add_first,opened,close_foldl (by simp),List.nil_append,length_lineText first]
    rfl

end Filling

-- The paragraphs so far as text, and whether the line before was prose.
structure Joining where
  texts : List Text
  previous : Bool

namespace Joining

def isProse (line : Text) : Bool := line ≠ [] ∧ ¬ isIndented line

def add (s : Joining) (item : Text × Nat) : Joining :=
  match s.texts.getLast? with
  | some last =>
    if 0 < item.2 ∧ isProse item.1 ∧ s.previous then
      ⟨s.texts.dropLast ++ [last ++ " " ++ item.1], isProse item.1⟩
    else ⟨s.texts ++ [item.1], isProse item.1⟩
  | none => ⟨s.texts ++ [item.1], isProse item.1⟩

def run (lines : List Text) : List Text := (lines.zipIdx.foldl add ⟨[], true⟩).texts

-- A paragraph as the loop keeps it: the line feeds within prose have become spaces.
def spelled : Paragraph → Text
  | .blank => []
  | .verbatim line => line
  | .prose lines => Text.join " " lines

-- The paragraph that a line opens.
def opened (line : Text) : Paragraph :=
  if line = [] then .blank else if isIndented line then .verbatim line else .prose [line]

theorem isProse_iff {line : Text} : isProse line = true ↔ line ≠ [] ∧ ¬ Indented line := by
  rw [isProse,decide_eq_true_iff,isIndented_iff]

theorem opened_alone (line : Text) : source (opened line) = [line] ∧ spelled (opened line) = line ∧
    Fits (opened line) ∧ (IsProse (opened line) ↔ isProse line = true) := by
  rw [isProse_iff,opened]
  split
  · rename_i empty
    subst line
    exact ⟨rfl,rfl,trivial,by simp [IsProse]⟩
  · rename_i filled
    split
    · rename_i indented
      have indented := (isIndented_iff line).mp indented
      exact ⟨rfl,rfl,indented,by simp [IsProse,indented]⟩
    · rename_i flush
      rw [isIndented_iff] at flush
      exact ⟨rfl,rfl,⟨by simp,by simp [filled,flush]⟩,by simp [IsProse,filled,flush]⟩

section Cuts
variable {lines : List Text} {ps : List Paragraph}

theorem cut_snoc (cut : Cut lines ps) {p : Paragraph} (fits : Fits p)
    (apart : ∀ last ∈ ps.getLast?, ¬ (IsProse last ∧ IsProse p)) : Cut (lines ++ source p) (ps ++ [p]) where
  whole := by rw [List.flatMap_append,cut.whole,List.flatMap_singleton]
  fits q among := by
    rcases List.mem_append.mp among with earlier | last
    · exact cut.fits q earlier
    · rwa [List.mem_singleton.mp last]
  apart := by
    refine List.isChain_append.mpr ⟨cut.apart,.singleton p,?_⟩
    intro last found next front
    cases front
    exact apart last found

theorem cut_longer {run : List Text} (cut : Cut lines (ps ++ [.prose run])) {line : Text}
    (filled : line ≠ []) (flush : ¬ Indented line) : Cut (lines ++ [line]) (ps ++ [.prose (run ++ [line])]) where
  whole := by
    rw [← cut.whole]
    simp [source]
  fits q among := by
    rcases List.mem_append.mp among with earlier | last
    · exact cut.fits q (List.mem_append_left _ earlier)
    · have prose := (cut.fits (.prose run) (by simp)).2
      rw [List.mem_singleton.mp last]
      refine ⟨by simp,?_⟩
      intro other inside
      rcases List.mem_append.mp inside with before | new
      · exact prose other before
      · rw [List.mem_singleton.mp new]
        exact ⟨filled,flush⟩
  apart := by
    obtain ⟨earlier,_,between⟩ := List.isChain_append.mp cut.apart
    refine List.isChain_append.mpr ⟨earlier,.singleton _,?_⟩
    intro last found next front
    cases front
    exact between last found (.prose run) rfl

theorem source_filled {p : Paragraph} (fits : Fits p) : source p ≠ [] := by
  cases p with
  | prose run => exact fits.1
  | _ => simp [source]

end Cuts

-- What the loop holds after some lines is their paragraphs.
structure Joined (lines : List Text) (s : Joining) (ps : List Paragraph) : Prop where
  cut : Cut lines ps
  kept : s.texts = ps.map spelled
  previous : ∀ last ∈ ps.getLast?, s.previous = true ↔ IsProse last

theorem joined_opens {lines : List Text} {s : Joining} {ps : List Paragraph} (joined : Joined lines s ps) (line : Text)
    (apart : ∀ last ∈ ps.getLast?, ¬ (IsProse last ∧ isProse line = true)) :
    Joined (lines ++ [line]) ⟨s.texts ++ [line], isProse line⟩ (ps ++ [opened line]) := by
  obtain ⟨own,text,fits,prose⟩ := opened_alone line
  refine ⟨?_,?_,?_⟩
  · rw [← prose] at apart
    rw [← own]
    exact cut_snoc joined.cut fits apart
  · rw [joined.kept,List.map_append,List.map_singleton,text]
  · intro last found
    rw [List.getLast?_concat] at found
    cases found
    exact prose.symm

theorem joined_add {lines : List Text} {s : Joining} {ps : List Paragraph} (joined : Joined lines s ps) (line : Text) :
    ∃ more, Joined (lines ++ [line]) (s.add (line, lines.length)) more := by
  rcases List.eq_nil_or_concat ps with none | ⟨earlier,p,split⟩
  · subst none
    exact ⟨_,by simpa [add,joined.kept] using joined_opens joined line (by simp)⟩
  · rw [List.concat_eq_append] at split
    subst split
    have last : s.texts.getLast? = some (spelled p) := by
      rw [joined.kept,List.map_append,List.map_singleton,List.getLast?_concat]
    have before : s.texts.dropLast = earlier.map spelled := by
      rw [joined.kept,List.map_append,List.map_singleton,List.dropLast_concat]
    have previous := joined.previous p List.getLast?_concat
    have some : 0 < lines.length := by
      have filled := source_filled (joined.cut.fits p (by simp))
      apply List.length_pos_of_ne_nil
      rw [← joined.cut.whole]
      simp [filled]
    by_cases prose : isProse line = true ∧ s.previous = true
    · obtain ⟨filled,flush⟩ := isProse_iff.mp prose.1
      cases p with
      | prose run =>
        refine ⟨_,cut_longer joined.cut filled flush,?_,?_⟩
        · simp only [add,last,if_pos (And.intro some prose),before,List.map_append,List.map_singleton,spelled]
          rw [join_append (joined.cut.fits (.prose run) (by simp)).1 (by simp)]
          rfl
        · intro other found
          rw [List.getLast?_concat] at found
          cases found
          simp [add,last,some,prose,IsProse]
      | _ => exact (previous.mp prose.2).elim
    · have opens : s.add (line, lines.length) = ⟨s.texts ++ [line], isProse line⟩ := by
        simp only [add,last]
        exact if_neg fun all => prose all.2
      rw [opens]
      refine ⟨_,joined_opens joined line ?_⟩
      intro other found both
      rw [List.getLast?_concat] at found
      cases found
      exact prose ⟨both.2,previous.mpr both.1⟩

theorem joined_foldl {before : List Text} {s : Joining} {ps : List Paragraph} (joined : Joined before s ps)
    (lines : List Text) :
    ∃ all, Joined (before ++ lines) ((lines.zipIdx before.length).foldl add s) all := by
  induction lines generalizing before s ps with
  | nil => exact ⟨ps,by simpa using joined⟩
  | cons line lines ih =>
    obtain ⟨more,next⟩ := joined_add joined line
    obtain ⟨all,done⟩ := ih next
    refine ⟨all,?_⟩
    rw [List.length_append,List.append_assoc] at done
    exact done

theorem run_eq_paragraphs (lines : List Text) : run lines = (paragraphs lines).map spelled := by
  have start : Joined [] ⟨[], true⟩ [] := ⟨⟨rfl,by simp,.nil⟩,rfl,by simp⟩
  obtain ⟨all,done⟩ := joined_foldl start lines
  rw [← show all = paragraphs lines from cut_iff.mp done.cut]
  exact done.kept

end Joining

section Wrapping
open Joining

def layoutAt (indent width : Nat) (indentFirst : Bool) (item : Text × Nat) : Text :=
  if item.1 = [] then []
  else if isIndented item.1 then Text.spaces indent ++ item.1
  else if item.2 = 0 ∧ ¬ indentFirst then Filling.run (width - indent) [] (Text.spaces indent) item.1
  else Filling.run width (Text.spaces indent) (Text.spaces indent) item.1

def run (t : Text) (indent width : Nat) (indentFirst : Bool) : Text :=
  Text.join "\n" ((Joining.run (t.splitOn '\n')).zipIdx.map (layoutAt indent width indentFirst))

-- Prose begins with its first line.
theorem spelled_prose {run : List Text} (fits : Fits (.prose run)) :
    spelled (.prose run) ≠ [] ∧ ¬ Indented (spelled (.prose run)) := by
  obtain ⟨some,each⟩ := fits
  cases run with
  | nil => exact absurd rfl some
  | cons line more =>
    obtain ⟨filled,flush⟩ := each line (by simp)
    by_cases last : more = []
    · subst more
      exact ⟨filled,flush⟩
    · rw [spelled,join_cons line last,Indented,List.append_assoc,List.head?_append_of_ne_nil _ filled]
      exact ⟨by simp [filled],flush⟩

theorem layoutAt_spelled {indent width : Nat} {indentFirst : Bool} {p : Paragraph} (fits : Fits p) (i : Nat) :
    layoutAt indent width indentFirst (spelled p, i) = p.layout indent width (i == 0 && !indentFirst) := by
  cases p with
  | blank => rfl
  | verbatim line =>
    show layoutAt indent width indentFirst (line, i) = Text.spaces indent ++ line
    rw [layoutAt,if_neg (indented_filled fits),if_pos ((isIndented_iff line).mpr fits)]
  | prose lines =>
    obtain ⟨filled,flush⟩ := spelled_prose fits
    have words : Text.words (spelled (.prose lines)) = lines.flatMap Text.words := words_join space_blank lines
    rw [layoutAt,if_neg filled,if_neg fun indented => flush ((isIndented_iff _).mp indented),Paragraph.layout,← words]
    have front := Filling.run_eq_fillText (width - indent) 0 indent (spelled (.prose lines))
    have later := Filling.run_eq_fillText width indent indent (spelled (.prose lines))
    rw [← front,← later]
    by_cases hangs : i = 0 ∧ ¬ indentFirst
    · simp [hangs,Text.spaces]
    · rw [if_neg hangs,if_neg (by simpa using hangs)]

theorem layoutAll_zipIdx (indent width : Nat) (hanging : Bool) (ps : List Paragraph) :
    layoutAll indent width hanging ps = ps.zipIdx.map fun item => item.1.layout indent width (item.2 == 0 && hanging) := by
  cases ps with
  | nil => rfl
  | cons p ps =>
    have even : ∀ item ∈ ps.zipIdx 1, item.1.layout indent width (item.2 == 0 && hanging) =
        ((·.layout indent width false) ∘ Prod.fst) item := by
      intro item listed
      have later := List.le_snd_of_mem_zipIdx listed
      rw [beq_false_of_ne (by omega),Bool.false_and]
      rfl
    rw [layoutAll,List.zipIdx_cons,List.map_cons,List.map_congr_left even,← List.map_map,List.zipIdx_map_fst]
    rfl

theorem run_eq_wrap (t : Text) (indent width : Nat) (indentFirst : Bool) :
    run t indent width indentFirst = wrap t indent width indentFirst := by
  have cut := cut_paragraphs (t.splitOn '\n')
  rw [run,wrap,run_eq_paragraphs,layoutAll_zipIdx,List.zipIdx_map,List.map_map]
  congr 1
  apply List.map_congr_left
  intro item listed
  exact layoutAt_spelled (cut.fits item.1 (List.fst_mem_of_mem_zipIdx listed)) item.2

end Wrapping
end ScriptDoc.WrapLoops
