import Mathlib.Data.List.Chain
import ScriptDoc.Proofs.TextWords

-- What wrapping keeps of a text, and that it has nothing to do on a text that is wrapped.
namespace ScriptDoc.WrappedText
open TextLines TextWords

def Indented (line : Text) : Prop := line.head? = some ' ' ∨ line.head? = some '\t'

instance (line : Text) : Decidable (Indented line) := inferInstanceAs (Decidable (_ ∨ _))

-- The lines that a paragraph is made of.
def source : Paragraph → List Text
  | .blank => [[]]
  | .verbatim line => [line]
  | .prose lines => lines

def Fits : Paragraph → Prop
  | .blank => True
  | .verbatim line => Indented line
  | .prose lines => lines ≠ [] ∧ ∀ line ∈ lines, line ≠ [] ∧ ¬ Indented line

def IsProse : Paragraph → Prop
  | .prose _ => True
  | _ => False

-- Runs of prose are as long as they can be, because no two of them touch.
structure Cut (lines : List Text) (ps : List Paragraph) : Prop where
  whole : ps.flatMap source = lines
  fits : ∀ p ∈ ps, Fits p
  apart : ps.IsChain fun p next => ¬ (IsProse p ∧ IsProse next)

-- What becomes of each paragraph. Only prose in front can hang, and then its first line has no indent.
inductive Laid (indent width : Nat) : Bool → List Paragraph → List Text → Prop where
  | nothing (hanging : Bool) : Laid indent width hanging [] []
  | blank (hanging : Bool) {ps : List Paragraph} {outs : List Text} (rest : Laid indent width false ps outs) :
      Laid indent width hanging (.blank :: ps) ([] :: outs)
  | verbatim (hanging : Bool) (line : Text) {ps : List Paragraph} {outs : List Text}
      (rest : Laid indent width false ps outs) :
      Laid indent width hanging (.verbatim line :: ps) ((Text.spaces indent ++ line) :: outs)
  | filled (run : List Text) {ps : List Paragraph} {outs : List Text} (rest : Laid indent width false ps outs) :
      Laid indent width false (.prose run :: ps) (fillText width indent indent (run.flatMap Text.words) :: outs)
  | hanging (run : List Text) {ps : List Paragraph} {outs : List Text} (rest : Laid indent width false ps outs) :
      Laid indent width true (.prose run :: ps) (fillText (width - indent) 0 indent (run.flatMap Text.words) :: outs)

section Cutting

theorem isIndented_iff (line : Text) : isIndented line = true ↔ Indented line := by
  cases line with
  | nil => simp [isIndented,Indented]
  | cons c rest => simp [isIndented,Indented]

theorem paragraphs_blank (rest : List Text) : paragraphs ([] :: rest) = .blank :: paragraphs rest := by
  rw [paragraphs,if_pos rfl]

theorem indented_filled {line : Text} (indented : Indented line) : line ≠ [] := by
  intro empty
  rw [empty] at indented
  cases indented <;> contradiction

theorem paragraphs_verbatim {line : Text} (indented : Indented line) (rest : List Text) :
    paragraphs (line :: rest) = .verbatim line :: paragraphs rest := by
  rw [paragraphs,if_neg (indented_filled indented),if_pos ((isIndented_iff line).mpr indented)]

section Prose
variable {line : Text} (filled : line ≠ []) (flush : ¬ Indented line) {rest : List Text}
include filled flush

theorem paragraphs_joins {run : List Text} {more : List Paragraph} (found : paragraphs rest = .prose run :: more) :
    paragraphs (line :: rest) = .prose (line :: run) :: more := by
  rw [paragraphs,if_neg filled,if_neg fun indented => flush ((isIndented_iff line).mp indented),found]

theorem paragraphs_opens (other : ∀ p ∈ (paragraphs rest).head?, ¬ IsProse p) :
    paragraphs (line :: rest) = .prose [line] :: paragraphs rest := by
  rw [paragraphs,if_neg filled,if_neg fun indented => flush ((isIndented_iff line).mp indented)]
  split
  · rename_i found
    rw [found] at other
    exact absurd trivial (other _ rfl)
  · rfl

end Prose

theorem paragraphs_run {run rest : List Text} (some : run ≠ []) (each : ∀ line ∈ run, line ≠ [] ∧ ¬ Indented line)
    (other : ∀ p ∈ (paragraphs rest).head?, ¬ IsProse p) :
    paragraphs (run ++ rest) = .prose run :: paragraphs rest := by
  induction run with
  | nil => exact absurd rfl some
  | cons line run ih =>
    obtain ⟨⟨filled,flush⟩,later⟩ := List.forall_mem_cons.mp each
    by_cases last : run = []
    · subst run
      exact paragraphs_opens filled flush other
    · exact paragraphs_joins filled flush (ih last later)

theorem Cut.paragraphs_eq {lines : List Text} {ps : List Paragraph} (cut : Cut lines ps) : paragraphs lines = ps := by
  obtain ⟨rfl,fits,apart⟩ := cut
  induction ps with
  | nil => rfl
  | cons p ps ih =>
    obtain ⟨here,later⟩ := List.forall_mem_cons.mp fits
    have tail := ih later apart.of_cons
    rw [List.flatMap_cons]
    cases p with
    | blank => exact (paragraphs_blank _).trans (congrArg _ tail)
    | verbatim line => exact (paragraphs_verbatim here _).trans (congrArg _ tail)
    | prose run =>
      have other : ∀ q ∈ (paragraphs (ps.flatMap source)).head?, ¬ IsProse q := by
        rw [tail]
        intro q next prose
        cases ps with
        | nil => cases next
        | cons first ps =>
          cases next
          exact (List.isChain_cons_cons.mp apart).1 ⟨trivial,prose⟩
      rw [source,paragraphs_run here.1 here.2 other,tail]

theorem cut_cons {p : Paragraph} (fits : Fits p) {lines : List Text} {ps : List Paragraph} (cut : Cut lines ps)
    (apart : ∀ next ∈ ps.head?, ¬ (IsProse p ∧ IsProse next)) : Cut (source p ++ lines) (p :: ps) where
  whole := by rw [List.flatMap_cons,cut.whole]
  fits := List.forall_mem_cons.mpr ⟨fits,cut.fits⟩
  apart := List.isChain_cons.mpr ⟨apart,cut.apart⟩

theorem cut_join {line : Text} (filled : line ≠ []) (flush : ¬ Indented line) {lines run : List Text}
    {ps : List Paragraph} (cut : Cut lines (.prose run :: ps)) : Cut (line :: lines) (.prose (line :: run) :: ps) where
  whole := congrArg (line :: ·) cut.whole
  fits := by
    obtain ⟨here,later⟩ := List.forall_mem_cons.mp cut.fits
    exact List.forall_mem_cons.mpr ⟨⟨by simp,List.forall_mem_cons.mpr ⟨⟨filled,flush⟩,here.2⟩⟩,later⟩
  apart := List.isChain_cons.mpr (List.isChain_cons.mp cut.apart)

theorem cut_paragraphs (lines : List Text) : Cut lines (paragraphs lines) := by
  induction lines with
  | nil => exact ⟨rfl,by simp [paragraphs],.nil⟩
  | cons line lines ih =>
    by_cases empty : line = []
    · subst line
      rw [paragraphs_blank]
      exact @cut_cons .blank trivial lines _ ih fun _ _ both => both.1
    by_cases indented : Indented line
    · rw [paragraphs_verbatim indented]
      exact @cut_cons (.verbatim line) indented lines _ ih fun _ _ both => both.1
    by_cases goesOn : ∃ run more, paragraphs lines = .prose run :: more
    · obtain ⟨run,more,found⟩ := goesOn
      rw [paragraphs_joins empty indented found]
      exact cut_join empty indented (found ▸ ih)
    · have other : ∀ p ∈ (paragraphs lines).head?, ¬ IsProse p := by
        intro p front prose
        obtain ⟨more,found⟩ := List.head?_eq_some_iff.mp front
        cases p with
        | prose run => exact goesOn ⟨run,more,found⟩
        | _ => exact prose
      rw [paragraphs_opens empty indented other]
      have single : Fits (.prose [line]) := ⟨by simp,by simp [empty,indented]⟩
      exact cut_cons single ih fun next front both => other next front both.2

theorem source_clean {t : Text} {ps : List Paragraph} (cut : Cut (t.splitOn '\n') ps) :
    ∀ p ∈ ps, ∀ line ∈ source p, '\n' ∉ line := by
  intro p among line inside
  apply @sep_not_mem_splitOn '\n' t
  rw [← cut.whole]
  exact List.mem_flatMap.mpr ⟨p,among,inside⟩

theorem cut_iff {lines : List Text} {ps : List Paragraph} : Cut lines ps ↔ ps = paragraphs lines :=
  ⟨fun cut => cut.paragraphs_eq.symm,fun same => same ▸ cut_paragraphs lines⟩

end Cutting

section Keeping
variable {indent width : Nat}

theorem laid_false (ps : List Paragraph) : Laid indent width false ps (ps.map (·.layout indent width false)) := by
  induction ps with
  | nil => exact .nothing false
  | cons p ps ih =>
    cases p with
    | blank => exact .blank false ih
    | verbatim line => exact .verbatim false line ih
    | prose run => exact .filled run ih

theorem laid_layoutAll (hanging : Bool) (ps : List Paragraph) :
    Laid indent width hanging ps (layoutAll indent width hanging ps) := by
  cases ps with
  | nil => exact .nothing hanging
  | cons p ps =>
    have rest := @laid_false indent width ps
    cases p with
    | blank => exact .blank hanging rest
    | verbatim line => exact .verbatim hanging line rest
    | prose run =>
      cases hanging with
      | true => exact .hanging run rest
      | false => exact .filled run rest

-- Each paragraph keeps its own words, whatever is done with its lines.
def SameWords (p : Paragraph) (out : Text) : Prop := out.words = (source p).flatMap Text.words

theorem laid_words {hanging : Bool} {ps : List Paragraph} {outs : List Text} (laid : Laid indent width hanging ps outs) :
    List.Forall₂ SameWords ps outs := by
  induction laid with
  | nothing hanging => exact .nil
  | blank hanging rest ih => exact .cons rfl ih
  | verbatim hanging line rest ih => exact .cons ((words_spaces indent line).trans (List.append_nil _).symm) ih
  | filled run rest ih => exact .cons (words_fillText (solid_words run)) ih
  | hanging run rest ih => exact .cons (words_fillText (solid_words run)) ih

theorem words_together {ps : List Paragraph} {outs : List Text} (same : List.Forall₂ SameWords ps outs) :
    outs.flatMap Text.words = (ps.flatMap source).flatMap Text.words := by
  induction same with
  | nil => rfl
  | cons here later ih => rw [List.flatMap_cons,here,ih,List.flatMap_cons,List.flatMap_append]

end Keeping

theorem wrap_keeps_content (t : Text) (indent width : Nat) (indentFirst : Bool) :
    (∃! ps, Cut (t.splitOn '\n') ps) ∧
    (∀ ps, Cut (t.splitOn '\n') ps → ∃ outs, Laid indent width (!indentFirst) ps outs ∧
      List.Forall₂ SameWords ps outs ∧ wrap t indent width indentFirst = Text.join "\n" outs) ∧
    Text.words (wrap t indent width indentFirst) = t.words := by
  have cut := cut_paragraphs (t.splitOn '\n')
  have laid := @laid_layoutAll indent width (!indentFirst) (paragraphs (t.splitOn '\n'))
  refine ⟨⟨_,cut,fun ps other => cut_iff.mp other⟩,?_,?_⟩
  · intro ps other
    rw [cut_iff.mp other]
    exact ⟨_,laid,laid_words laid,rfl⟩
  · apply (words_join feed_blank _).trans
    rw [words_together (laid_words laid),cut.whole,words_splitOn feed_blank]

section Again
variable {width : Nat}

-- The lines of a run without an indent.
def refilled (width : Nat) (run : List Text) : List Text :=
  (fill width 0 0 (run.flatMap Text.words)).map (Text.join " ")

theorem layoutAll_false (ps : List Paragraph) :
    layoutAll 0 width false ps = ps.map (·.layout 0 width false) := by
  cases ps <;> rfl

theorem wrap_flush (t : Text) : wrap t 0 width true =
    Text.join "\n" ((paragraphs (t.splitOn '\n')).map (·.layout 0 width false)) :=
  congrArg (Text.join "\n") (layoutAll_false _)

-- A paragraph as it is found again in its own layout. Prose without a word has become an empty line.
def settled (width : Nat) : Paragraph → Paragraph
  | .prose run => if run.flatMap Text.words = [] then .blank else .prose (refilled width run)
  | other => other

theorem prose_settled {p : Paragraph} (prose : IsProse (settled width p)) : IsProse p := by
  cases p with
  | prose run => trivial
  | _ => exact prose

theorem words_refilled (run : List Text) : (refilled width run).flatMap Text.words = run.flatMap Text.words := by
  apply (flatMap_words _).trans (fill_flatten _)
  exact fun row member => words_row (fill_solid (solid_words run) member)

theorem layout_wordless {run : List Text} (none : run.flatMap Text.words = []) :
    (Paragraph.prose run).layout 0 width false = [] := by
  show fillText width 0 0 (run.flatMap Text.words) = []
  rw [none]
  rfl

theorem layout_settled (p : Paragraph) : (settled width p).layout 0 width false = p.layout 0 width false := by
  cases p with
  | prose run =>
    rw [settled]
    split
    · rename_i none
      exact (layout_wordless none).symm
    · show fillText width 0 0 ((refilled width run).flatMap Text.words) = fillText width 0 0 (run.flatMap Text.words)
      rw [words_refilled]
  | _ => rfl

theorem refilled_some {run : List Text} (some : run.flatMap Text.words ≠ []) : refilled width run ≠ [] := by
  intro none
  exact fill_ne_nil some (List.map_eq_nil_iff.mp none)

-- A refilled line opens with a word, so it is neither empty nor indented, and it stays one line.
theorem refilled_line {run : List Text} {line : Text} (member : line ∈ refilled width run) :
    (line ≠ [] ∧ ¬ Indented line) ∧ '\n' ∉ line := by
  obtain ⟨row,among,rfl⟩ := List.mem_map.mp member
  have solid := fill_solid (solid_words run) among
  constructor
  · obtain ⟨c,rest,shape,front⟩ := row_head (fill_filled row among) solid
    rw [shape]
    refine ⟨by simp,fun indented => ?_⟩
    rcases indented with space | tab
    · cases space
      cases front
    · cases tab
      cases front
  · exact feed_not_mem_row solid

theorem layout_prose {run : List Text} (some : run.flatMap Text.words ≠ []) :
    (Paragraph.prose run).layout 0 width false = Text.join "\n" (refilled width run) := by
  show linesText 0 0 (fill width 0 0 (run.flatMap Text.words)) = _
  unfold refilled
  cases found : fill width 0 0 (run.flatMap Text.words) with
  | nil => exact absurd found (fill_ne_nil some)
  | cons row rows => rfl

theorem source_settled {p : Paragraph} (clean : ∀ line ∈ source p, '\n' ∉ line) :
    Text.splitOn '\n' (p.layout 0 width false) = source (settled width p) := by
  cases p with
  | blank => rfl
  | verbatim line => exact splitOn_clean (clean line (by simp [source]))
  | prose run =>
    rw [settled]
    split
    · rename_i none
      rw [layout_wordless none]
      rfl
    · rename_i some
      rw [layout_prose some]
      exact splitOn_join_clean (refilled_some some) fun line member => (refilled_line member).2

theorem fits_settled {p : Paragraph} (fits : Fits p) : Fits (settled width p) := by
  cases p with
  | prose run =>
    rw [settled]
    split
    · trivial
    · rename_i some
      exact ⟨refilled_some some,fun line member => (refilled_line member).1⟩
  | _ => exact fits

-- Wrapping moves no line from one paragraph to another.
theorem cut_settled {t : Text} {ps : List Paragraph} (cut : Cut (t.splitOn '\n') ps) :
    Cut (Text.splitOn '\n' (wrap t 0 width true)) (ps.map (settled width)) where
  whole := by
    have some : ps.map (·.layout 0 width false) ≠ [] := by
      intro none
      rw [List.map_eq_nil_iff.mp none] at cut
      exact splitOn_ne_nil '\n' t cut.whole.symm
    have each : ∀ p ∈ ps, Text.splitOn '\n' (p.layout 0 width false) = source (settled width p) :=
      fun p among => source_settled (source_clean cut p among)
    rw [wrap_flush,← cut_iff.mp cut]
    apply Eq.trans _ (splitOn_join '\n' some).symm
    rw [List.flatMap_map,List.flatMap_map]
    exact (List.flatMap_congr each).symm
  fits p member := by
    obtain ⟨q,among,rfl⟩ := List.mem_map.mp member
    exact fits_settled (cut.fits q among)
  apart := by
    rw [List.isChain_map]
    exact cut.apart.imp fun p next alone both => alone ⟨prose_settled both.1,prose_settled both.2⟩

end Again

theorem wrap_again (t : Text) (width : Nat) : wrap (wrap t 0 width true) 0 width true = wrap t 0 width true := by
  have cut := cut_paragraphs (t.splitOn '\n')
  have found := cut_iff.mp (@cut_settled width t _ cut)
  rw [wrap_flush (wrap t 0 width true),← found,wrap_flush t,List.map_map]
  congr 1
  apply List.map_congr_left
  exact fun p _ => layout_settled p

end ScriptDoc.WrappedText
