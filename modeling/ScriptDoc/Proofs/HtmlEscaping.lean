import Mathlib.Data.List.Forall2
import ScriptDoc.Markup.Html
import ScriptDoc.Proofs.Substitution

-- That a text can be had back from what it is escaped to on the wiki page.
namespace ScriptDoc.HtmlEscaping
open Html TextLines Substitution

def entities : Codes := [('&', "&amp;"), ('<', "&lt;"), ('>', "&gt;"), ('"', "&#34;"), ('\'', "&#39;")]

-- All entities put back at once.
def restore (t : Text) : Text := substitute (reading entities) t

-- The same line by line, where lines that begin with an angle bracket are as they were.
def restoreLines (t : Text) : Text :=
  Text.join "\n" ((t.splitOn '\n').map fun line => if ("<" : Text).isPrefixOf line then line else restore line)

section Characters

theorem escapeChar_code (c : Char) : escapeChar c = code entities c := by
  simp only [entities,code_cons]
  rfl

theorem escapeChar_cases (c : Char) :
    (∃ e ∈ entities, e.1 = c ∧ escapeChar c = e.2) ∨ (∀ e ∈ entities, e.1 ≠ c) ∧ escapeChar c = [c] := by
  rw [escapeChar_code]
  exact code_cases c

-- An entity begins with its only ampersand, and has nothing else that is escaped.
theorem entity_shape : ∀ e ∈ entities,
    e.2 = '&' :: e.2.tail ∧ '\n' ∉ e.2 ∧ ∀ other ∈ entities, other.1 ∉ e.2.tail := by
  decide

theorem escapeChar_clean {c : Char} (other : c ≠ '\n') : '\n' ∉ escapeChar c := by
  rcases escapeChar_cases c with ⟨e,listed,_,shown⟩ | ⟨_,shown⟩
  · rw [shown]
    exact (entity_shape e listed).2.1
  · rw [shown]
    exact fun inside => other (List.mem_singleton.mp inside).symm

theorem escapeLine_clean {line : Text} (clean : '\n' ∉ line) : '\n' ∉ escapeLine line := by
  intro inside
  obtain ⟨c,member,made⟩ := List.mem_flatMap.mp inside
  apply escapeChar_clean _ made
  rintro rfl
  exact clean member

end Characters

section Lines

theorem escapeLine_code (line : Text) : escapeLine line = line.flatMap (code entities) := by
  rw [escapeLine,funext escapeChar_code]

theorem escapeLine_passes (line : Text) : escapeLine line = passes entities line := by
  rw [escapeLine_code,passes_eq (by decide)]

theorem restore_escapeLine (line : Text) : restore (escapeLine line) = line := by
  rw [escapeLine_code]
  apply reading_code ⟨by decide,by decide⟩
  intro c _ absent e listed begins
  rw [(entity_shape e listed).1] at begins
  exact absent ('&', "&amp;") (by decide) (Option.some.inj begins)

theorem escapeLine_plain {line : Text} {c : Char} (inside : c ∈ escapeLine line) :
    c = '&' ∨ ∀ e ∈ entities, e.1 ≠ c := by
  obtain ⟨d,_,made⟩ := List.mem_flatMap.mp inside
  rcases escapeChar_cases d with ⟨e,listed,_,shown⟩ | ⟨absent,shown⟩
  · obtain ⟨shape,_,body⟩ := entity_shape e listed
    rw [shown,shape] at made
    apply (List.mem_cons.mp made).imp_right
    rintro later other among rfl
    exact body other among later
  · rw [shown] at made
    rw [List.mem_singleton.mp made]
    exact .inr absent

-- An ampersand comes from a character that was escaped, and is the first of what stands for it.
theorem escapeChar_ampersand {c : Char} {before after : Text} (shape : escapeChar c = before ++ '&' :: after) :
    ∃ e ∈ entities, e.2 = '&' :: after := by
  rcases escapeChar_cases c with ⟨e,listed,_,shown⟩ | ⟨absent,shown⟩
  · obtain ⟨front,_,body⟩ := entity_shape e listed
    cases before with
    | nil => exact ⟨e,listed,shown ▸ shape⟩
    | cons first before =>
      have later : '&' ∈ e.2.tail := by rw [← shown,shape]; simp
      exact absurd later (body ('&', "&amp;") (by decide))
  · have same : c = '&' := by
      have inside : '&' ∈ escapeChar c := by rw [shape]; simp
      rw [shown] at inside
      exact (List.mem_singleton.mp inside).symm
    exact absurd same.symm (absent ('&', "&amp;") (by decide))

theorem escapeLine_ampersand {line before after : Text} (shape : escapeLine line = before ++ '&' :: after) :
    ∃ e ∈ entities, e.2 <+: '&' :: after := by
  induction line generalizing before with
  | nil => simp [escapeLine] at shape
  | cons c line ih =>
    have whole : escapeChar c ++ escapeLine line = before ++ '&' :: after := shape
    rcases List.append_eq_append_iff.mp whole with ⟨more,_,tail⟩ | ⟨more,front,back⟩
    · exact ih tail
    · cases more with
      | nil => exact @ih [] back.symm
      | cons first more =>
        obtain ⟨rfl,rest⟩ := List.cons.inj back
        obtain ⟨e,listed,same⟩ := escapeChar_ampersand front
        exact ⟨e,listed,by rw [same,rest]; simp⟩

theorem escapeLine_join (lines : List Text) : escapeLine (Text.join "\n" lines) = Text.join "\n" (lines.map escapeLine) := by
  induction lines with
  | nil => rfl
  | cons line lines ih =>
    by_cases last : lines = []
    · subst lines
      rfl
    · rw [join_cons line last,List.map_cons,join_cons _ (by simpa using last),← ih]
      simp only [escapeLine,List.flatMap_append]
      rfl

theorem escapeLine_nil_iff {line : Text} : escapeLine line = [] ↔ line = [] := by
  constructor
  · intro none
    rw [← restore_escapeLine line,none]
    rfl
  · rintro rfl
    rfl

end Lines

section Texts

theorem splitOn_escape (exempt : List Text) (t : Text) :
    Text.splitOn '\n' (escape exempt t) =
      (t.splitOn '\n').map fun line => if exempt.any (·.isPrefixOf line) then line else escapeLine line := by
  apply splitOn_join_clean (by simpa using splitOn_ne_nil '\n' t)
  intro shown member
  obtain ⟨line,among,rfl⟩ := List.mem_map.mp member
  have clean := sep_not_mem_splitOn among
  split
  · exact clean
  · exact escapeLine_clean clean

theorem escape_every (t : Text) : escape [] t = escapeLine t := by
  calc escape [] t
    _ = Text.join "\n" ((t.splitOn '\n').map escapeLine) := rfl
    _ = escapeLine (Text.join "\n" (t.splitOn '\n')) := (escapeLine_join _).symm
    _ = escapeLine t := congrArg escapeLine (join_splitOn '\n' t)

theorem closeLines_length {f : Text → Text} (filled : ∀ line, f line = [] ↔ line = []) (lines : List Text) :
    (closeLines '\r' (lines.map f)).length = (closeLines '\r' lines).length := by
  induction lines with
  | nil => rfl
  | cons line lines ih =>
    cases lines with
    | nil => by_cases none : line = [] <;> simp [closeLines,filled,none]
    | cons next lines => exact congrArg (· + 1) ih

-- A text where every line is escaped.
structure Escaped (t shown : Text) : Prop where
  passes : shown.splitOn '\n' = (t.splitOn '\n').map (passes entities)
  count : (shown.splitOn '\n').length = (t.splitOn '\n').length
  lines : shown.lines.length = t.lines.length
  plain : ∀ c ∈ shown, c ≠ '<' ∧ c ≠ '>' ∧ c ≠ '"' ∧ c ≠ '\''
  ampersands : ∀ before after, shown = before ++ '&' :: after → ∃ e ∈ entities, e.2 <+: '&' :: after
  restored : restore shown = t

theorem escape_escaped (t : Text) : Escaped t (escape [] t) := by
  have divided : Text.splitOn '\n' (escape [] t) = (t.splitOn '\n').map escapeLine := splitOn_escape [] t
  constructor
  case passes => rw [divided,funext escapeLine_passes]
  case count => rw [divided,List.length_map]
  case lines => rw [lines_eq_close,divided,closeLines_length fun _ => escapeLine_nil_iff,← lines_eq_close]
  case plain =>
    intro c inside
    rw [escape_every] at inside
    rcases escapeLine_plain inside with rfl | absent
    · decide
    · simp only [entities,List.forall_mem_cons] at absent
      exact ⟨absent.2.1.symm,absent.2.2.1.symm,absent.2.2.2.1.symm,absent.2.2.2.2.1.symm⟩
  case ampersands =>
    intro before after shape
    rw [escape_every] at shape
    exact escapeLine_ampersand shape
  case restored => rw [escape_every,restore_escapeLine]

-- One line that is kept if it begins with an angle bracket, and is escaped otherwise. What is escaped
-- never begins with one.
inductive Spared : Text → Text → Prop where
  | kept {line : Text} (opens : ("<" : Text) <+: line) : Spared line line
  | escaped {line shown : Text} (other : ¬ ("<" : Text) <+: line) (escaped : Escaped line shown)
      (apart : ¬ ("<" : Text) <+: shown) : Spared line shown

theorem escapeLine_spared {line : Text} (other : ¬ ("<" : Text) <+: line) : Spared line (escapeLine line) := by
  have escaped := escape_escaped line
  rw [escape_every] at escaped
  refine .escaped other escaped ?_
  intro begins
  exact (escaped.plain '<' (begins.subset (by simp))).1 rfl

theorem escape_spared (t : Text) : List.Forall₂ Spared (t.splitOn '\n') (Text.splitOn '\n' (escape ["<"] t)) := by
  rw [splitOn_escape,List.forall₂_map_right_iff,List.forall₂_same]
  intro line _
  rw [List.any_cons,List.any_nil,Bool.or_false]
  split
  · rename_i opens
    exact .kept (List.isPrefixOf_iff_prefix.mp opens)
  · rename_i other
    exact escapeLine_spared fun opens => other (List.isPrefixOf_iff_prefix.mpr opens)

theorem Spared.restored {line shown : Text} (spared : Spared line shown) :
    (if ("<" : Text).isPrefixOf shown then shown else restore shown) = line := by
  cases spared with
  | kept opens => exact if_pos (List.isPrefixOf_iff_prefix.mpr opens)
  | escaped _ escaped apart =>
    rw [if_neg fun opens => apart (List.isPrefixOf_iff_prefix.mp opens)]
    exact escaped.restored

theorem spared_restored {lines shown : List Text} (spared : List.Forall₂ Spared lines shown) :
    (shown.map fun line => if ("<" : Text).isPrefixOf line then line else restore line) = lines := by
  induction spared with
  | nil => rfl
  | cons first _ ih => rw [List.map_cons,first.restored,ih]

theorem restoreLines_escape (t : Text) : restoreLines (escape ["<"] t) = t := by
  rw [restoreLines,spared_restored (escape_spared t)]
  exact join_splitOn '\n' t

theorem escape_reversible :
    (∀ t, Escaped t (escape [] t)) ∧ Function.Injective (escape []) ∧
    (∀ t, List.Forall₂ Spared (t.splitOn '\n') (Text.splitOn '\n' (escape ["<"] t)) ∧ restoreLines (escape ["<"] t) = t) ∧
    Function.Injective (escape ["<"]) := by
  refine ⟨escape_escaped,?_,fun t => ⟨escape_spared t,restoreLines_escape t⟩,?_⟩
  · exact Function.LeftInverse.injective fun t => (escape_escaped t).restored
  · exact Function.LeftInverse.injective restoreLines_escape

-- Text that looks escaped already is told from what is escaped here.
example : escape ["<"] "<b>\n&lt;" = "<b>\n&amp;lt;" ∧ restoreLines "<b>\n&amp;lt;" = "<b>\n&lt;" := by decide

end Texts
end ScriptDoc.HtmlEscaping
