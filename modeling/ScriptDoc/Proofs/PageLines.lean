import Mathlib.Data.List.Induction
import ScriptDoc.Page.Parts
import ScriptDoc.Proofs.TextLines

-- The lines of a page are the lines of its parts.
namespace ScriptDoc.PageLines
open TextLines

-- A text that begins its lines instead of ending them.
def fed (lines : List Text) : Text := lines.flatMap ('\n' :: ·)

theorem splitOn_fed {t : Text} (clean : '\n' ∉ t) (lines : List Text) :
    Text.splitOn '\n' (t ++ fed lines) = t :: lines.flatMap (Text.splitOn '\n') := by
  induction lines using List.reverseRecOn with
  | nil => rw [fed,List.flatMap_nil,List.append_nil,splitOn_clean clean,List.flatMap_nil]
  | append_singleton lines line ih =>
    rw [fed,List.flatMap_append,List.flatMap_singleton,← List.append_assoc,← fed,splitOn_append_sep,ih,
      List.flatMap_append,List.flatMap_singleton,List.cons_append]

theorem splitOn_fed_clean {t : Text} {lines : List Text} (clean : '\n' ∉ t) (each : ∀ line ∈ lines, '\n' ∉ line) :
    Text.splitOn '\n' (t ++ fed lines) = t :: lines := by
  rw [splitOn_fed clean,flatMap_alone fun line listed => splitOn_clean (each line listed)]

-- Where every item opens a line or says nothing, the lines of an item are not mixed with others.
theorem splitOn_item {α : Type} {shown : α → Text} (opens : ∀ a, shown a = [] ∨ ∃ rest, shown a = '\n' :: rest)
    (t : Text) {items : List α} {a : α} (listed : a ∈ items) {said : Text} (here : shown a = '\n' :: said) :
    said.splitOn '\n' <:+: Text.splitOn '\n' (t ++ items.flatMap shown) := by
  obtain ⟨before,after,rfl⟩ := List.append_of_mem listed
  have behind : after.flatMap shown = [] ∨ ∃ rest, after.flatMap shown = '\n' :: rest := by
    clear listed
    induction after with
    | nil => exact .inl rfl
    | cons other after ih =>
      rcases opens other with silent | ⟨rest,opened⟩
      · simpa [silent] using ih
      · exact .inr ⟨_,by rw [List.flatMap_cons,opened]; rfl⟩
  have whole : t ++ (before ++ a :: after).flatMap shown
      = (t ++ before.flatMap shown) ++ '\n' :: (said ++ after.flatMap shown) := by
    simp [here]
  rw [whole,splitOn_append_sep]
  rcases behind with silent | ⟨rest,opened⟩
  · rw [silent,List.append_nil]
    exact (List.suffix_append _ _).isInfix
  · rw [opened,splitOn_append_sep]
    exact ⟨_,_,List.append_assoc _ _ _⟩

theorem splitOn_blank (t u : Text) :
    Text.splitOn '\n' (t ++ "\n\n" ++ u) = t.splitOn '\n' ++ [] :: Text.splitOn '\n' u := by
  rw [List.append_assoc]
  exact (splitOn_append_sep '\n' t _).trans (congrArg (_ ++ ·) (splitOn_cons_sep '\n' _))

theorem splitOn_ended (t : Text) : Text.splitOn '\n' (t ++ "\n") = t.splitOn '\n' ++ [[]] := splitOn_append_last '\n' t

-- What follows a part on the page.
def behind (back : List Text) : List Text :=
  if back = [] then [] else [] :: Text.splitOn '\n' (Text.join "\n\n" back)

theorem splitOn_parts (front : List Text) (part : Text) (back : List Text) : ∃ before,
    Text.splitOn '\n' (Text.join "\n\n" (front ++ part :: back)) = before ++ part.splitOn '\n' ++ behind back := by
  have rest : Text.splitOn '\n' (Text.join "\n\n" (part :: back)) = part.splitOn '\n' ++ behind back := by
    by_cases last : back = []
    · rw [last,behind,if_pos rfl,List.append_nil]
      rfl
    · rw [join_cons part last,splitOn_blank,behind,if_neg last]
  by_cases first : front = []
  · exact ⟨[],by rw [first,List.nil_append,List.nil_append,rest]⟩
  · refine ⟨Text.splitOn '\n' (Text.join "\n\n" front) ++ [[]],?_⟩
    rw [join_append first (List.cons_ne_nil _ _),splitOn_blank,rest]
    simp

theorem splitOn_part {part : Text} {parts : List Text} (listed : part ∈ parts) :
    Text.splitOn '\n' part <:+: Text.splitOn '\n' (Text.join "\n\n" parts) := by
  obtain ⟨front,back,rfl⟩ := List.append_of_mem listed
  obtain ⟨before,lines⟩ := splitOn_parts front part back
  exact ⟨before,behind back,lines.symm⟩

theorem splitOn_assemble {part : Text} {parts : List Text} (listed : part ∈ parts) :
    Text.splitOn '\n' part <:+: Text.splitOn '\n' (Page.assemble parts) := by
  have inside := splitOn_part listed
  unfold Page.assemble
  split
  · rename_i none
    rwa [none] at inside
  · rw [splitOn_ended]
    exact inside.trans (List.prefix_append _ _).isInfix

end ScriptDoc.PageLines
