import Mathlib.Data.List.Basic
import Mathlib.Data.List.TakeWhile
import ScriptDoc.Page.HelpText
import ScriptDoc.Proofs.TextLines

-- What stands in front of the lines of the usages.
namespace ScriptDoc.UsageAlignment
open HelpText TextLines

-- A usage without program and command, blanks aside, has no line of its own.
def Silent (usage : Text × Text) : Prop := ∀ c ∈ usage.1 ++ usage.2, isBlank c = true

-- Named here, for otherwise the search may go through all characters there are.
instance (usage : Text × Text) : Decidable (Silent usage) := List.decidableBAll _ _

-- The lines of all usages before anything is put in front of them.
def saidLines (us : List (Text × Text)) : List Text := us.flatMap fun u => (Page.usageText u).lines

def headed (lead : Text) : List Text → List Text
  | [] => []
  | first :: rest => (lead ++ first) :: rest.map (usageIndent ++ ·)

-- The lead belongs to the first usage, and is lost with it.
def leadOf : List (Text × Text) → Text
  | [] => usageLead
  | first :: _ => if Silent first then usageIndent else usageLead

-- The lead in front, and everything after it indented by as much.
def Aligned (page : Text) : Prop :=
  page = [] ∨ ∃ first rest, page.splitOn '\n' = first :: rest ++ [[]] ∧ usageLead <+: first ∧
    ∀ line ∈ rest, usageIndent <+: line

theorem usageText_eq_nil_iff (u : Text × Text) : Page.usageText u = [] ↔ Silent u := by
  rw [Page.usageText,Text.trimEnd,List.reverse_eq_nil_iff,List.dropWhile_eq_nil_iff]
  constructor
  · intro blank c inside
    apply blank
    simp only [List.mem_reverse,List.mem_append] at inside ⊢
    exact inside.imp .inl id
  · intro silent c inside
    simp only [List.mem_reverse,List.mem_append] at inside
    rcases inside with (program | space) | command
    · exact silent c (List.mem_append_left _ program)
    · rw [List.mem_singleton.mp space]
      decide
    · exact silent c (List.mem_append_right _ command)

theorem lines_silent_iff (u : Text × Text) : (Page.usageText u).lines = [] ↔ Silent u :=
  lines_eq_nil_iff.trans (usageText_eq_nil_iff u)

theorem saidLines_eq_nil_iff (us : List (Text × Text)) : saidLines us = [] ↔ ∀ u ∈ us, Silent u := by
  rw [saidLines,List.flatMap_eq_nil_iff]
  exact forall₂_congr fun u _ => lines_silent_iff u

theorem headed_eq_nil_iff {lead : Text} {lines : List Text} : headed lead lines = [] ↔ lines = [] := by
  cases lines <;> simp [headed]

theorem headed_indent (lines : List Text) : headed usageIndent lines = lines.map (usageIndent ++ ·) := by
  cases lines <;> rfl

theorem headed_append {lead : Text} {first : List Text} (some : first ≠ []) (more : List Text) :
    headed lead (first ++ more) = headed lead first ++ more.map (usageIndent ++ ·) := by
  obtain ⟨line,rest,rfl⟩ := List.exists_cons_of_ne_nil some
  simp [headed]

theorem usageLines_headed (lead : Text) (u : Text × Text) : usageLines lead u = headed lead (Page.usageText u).lines := by
  unfold usageLines headed
  cases (Page.usageText u).lines <;> rfl

theorem usages_headed (us : List (Text × Text)) : usages us = headed (leadOf us) (saidLines us) := by
  cases us with
  | nil => rfl
  | cons first rest =>
    have others : rest.flatMap (usageLines usageIndent) = (saidLines rest).map (usageIndent ++ ·) := by
      rw [saidLines,List.map_flatMap]
      apply List.flatMap_congr
      intro u _
      rw [usageLines_headed,headed_indent]
    have whole : saidLines (first :: rest) = (Page.usageText first).lines ++ saidLines rest := List.flatMap_cons
    rw [usages,others,usageLines_headed,whole,leadOf]
    by_cases silent : Silent first
    · rw [if_pos silent,(lines_silent_iff first).mpr silent,List.nil_append,headed_indent]
      rfl
    · rw [if_neg silent,headed_append fun none => silent ((lines_silent_iff first).mp none)]

theorem headed_clean {lead : Text} (clean : '\n' ∉ lead) {lines : List Text} (each : ∀ line ∈ lines, '\n' ∉ line) :
    ∀ row ∈ headed lead lines, '\n' ∉ row := by
  cases lines with
  | nil => simp [headed]
  | cons first rest =>
    obtain ⟨here,later⟩ := List.forall_mem_cons.mp each
    refine List.forall_mem_cons.mpr ⟨List.not_mem_append clean here,?_⟩
    intro row member
    obtain ⟨line,listed,rfl⟩ := List.mem_map.mp member
    exact List.not_mem_append (by decide) (later line listed)

theorem leadOf_cases (us : List (Text × Text)) : leadOf us = usageLead ∨ leadOf us = usageIndent := by
  unfold leadOf
  split
  · exact .inl rfl
  · split
    · exact .inr rfl
    · exact .inl rfl

theorem usages_clean (us : List (Text × Text)) : ∀ row ∈ usages us, '\n' ∉ row := by
  have lead : '\n' ∉ leadOf us := by rcases leadOf_cases us with same | same <;> rw [same] <;> decide
  rw [usages_headed]
  apply headed_clean lead
  intro line listed
  obtain ⟨u,_,inside⟩ := List.mem_flatMap.mp listed
  exact newline_not_mem_line inside

-- Even an empty line has something in front of it.
theorem usageBlock_eq_nil_iff (d : Document) : usageBlock d = [] ↔ usages (d.entries .usage) = [] := by
  constructor
  · intro none
    rw [usages_headed,headed_eq_nil_iff]
    by_contra some
    obtain ⟨line,rest,said⟩ := List.exists_cons_of_ne_nil some
    have front : ∃ c, c ∈ leadOf (d.entries .usage) := by
      rcases leadOf_cases (d.entries .usage) with same | same <;> rw [same] <;> exact ⟨_,List.mem_cons_self⟩
    obtain ⟨c,inside⟩ := front
    have shown : c ∈ usageBlock d := by
      rw [usageBlock,usages_headed,said]
      exact mem_join List.mem_cons_self (List.mem_append_left line inside)
    rw [none] at shown
    cases shown
  · intro none
    rw [usageBlock,none]
    rfl

theorem splitOn_renderUsage (d : Document) :
    Text.splitOn '\n' (renderUsage d) = usages (d.entries .usage) ++ [[]] := by
  unfold renderUsage
  split
  · rename_i none
    rw [(usageBlock_eq_nil_iff d).mp none]
    rfl
  · rename_i some
    have rows : usages (d.entries .usage) ≠ [] := fun none => some ((usageBlock_eq_nil_iff d).mpr none)
    exact (splitOn_append_last '\n' _).trans (congrArg (· ++ [[]]) (splitOn_join_clean rows (usages_clean _)))

theorem renderUsage_eq_nil_iff (d : Document) : renderUsage d = [] ↔ ∀ u ∈ d.entries .usage, Silent u := by
  rw [← saidLines_eq_nil_iff,← headed_eq_nil_iff,← usages_headed,← usageBlock_eq_nil_iff,renderUsage]
  split <;> simp [*]

theorem lead_not_indented {line rest : Text} (same : usageLead ++ rest = usageIndent ++ line) : False := by
  cases same

theorem aligned_iff (d : Document) :
    Aligned (renderUsage d) ↔ ∀ u ∈ (d.entries .usage).head?, Silent u → ∀ other ∈ d.entries .usage, Silent other := by
  rw [Aligned,renderUsage_eq_nil_iff,splitOn_renderUsage,usages_headed]
  constructor
  · rintro (all | ⟨first,rest,rows,⟨more,lead⟩,_⟩) u head silent
    · exact all
    · -- The first row has an indent in front, and so no lead.
      rw [List.append_cancel_right_eq] at rows
      obtain ⟨us,shape⟩ := List.head?_eq_some_iff.mp head
      rw [shape,leadOf,if_pos silent,headed_indent] at rows
      obtain ⟨line,_,row⟩ := List.mem_map.mp (rows ▸ List.mem_cons_self)
      exact (lead_not_indented (lead.trans row.symm)).elim
  · intro leading
    cases shape : d.entries .usage with
    | nil => exact .inl (by simp)
    | cons u us =>
      by_cases silent : Silent u
      · rw [← shape]
        exact .inl (leading u (by rw [shape]; rfl) silent)
      · obtain ⟨line,rest,said⟩ : ∃ line rest, saidLines (u :: us) = line :: rest := by
          apply List.exists_cons_of_ne_nil
          intro none
          exact silent ((saidLines_eq_nil_iff _).mp none u List.mem_cons_self)
        refine .inr ⟨usageLead ++ line,rest.map (usageIndent ++ ·),?_,List.prefix_append _ _,?_⟩
        · rw [said,leadOf,if_neg silent]
          rfl
        · intro row member
          obtain ⟨line,_,rfl⟩ := List.mem_map.mp member
          exact List.prefix_append _ _

-- The page line by line, and when its lines are aligned: the lead is missing as soon as the first usage
-- is silent and another is not.
structure Laid (d : Document) (page : Text) : Prop where
  rows : page.splitOn '\n' = headed (leadOf (d.entries .usage)) (saidLines (d.entries .usage)) ++ [[]]
  empty : page = [] ↔ ∀ u ∈ d.entries .usage, Silent u
  aligned : Aligned page ↔ ∀ u ∈ (d.entries .usage).head?, Silent u → ∀ other ∈ d.entries .usage, Silent other

theorem usages_laid (d : Document) : Laid d (renderUsage d) where
  rows := by rw [splitOn_renderUsage,usages_headed]
  empty := renderUsage_eq_nil_iff d
  aligned := aligned_iff d

theorem silent_usage_unaligned :
    let d := Document.parse "## \\usage\n## \\usage demo [-h]\n" "demo"
    d.entries .usage = [([], []), ("demo", "[-h]")] ∧ renderUsage d = "       demo [-h]\n" ∧ ¬ Aligned (renderUsage d) := by
  intro d
  have read : d.entries .usage = [([], []), ("demo", "[-h]")] := by decide +kernel
  refine ⟨read,by decide +kernel,?_⟩
  rw [aligned_iff,read]
  intro leading
  have spoken : ¬ Silent ("demo", "[-h]") := by decide
  exact spoken (leading ([], []) rfl (by decide) _ (by simp))

end ScriptDoc.UsageAlignment
