import ScriptDoc.Proofs.ReadSections

namespace ScriptDoc.Merging
open TextLines MarkedLines Grouping ReadSections KeyedGroups

-- The second text does not go on with the last block of the first. Texts that say nothing are apart
-- from every other.
def Apart (a b : Text) : Prop :=
  Text.marked [] a = [] ∨ Text.marked [] b = [] ∨
    ∃ last ∈ (Text.blocks [] a).getLast?, ∃ m ∈ (Text.marked [] b).head?, ∃ tag ∈ m.read.tag,
      isSubtag tag last.tag = false

theorem Apart.breaks {a b : Text} (apart : Apart a b) :
    ∀ last ∈ (blocksOf (documented [] a)).getLast?, ∀ line ∈ (documented [] b).head?,
      last.takes line = false := by
  intro last isLast line isFirst
  rcases apart with silent | silent | ⟨block,ends,m,opens,tag,tagged,foreign⟩
  · rw [← read_marked,silent] at isLast
    cases isLast
  · rw [← read_marked,silent] at isFirst
    cases isFirst
  · rw [blocks_eq] at ends
    rw [← read_marked,List.head?_map,Option.mem_def.mp opens] at isFirst
    cases Option.some.inj isFirst
    cases Option.some.inj (Option.mem_def.mp isLast ▸ Option.mem_def.mp ends)
    exact (breaks_iff last m.read).mpr ⟨tag,tagged,foreign⟩

theorem Apart.breaks_bare {a b : Text} (apart : Apart a b) :
    ∀ last ∈ (blocksOf ((documented [] a).map bare)).getLast?, ∀ line ∈ ((documented [] b).map bare).head?,
      last.takes line = false := by
  intro last isLast line isFirst
  rw [blocksOf_bare,List.getLast?_map] at isLast
  rw [List.head?_map] at isFirst
  obtain ⟨block,ends,rfl⟩ := Option.map_eq_some_iff.mp isLast
  obtain ⟨origin,opens,rfl⟩ := Option.map_eq_some_iff.mp isFirst
  exact apart.breaks block ends origin opens

def blockEntries (t : Text) : Groups Text Record := (blocksOf ((documented [] t).map bare)).map blockEntry

theorem parse_gathered (t filename : Text) :
    (Document.parse t filename).sections = Groups.addAll [] (blockEntries t) := by
  rw [parse_sections,blocks_eq,← ofBlocks_bare,ofBlocks_eq]
  rfl

theorem blockEntries_append {a b : Text} (ended : Ended a) (apart : Apart a b) :
    blockEntries (a ++ b) = blockEntries a ++ blockEntries b := by
  unfold blockEntries
  rw [bare_documented_append ended,blocksOf_append apart.breaks_bare,List.map_append]

-- Whether text is put together before or after it is read makes no difference.
theorem parse_append_sections {a b : Text} (ended : Ended a) (apart : Apart a b)
    (whole first second joined : Text) :
    (Document.parse (a ++ b) whole).sections
      = (Document.merge [Document.parse a first, Document.parse b second] joined).sections := by
  have merged : (Document.merge [Document.parse a first, Document.parse b second] joined).sections
      = Groups.addAll (Groups.addAll [] (Document.parse a first).sections) (Document.parse b second).sections := rfl
  rw [merged,parse_gathered,parse_gathered,parse_gathered,blockEntries_append ended apart,addAll_append,
    addAll_gathered,addAll_gathered]

theorem parse_append_sections_options :
    Ended "## \\option -a\n##  first\nrun\n" ∧
    Apart "## \\option -a\n##  first\nrun\n" "\n  ## @option -b\n## \\desc\n" ∧
    (Document.parse ("## \\option -a\n##  first\nrun\n" ++ "\n  ## @option -b\n## \\desc\n") "both").sections
      = (Document.merge [Document.parse "## \\option -a\n##  first\nrun\n" "one",
          Document.parse "\n  ## @option -b\n## \\desc\n" "two"] "joined").sections := by
  have ended : Ended "## \\option -a\n##  first\nrun\n" := by decide
  have apart : Apart "## \\option -a\n##  first\nrun\n" "\n  ## @option -b\n## \\desc\n" := by
    exact .inr (.inr ⟨_,rfl,_,rfl,_,rfl,by decide⟩)
  exact ⟨ended,apart,parse_append_sections ended apart _ _ _ _⟩

end ScriptDoc.Merging
