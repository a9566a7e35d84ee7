import ScriptDoc.Proofs.ReadSections

namespace ScriptDoc.Regrouping
open KeyedGroups

-- What merges inside merges make of a list of documents, whatever they are called on the way.
inductive Nested : List Document → Document → Prop where
  | single (d : Document) : Nested [d] d
  | merged {parts : List (List Document × Document)} (each : ∀ p ∈ parts, Nested p.1 p.2) (name : Text) :
      Nested (parts.flatMap (·.1)) (Document.merge (parts.map (·.2)) name)

def entries (docs : List Document) : Groups Text Record := docs.flatMap (·.sections)

theorem merge_sections (docs : List Document) (name : Text) :
    (Document.merge docs name).sections = Groups.addAll [] (entries docs) := by
  have onward : ∀ s : Sections, docs.foldl (fun acc d => acc.addAll d.sections) s = Groups.addAll s (entries docs) := by
    induction docs with
    | nil => exact fun _ => rfl
    | cons d docs ih =>
      intro s
      rw [List.foldl_cons,ih]
      exact (addAll_append s d.sections (entries docs)).symm
  exact onward []

theorem entries_append (front back : List Document) : entries (front ++ back) = entries front ++ entries back :=
  List.flatMap_append

-- Parts that add up to their documents add up to all documents together.
theorem addAll_parts {parts : List (List Document × Document)}
    (each : ∀ p ∈ parts, ∀ s : Sections, Groups.addAll s p.2.sections = Groups.addAll s (entries p.1)) (s : Sections) :
    Groups.addAll s (entries (parts.map (·.2))) = Groups.addAll s (entries (parts.flatMap (·.1))) := by
  induction parts generalizing s with
  | nil => rfl
  | cons p parts ih =>
    have later := ih fun other member => each other (List.mem_cons_of_mem _ member)
    rw [List.flatMap_cons,entries_append,addAll_append,← each p (by simp),← later,← addAll_append]
    rfl

theorem nested_adds {docs : List Document} {d : Document} (nested : Nested docs d) (s : Sections) :
    Groups.addAll s d.sections = Groups.addAll s (entries docs) := by
  induction nested generalizing s with
  | single d =>
    rw [entries,List.flatMap_singleton]
  | merged _ name ih =>
    rw [merge_sections,addAll_gathered,addAll_parts ih]

theorem merge_nested {parts : List (List Document × Document)} (each : ∀ p ∈ parts, Nested p.1 p.2)
    (name whole : Text) :
    (Document.merge (parts.map (·.2)) name).sections = (Document.merge (parts.flatMap (·.1)) whole).sections := by
  rw [merge_sections,merge_sections,addAll_parts fun p member => nested_adds (each p member)]

theorem nested_merge (docs : List Document) (name : Text) : Nested docs (Document.merge docs name) := by
  have leaves := @Nested.merged (docs.map fun d => ([d],d)) (by simpa using fun d _ => .single d) name
  simpa [List.flatMap_map,Function.comp_def] using leaves

theorem get_merge {docs : List Document} (distinct : ∀ d ∈ docs, d.sections.keys.Nodup) (name key : Text) :
    (Document.merge docs name).get key = docs.flatMap (·.get key) := by
  rw [Document.get,merge_sections,get_addAll,get_nil,List.nil_append,entries,List.filter_flatMap,
    List.flatMap_assoc]
  apply List.flatMap_congr
  intro d member
  exact (get_distinct (distinct d member) key).symm

theorem keys_merge (docs : List Document) (name : Text) :
    (Document.merge docs name).sections.keys = (docs.flatMap (·.sections.keys)).eraseDups := by
  rw [merge_sections,keys_gathered,entries,Groups.keys,List.map_flatMap]
  rfl

-- It does not matter in which groups documents are merged, only in which order they come. That a
-- document has each key once is not part of its type and matters only where a key is looked up.
theorem merge_regrouped (docs : List Document) (name whole : Text) :
    (∀ groups : List (List Document × Text), groups.flatMap (·.1) = docs →
      (Document.merge (groups.map fun g => Document.merge g.1 g.2) name).sections
        = (Document.merge docs whole).sections) ∧
    (∀ parts : List (List Document × Document), (∀ p ∈ parts, Nested p.1 p.2) → parts.flatMap (·.1) = docs →
      (Document.merge (parts.map (·.2)) name).sections = (Document.merge docs whole).sections) ∧
    ((∀ d ∈ docs, d.sections.keys.Nodup) →
      ∀ key, (Document.merge docs whole).get key = docs.flatMap (·.get key)) ∧
    (Document.merge docs whole).sections.keys = (docs.flatMap (·.sections.keys)).eraseDups := by
  refine ⟨?_,?_,fun distinct => get_merge distinct whole,keys_merge docs whole⟩
  · rintro groups rfl
    have each : ∀ p ∈ groups.map fun g => (g.1,Document.merge g.1 g.2), Nested p.1 p.2 := by
      intro p member
      obtain ⟨g,_,rfl⟩ := List.mem_map.mp member
      exact nested_merge g.1 g.2
    simpa [List.flatMap_map,Function.comp_def] using merge_nested each name whole
  · rintro parts each rfl
    exact merge_nested each name whole

def manual : Document := ⟨"manual", none, [("brief", [.text .brief "A"]), ("bug", [.text .bug "x"])]⟩
def errata : Document := ⟨"errata", none, [("bug", [.text .bug "y"]), ("note", [.text .note "n"])]⟩

theorem merge_regrouped_errata :
    (Document.merge [Document.merge [] "nothing", Document.merge [manual, errata] "both", Document.merge [manual] "again"]
        "name").sections = (Document.merge [manual, errata, manual] "whole").sections ∧
    (Document.merge [manual, Document.merge [errata, manual] "inner"] "name").sections
      = (Document.merge [manual, errata, manual] "whole").sections ∧
    (Document.merge [manual, errata, manual] "whole").get "bug"
      = [.text .bug "x", .text .bug "y", .text .bug "x"] := by
  have distinct : ∀ d ∈ [manual, errata, manual], d.sections.keys.Nodup := by decide
  obtain ⟨grouped,nested,records,_⟩ := merge_regrouped [manual, errata, manual] "name" "whole"
  refine ⟨grouped [([],"nothing"),([manual, errata],"both"),([manual],"again")] rfl,?_,?_⟩
  · apply nested [([manual],manual),([errata, manual],Document.merge [errata, manual] "inner")] _ rfl
    intro p member
    simp only [List.mem_cons,List.not_mem_nil,or_false] at member
    rcases member with rfl | rfl
    · exact .single manual
    · exact nested_merge [errata, manual] "inner"
  · rw [records distinct]
    rfl

end ScriptDoc.Regrouping
