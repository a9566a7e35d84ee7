import Mathlib.Data.List.TakeWhile
import ScriptDoc.Page.HelpText
import ScriptDoc.Page.Markdown
import ScriptDoc.Proofs.OptionGroups
import ScriptDoc.Proofs.PageLines

-- Under which heading an option stands where groups are listed as they first come, and an option
-- without a group gets no heading of its own.
namespace ScriptDoc.OptionHeadings
open KeyedGroups OptionGroups PageLines

-- What follows the title of such a list, one thing after another.
inductive Mark where
  | group (name : Text)
  | option (o : OptionDoc)

def marksOf (groups : Groups Text OptionDoc) : List Mark :=
  groups.flatMap fun group => .group group.1 :: group.2.map .option

def marks (os : List OptionDoc) : List Mark := marksOf (Groups.ofItems (·.group) os)

-- Only a name makes a heading, so a group without one leaves the last heading open.
def opened (current : Option Text) (name : Text) : Option Text := if name = [] then current else some name

-- Every option with the heading that comes nearest before it.
def standing : Option Text → List Mark → List (OptionDoc × Option Text)
  | _, [] => []
  | current, .group name :: rest => standing (opened current name) rest
  | current, .option o :: rest => (o, current) :: standing current rest

def headings (os : List OptionDoc) : List (OptionDoc × Option Text) := standing none (marks os)

def ownHeading (o : OptionDoc) : Option Text := opened none o.group

-- The group that was opened last before the first option without one.
def openedBefore (os : List OptionDoc) : Option Text := (groupNames (os.takeWhile (·.group ≠ []))).getLast?

section Standing
variable {current : Option Text}

theorem standing_options (os : List OptionDoc) (rest : List Mark) :
    standing current (os.map .option ++ rest) = os.map (·, current) ++ standing current rest := by
  induction os with
  | nil => rfl
  | cons o os ih => exact congrArg ((o, current) :: ·) ih

theorem marksOf_cons (group : Text × List OptionDoc) (groups : Groups Text OptionDoc) :
    marksOf (group :: groups) = .group group.1 :: (group.2.map .option ++ marksOf groups) := by
  rw [marksOf,List.flatMap_cons]
  rfl

theorem standing_cons (group : Text × List OptionDoc) (groups : Groups Text OptionDoc) :
    standing current (marksOf (group :: groups)) =
      group.2.map (·, opened current group.1) ++ standing (opened current group.1) (marksOf groups) := by
  rw [marksOf_cons,standing,standing_options]

-- Groups with names stand under their own headings, and the last of these stays open behind them.
theorem standing_named {names : List Text} (named : [] ∉ names) (held : Text → List OptionDoc)
    (back : Groups Text OptionDoc) :
    standing current (marksOf (names.map (fun name => (name, held name)) ++ back)) =
      names.flatMap (fun name => (held name).map (·, some name))
        ++ standing (names.getLast?.or current) (marksOf back) := by
  induction names generalizing current with
  | nil => rfl
  | cons name names ih =>
    obtain ⟨here,later⟩ := not_or.mp (mt List.mem_cons.mpr named)
    have now : opened current name = some name := if_neg (Ne.symm here)
    rw [List.map_cons,List.cons_append,standing_cons,now,ih later,List.flatMap_cons,List.append_assoc,
      List.getLast?_cons,Option.or_some,Option.some_or]

theorem standing_held (groups : Groups Text OptionDoc) : (standing current (marksOf groups)).map (·.1) = groups.flatMap (·.2) := by
  induction groups generalizing current with
  | nil => rfl
  | cons group groups ih =>
    rw [standing_cons,List.map_append,ih,List.map_map,List.flatMap_cons]
    exact congrArg (· ++ _) (List.map_id group.2)

end Standing

section Grouped
variable {os : List OptionDoc}

-- Each option is listed once.
theorem headings_perm (os : List OptionDoc) : ((headings os).map (·.1)).Perm os := by
  rw [headings,marks,standing_held]
  exact held_ofItems _ os

theorem grouped_entries (os : List OptionDoc) :
    Groups.ofItems (·.group) os = (os.map (·.group)).eraseDups.map fun name => (name, members os name) := by
  rw [← keys_ofItems]
  exact ofItems_entries _ os

theorem mem_members {name : Text} {o : OptionDoc} : o ∈ members os name ↔ o ∈ os ∧ o.group = name := by
  rw [members,List.mem_filter,decide_eq_true_iff]

theorem mem_named {names : List Text} {p : OptionDoc × Option Text} (named : [] ∉ names)
    (member : p ∈ names.flatMap fun name => (members os name).map (·, some name)) :
    p.1.group ≠ [] ∧ p.2 = some p.1.group := by
  obtain ⟨name,listed,inside⟩ := List.mem_flatMap.mp member
  obtain ⟨o,held,rfl⟩ := List.mem_map.mp inside
  obtain ⟨_,rfl⟩ := mem_members.mp held
  exact ⟨fun empty => named (empty ▸ listed),rfl⟩

theorem mem_standing {names : List Text} {current : Option Text} {p : OptionDoc × Option Text} (named : [] ∉ names)
    (member : p ∈ standing current (marksOf (names.map fun name => (name, members os name)))) :
    p.1.group ≠ [] ∧ p.2 = some p.1.group := by
  have whole := @standing_named current names named (members os) []
  rw [List.append_nil] at whole
  rw [whole] at member
  exact mem_named named (List.append_nil _ ▸ member)

theorem groupNames_filled (os : List OptionDoc) : [] ∉ groupNames os :=
  fun listed => of_decide_eq_true (List.mem_filter.mp listed).2 rfl

theorem groupNames_named (named : ∀ o ∈ os, o.group ≠ []) : groupNames os = (os.map (·.group)).eraseDups := by
  apply List.filter_eq_self.mpr
  intro name listed
  obtain ⟨o,member,rfl⟩ := List.mem_map.mp (List.mem_eraseDups.mp listed)
  exact decide_eq_true (named o member)

-- Where some option has no group, the names before it come first, then the missing one, then the others.
theorem names_split (some : ∃ o ∈ os, o.group = []) :
    ∃ back, (os.map (·.group)).eraseDups = groupNames (os.takeWhile (·.group ≠ [])) ++ [] :: back ∧ [] ∉ back := by
  let front := os.takeWhile (·.group ≠ [])
  have named : ∀ o ∈ front, o.group ≠ [] := fun o member =>
    of_decide_eq_true (List.all_eq_true.mp List.all_takeWhile o member)
  obtain ⟨first,rest,left⟩ : ∃ first rest, os.dropWhile (·.group ≠ []) = first :: rest := by
    apply List.exists_cons_of_ne_nil
    intro nothing
    obtain ⟨o,member,none⟩ := some
    exact of_decide_eq_true (List.dropWhile_eq_nil_iff.mp nothing o member) none
  have none : first.group = [] := by
    have stopped := List.head?_dropWhile_not (fun o : OptionDoc => decide (o.group ≠ [])) os
    rw [left] at stopped
    simpa using stopped
  have whole : os.map (·.group) = front.map (·.group) ++ [] :: rest.map (·.group) := by
    rw [← none,← List.map_cons,← List.map_append,← left,List.takeWhile_append_dropWhile]
  have absent : [] ∉ front.map (·.group) := by
    intro listed
    obtain ⟨o,member,empty⟩ := List.mem_map.mp listed
    exact named o member empty
  let back := ((rest.map (·.group)).removeAll (front.map (·.group))).filter fun name => !name == []
  have names : (os.map (·.group)).eraseDups = groupNames front ++ [] :: back.eraseDups := by
    rw [whole,List.eraseDups_append,List.cons_removeAll,if_pos (by simpa using absent),List.eraseDups_cons,
      groupNames_named named]
  exact ⟨back.eraseDups,names,by simp [back]⟩

theorem heading_of {p : OptionDoc × Option Text} (member : p ∈ headings os) :
    p.2 = if p.1.group = [] then openedBefore os else some p.1.group := by
  rw [headings,marks,grouped_entries] at member
  by_cases some : ∃ o ∈ os, o.group = []
  · obtain ⟨back,names,after⟩ := names_split some
    rw [names,List.map_append,List.map_cons,standing_named (groupNames_filled _),standing_cons] at member
    rcases List.mem_append.mp member with front | rest
    · obtain ⟨named,own⟩ := mem_named (groupNames_filled _) front
      rw [if_neg named,own]
    rcases List.mem_append.mp rest with here | later
    · obtain ⟨o,held,rfl⟩ := List.mem_map.mp here
      obtain ⟨_,none⟩ := mem_members.mp held
      rw [if_pos none]
      exact Option.or_none
    · obtain ⟨named,own⟩ := mem_standing after later
      rw [if_neg named,own]
  · have named : [] ∉ (os.map (·.group)).eraseDups := by
      intro listed
      obtain ⟨o,inside,none⟩ := List.mem_map.mp (List.mem_eraseDups.mp listed)
      exact some ⟨o,inside,none⟩
    obtain ⟨filled,own⟩ := mem_standing named member
    rw [if_neg filled,own]

theorem openedBefore_none_iff : openedBefore os = none ↔ ∀ o ∈ os.head?, o.group = [] := by
  rw [openedBefore,List.getLast?_eq_none_iff]
  cases os with
  | nil => simp [groupNames]
  | cons first os =>
    by_cases none : first.group = []
    · simp [none,groupNames]
    · have listed : first.group ∈ groupNames ((first :: os).takeWhile (·.group ≠ [])) := by
        simp [groupNames,none]
      exact iff_of_false (List.ne_nil_of_mem listed) (by simp [none])

def OwnHeadings (os : List OptionDoc) : Prop := ∀ p ∈ headings os, p.2 = ownHeading p.1

-- A heading stays open until the next one, so all is well as long as the options without a group
-- come before it is opened.
theorem ownHeadings_iff : OwnHeadings os ↔ ∀ o ∈ os, o.group = [] → ∀ first ∈ os.head?, first.group = [] := by
  constructor
  · intro own o member none
    obtain ⟨p,listed,rfl⟩ := List.mem_map.mp ((headings_perm os).mem_iff.mpr member)
    have closed : openedBefore os = ownHeading p.1 := by
      rw [← own p listed,heading_of listed,if_pos none]
    rw [ownHeading,none] at closed
    exact openedBefore_none_iff.mp closed
  · intro early p listed
    rw [heading_of listed,ownHeading,opened]
    by_cases none : p.1.group = []
    · have member : p.1 ∈ os := (headings_perm os).mem_iff.mp (List.mem_map.mpr ⟨p,listed,rfl⟩)
      rw [if_pos none,if_pos none,openedBefore_none_iff.mpr (early p.1 member none)]
    · rw [if_neg none,if_neg none]

end Grouped

section Pages

def helpMark (l : HelpText.Layout) : Mark → Text
  | .group name => Text.given name ("\n\n" ++ name ++ ":")
  | .option o => "\n" ++ HelpText.option l o

def markdownMark : Mark → Text
  | .group name => Text.given name ("\n\n### " ++ name) ++ "\n"
  | .option o => "\n" ++ Markdown.option o

-- The same as lines. What is said of an option may go over several of them.
def headingLines (name shown : Text) : List Text := if name = [] then [] else [[], shown]

def helpLines (l : HelpText.Layout) : Mark → List Text
  | .group name => headingLines name (name ++ ":")
  | .option o => [HelpText.option l o]

def markdownLines : Mark → List Text
  | .group name => headingLines name ("### " ++ name) ++ [[]]
  | .option o => [Markdown.option o]

theorem fed_headingLines (name shown : Text) : fed (headingLines name shown) = Text.given name ("\n\n" ++ shown) := by
  unfold headingLines Text.given
  split
  · rfl
  · exact congrArg ("\n\n".toList ++ ·) (List.append_nil shown)

theorem fed_helpLines (l : HelpText.Layout) (m : Mark) : fed (helpLines l m) = helpMark l m := by
  cases m with
  | option o => exact List.append_nil _
  | group name => exact fed_headingLines name (name ++ ":")

theorem fed_markdownLines (m : Mark) : fed (markdownLines m) = markdownMark m := by
  cases m with
  | option o => exact List.append_nil _
  | group name =>
    have heading := fed_headingLines name ("### " ++ name)
    rw [markdownLines,fed,List.flatMap_append,← fed,heading]
    rfl

-- What marks are shown as, line by line.
theorem splitOn_marks {title : Text} (clean : '\n' ∉ title) {shown : Mark → Text} {lines : Mark → List Text}
    (feeds : ∀ m, fed (lines m) = shown m) (ms : List Mark) :
    Text.splitOn '\n' (title ++ ms.flatMap shown) = title :: (ms.flatMap lines).flatMap (Text.splitOn '\n') := by
  have whole : ms.flatMap shown = fed (ms.flatMap lines) := by
    rw [fed,List.flatMap_assoc]
    exact List.flatMap_congr fun m _ => (feeds m).symm
  rw [whole,splitOn_fed clean]

-- A page that goes through its groups one by one goes through their marks.
theorem flatMap_marks {shown : Mark → Text} {part : Text × List OptionDoc → Text}
    (shape : ∀ group, part group = shown (.group group.1) ++ group.2.flatMap fun o => shown (.option o))
    (groups : Groups Text OptionDoc) : groups.flatMap part = (marksOf groups).flatMap shown := by
  rw [marksOf,List.flatMap_assoc]
  apply List.flatMap_congr
  intro group _
  rw [shape,List.flatMap_cons,List.flatMap_map]

theorem help_marks (l : HelpText.Layout) (d : Document) :
    HelpText.options l d = if d.options = [] then [] else ["Options:" ++ (marks d.options).flatMap (helpMark l)] := by
  rw [HelpText.options,@flatMap_marks (helpMark l) (HelpText.optionGroup l) fun _ => rfl]
  rfl

theorem markdown_marks (d : Document) :
    Markdown.options d = if d.options = [] then [] else ["## Options" ++ (marks d.options).flatMap markdownMark] := by
  rw [Markdown.options,@flatMap_marks markdownMark Markdown.optionGroup fun _ => rfl]
  rfl

theorem help_inside (l : HelpText.Layout) (d : Document) : HelpText.options l d <:+: HelpText.parts l d := by
  refine ⟨(if HelpText.usageBlock d = [] then [] else [HelpText.usageBlock d]) ++ (d.firstText "brief").toList
    ++ ((d.fullText "desc").map fun t => wrap t 0 l.width true).toList,?rest,?whole⟩
  case whole =>
    -- The equation of so long a definition is slow to make.
    delta HelpText.parts
    simp only [List.append_assoc]
    rfl

theorem markdown_inside (d : Document) (context : Context) : Markdown.options d <:+: Markdown.parts d context := by
  refine ⟨[Markdown.title d] ++ Markdown.versionAndDate d context ++ Markdown.synopsis d
    ++ Markdown.remarks d "Description" "desc",?rest,?whole⟩
  case whole =>
    delta Markdown.parts
    simp only [List.append_assoc]
    rfl

theorem help_listed (l : HelpText.Layout) {d : Document} (some : d.options ≠ []) :
    "Options:" ++ (marks d.options).flatMap (helpMark l) ∈ HelpText.parts l d := by
  apply (help_inside l d).subset
  rw [help_marks,if_neg some]
  exact List.mem_singleton.mpr rfl

theorem markdown_listed {d : Document} (context : Context) (some : d.options ≠ []) :
    "## Options" ++ (marks d.options).flatMap markdownMark ∈ Markdown.parts d context := by
  apply (markdown_inside d context).subset
  rw [markdown_marks,if_neg some]
  exact List.mem_singleton.mpr rfl

end Pages

-- Every option once, and the heading it stands under: its own if its group has a name, else whichever
-- was opened before the first option without a group.
structure Headed (os : List OptionDoc) : Prop where
  once : ((headings os).map (·.1)).Perm os
  under : ∀ p ∈ headings os, p.2 = if p.1.group = [] then openedBefore os else some p.1.group
  own : OwnHeadings os ↔ ∀ o ∈ os, o.group = [] → ∀ first ∈ os.head?, first.group = []

structure OnHelpText (d : Document) (context : Context) : Prop where
  part : HelpText.options (.ofContext context) d =
    if d.options = [] then [] else ["Options:" ++ (marks d.options).flatMap (helpMark (.ofContext context))]
  inside : HelpText.options (.ofContext context) d <:+: HelpText.parts (.ofContext context) d
  lines : d.options ≠ [] →
    "Options:".toList :: ((marks d.options).flatMap (helpLines (.ofContext context))).flatMap (Text.splitOn '\n')
      <:+: Text.splitOn '\n' (HelpText.render d context)

structure OnMarkdown (d : Document) (context : Context) : Prop where
  part : Markdown.options d = if d.options = [] then [] else ["## Options" ++ (marks d.options).flatMap markdownMark]
  inside : Markdown.options d <:+: Markdown.parts d context
  lines : d.options ≠ [] →
    "## Options".toList :: ((marks d.options).flatMap markdownLines).flatMap (Text.splitOn '\n')
      <:+: Text.splitOn '\n' (Markdown.render d context)

theorem onHelpText (d : Document) (context : Context) : OnHelpText d context where
  part := help_marks _ d
  inside := help_inside _ d
  lines some := by
    rw [← splitOn_marks (by decide) (fed_helpLines _)]
    exact splitOn_assemble (help_listed _ some)

theorem onMarkdown (d : Document) (context : Context) : OnMarkdown d context where
  part := markdown_marks d
  inside := markdown_inside d context
  lines some := by
    rw [← splitOn_marks (by decide) fed_markdownLines,Markdown.render,splitOn_ended]
    exact (splitOn_part (markdown_listed context some)).trans (List.prefix_append _ _).isInfix

theorem options_under_headings (d : Document) (context : Context) :
    Headed d.options ∧ OnHelpText d context ∧ OnMarkdown d context :=
  ⟨⟨headings_perm _,fun _ => heading_of,ownHeadings_iff⟩,onHelpText d context,onMarkdown d context⟩

theorem ungrouped_under_heading :
    let d := Document.parse "## \\option -a\n## \\option-group A\n## \\option -b\n" "demo"
    HelpText.render d [] = "Options:\n\nA:\n  -a\n  -b\n" ∧
      Markdown.render d [] = "# demo\n\n## Options\n\n### A\n\n- `-a`\n\n- `-b`\n" ∧ ¬ OwnHeadings d.options := by
  intro d
  refine ⟨by decide +kernel,by decide +kernel,?_⟩
  rw [ownHeadings_iff]
  decide +kernel

end ScriptDoc.OptionHeadings
