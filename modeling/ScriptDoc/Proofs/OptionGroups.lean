import ScriptDoc.Page.WikiPage
import ScriptDoc.Proofs.ByteOrder
import ScriptDoc.Proofs.ManPageRequests

-- How the man page and the wiki page put options under headings of their groups.
namespace ScriptDoc.OptionGroups
open ByteOrder GroffLines KeyedGroups ManPageParts ManPageRequests ReachedDocuments StablePartition

-- The options of one group, in the order of the document.
def members (os : List OptionDoc) (name : Text) : List OptionDoc := os.filter (·.group = name)

-- Every group that has a name, where it first comes.
def groupNames (os : List OptionDoc) : List Text := (os.map (·.group)).eraseDups.filter (· ≠ [])

-- Options without a group and without a heading, then each group under its own.
def listing {α : Type} (os : List OptionDoc) (names : List Text) (heading : Text → List α)
    (entries : List OptionDoc → List α) : List α :=
  entries (members os []) ++ names.flatMap fun name => heading name ++ entries (members os name)

-- Names that a listing can go by: it then has each option once, under the group it names.
structure Arranged (os : List OptionDoc) (names : List Text) : Prop where
  once : names.Nodup
  named : ∀ name, name ∈ names ↔ name ≠ [] ∧ ∃ o ∈ os, o.group = name
  complete : (listing os names (fun _ => []) id).Perm os

theorem listing_all {α : Type} {os : List OptionDoc} {names : List Text} {heading : Text → List α}
    {entries : List OptionDoc → List α} {p : α → Prop} (arranged : Arranged os names)
    (headed : ∀ o ∈ os, ∀ a ∈ heading o.group, p a) (told : ∀ held, held ⊆ os → ∀ a ∈ entries held, p a) :
    ∀ a ∈ listing os names heading entries, p a := by
  have held (name : Text) : members os name ⊆ os := List.filter_subset_self os
  intro a member
  rcases List.mem_append.mp member with front | later
  · exact told _ (held []) a front
  · obtain ⟨name,listed,inside⟩ := List.mem_flatMap.mp later
    obtain ⟨_,o,among,rfl⟩ := (arranged.named name).mp listed
    rcases List.mem_append.mp inside with above | below
    · exact headed o among a above
    · exact told _ (held o.group) a below

-- The groups of the options in an order that a page may list them in.
structure Ordered (os : List OptionDoc) (groups : Groups Text OptionDoc) : Prop where
  same : groups.Perm (Groups.ofItems (·.group) os)
  first : groups.keys = groups.keys.filter (· = []) ++ groups.keys.filter (· ≠ [])

section Orders
variable {os : List OptionDoc} {groups : Groups Text OptionDoc}

theorem Ordered.parts (ordered : Ordered os groups) : Partition (·.group) os groups := partition_iff.mpr ordered.same

theorem Ordered.filled (ordered : Ordered os groups) {name : Text} (listed : name ∈ groups.keys) :
    members os name ≠ [] := by
  obtain ⟨o,member,same⟩ := (ordered.parts.used name).mp listed
  apply List.ne_nil_of_mem
  exact List.mem_filter.mpr ⟨member,decide_eq_true same⟩

-- There is a group without a name just when some option has none.
theorem Ordered.unnamed {α : Type} (ordered : Ordered os groups) {f : Text → List α}
    (nothing : members os [] = [] → f [] = []) : (groups.keys.filter (· = [])).flatMap f = f [] := by
  rw [List.filter_eq]
  by_cases listed : [] ∈ groups.keys
  · rw [List.count_eq_one_of_mem ordered.parts.once listed]
    exact List.append_nil _
  · have none : members os [] = [] := by
      apply List.filter_eq_nil_iff.mpr
      intro o member same
      exact listed ((ordered.parts.used []).mpr ⟨o,member,of_decide_eq_true same⟩)
    rw [List.count_eq_zero_of_not_mem listed,nothing none]
    rfl

-- What a page makes of its groups one by one is a listing, if it leaves the heading out for no name.
theorem Ordered.listed {α : Type} (ordered : Ordered os groups) {part : Text × List OptionDoc → List α}
    {heading : Text → List α} {entries : List OptionDoc → List α} (nothing : entries [] = [])
    (shape : ∀ name held, held ≠ [] → part (name, held) = (if name = [] then [] else heading name) ++ entries held) :
    groups.flatMap part = listing os (groups.keys.filter (· ≠ [])) heading entries := by
  let block (name : Text) : List α := (if name = [] then [] else heading name) ++ entries (members os name)
  have front : (groups.keys.filter (· = [])).flatMap block = entries (members os []) := by
    apply ordered.unnamed
    intro none
    exact (congrArg entries none).trans nothing
  have back : (groups.keys.filter (· ≠ [])).flatMap block =
      (groups.keys.filter (· ≠ [])).flatMap fun name => heading name ++ entries (members os name) := by
    apply List.flatMap_congr
    intro name listed
    exact congrArg (· ++ _) (if_neg (of_decide_eq_true (List.mem_filter.mp listed).2))
  calc groups.flatMap part
    _ = (groups.keys.map fun name => (name, members os name)).flatMap part := congrArg (List.flatMap part) ordered.parts.entries
    _ = groups.keys.flatMap fun name => part (name, members os name) := List.flatMap_map ..
    _ = groups.keys.flatMap block := List.flatMap_congr fun name listed => shape name _ (ordered.filled listed)
    _ = (groups.keys.filter (· = [])).flatMap block ++ (groups.keys.filter (· ≠ [])).flatMap block := by
      rw [← List.flatMap_append,← ordered.first]
    _ = listing os (groups.keys.filter (· ≠ [])) heading entries := by rw [front,back,listing]

theorem Ordered.arranged (ordered : Ordered os groups) : Arranged os (groups.keys.filter (· ≠ [])) := by
  refine ⟨ordered.parts.once.filter _,?_,?_⟩
  · intro name
    rw [List.mem_filter,ordered.parts.used,decide_eq_true_eq]
    exact and_comm
  · have whole : groups.flatMap (·.2) = listing os (groups.keys.filter (· ≠ [])) (fun _ => []) id :=
      ordered.listed rfl fun name held _ => by rw [ite_self]; rfl
    rw [← whole]
    exact ordered.parts.complete

end Orders

section Manual
open ManPage

def subtitle? : Entry → Option Text
  | .subheading title => some title
  | _ => none

def subtitles (es : List Entry) : List Text := es.filterMap subtitle?

@[simp] theorem subtitles_nil : subtitles [] = [] := rfl

@[simp] theorem subtitles_cons (e : Entry) (es : List Entry) :
    subtitles (e :: es) = (subtitle? e).toList ++ subtitles es := by
  rw [subtitles,List.filterMap_cons]
  cases subtitle? e <;> rfl

@[simp] theorem subtitles_append (es more : List Entry) : subtitles (es ++ more) = subtitles es ++ subtitles more :=
  List.filterMap_append

theorem subtitles_flatMap {α : Type} (f : α → List Entry) (items : List α) :
    subtitles (items.flatMap f) = items.flatMap fun a => subtitles (f a) := by
  induction items with
  | nil => rfl
  | cons a items ih => rw [List.flatMap_cons,List.flatMap_cons,subtitles_append,ih]

theorem subtitles_plain {α : Type} {f : α → List Entry} (each : ∀ a, subtitles (f a) = []) (items : List α) :
    subtitles (items.flatMap f) = [] := by
  rw [subtitles_flatMap]
  exact List.flatMap_eq_nil_iff.mpr fun a _ => each a

-- Only groups of options make subheadings, so every other part of a page has none.
@[simp] theorem subtitles_prose (t : Text) : subtitles (prose t) = [] := by
  rw [prose,List.map_eq_flatMap]
  apply subtitles_plain
  intro line
  split <;> rfl

@[simp] theorem subtitles_entry (e : Text × Text) : subtitles (entry e) = [] := by
  simp [entry,subtitle?]

@[simp] theorem subtitles_sample (s : Sample) : subtitles (sample s) = [] := by
  unfold sample
  split <;> simp [subtitle?]

@[simp] theorem subtitles_functionList (title : Text) (items : List Text) : subtitles (functionList title items) = [] := by
  unfold functionList
  split
  · rfl
  · exact subtitles_plain (fun _ => rfl) items

@[simp] theorem subtitles_function (f : FunctionDoc) : subtitles (function f) = [] := by
  unfold function
  split <;> split <;> simp [subtitle?]

@[simp] theorem subtitles_name (d : Document) : subtitles (name d) = [] := rfl

@[simp] theorem subtitles_synopsis (d : Document) : subtitles (synopsis d) = [] := by
  unfold synopsis
  split
  · rfl
  · exact subtitles_plain (fun _ => rfl) _

@[simp] theorem subtitles_remarks (d : Document) (title topic : Text) : subtitles (remarks d title topic) = [] := by
  unfold remarks
  split <;> simp [subtitle?]

@[simp] theorem subtitles_entries (title : Text) (es : List (Text × Text)) : subtitles (entries title es) = [] := by
  unfold entries
  split
  · rfl
  · exact subtitles_plain subtitles_entry es

@[simp] theorem subtitles_samples (d : Document) : subtitles (samples d) = [] := by
  unfold samples
  split
  · rfl
  · exact subtitles_plain subtitles_sample d.samples

@[simp] theorem subtitles_functions (d : Document) : subtitles (functions d) = [] := by
  unfold functions
  split
  · rfl
  · exact subtitles_plain subtitles_function d.functions

@[simp] theorem subtitles_authors (d : Document) : subtitles (authors d) = [] := by
  unfold authors
  split
  · rfl
  · exact subtitles_plain (fun _ => rfl) _

@[simp] theorem subtitles_references (d : Document) : subtitles (references d) = [] := by
  unfold references
  split <;> rfl

variable {d : Document} {context : Context}

end Manual

section Wiki
open WikiPage

-- A table of options, if there is any to put in it.
def table (os : List OptionDoc) : Text :=
  if os = [] then [] else optionTable ++ Text.each os fun o => "\n" ++ optionRow o

def tableHeading (name : Text) : Text := "\n\n### " ++ Html.escape [] name

def wikiTables (os : List OptionDoc) (names : List Text) : Text := listing os names tableHeading table

-- No bytes come before any others, so the group without a name is the first.
theorem ascending_first {names : List Text} (ascending : Ascending names) :
    names = names.filter (· = []) ++ names.filter (· ≠ []) := by
  cases names with
  | nil => rfl
  | cons name names =>
    have filled := ascending_filled ascending
    have none : names.filter (· = []) = [] := List.filter_eq_nil_iff.mpr (by simpa using filled)
    have all : names.filter (· ≠ []) = names := List.filter_eq_self.mpr (by simpa using filled)
    rw [List.filter_cons,List.filter_cons,none,all]
    by_cases empty : name = [] <;> simp [empty]

theorem sorted_groups_ascending (d : Document) : Ascending (Page.optionGroups d).sorted.keys :=
  sorted_ascending (nodup_ofItems _ d.options)

theorem sorted_groups_ordered (d : Document) : Ordered d.options (Page.optionGroups d).sorted :=
  ⟨sortedBy_perm _ _,ascending_first (sorted_groups_ascending d)⟩

theorem options_wikiTables (d : Document) :
    options d = if d.options = [] then []
      else ["## Options" ++ wikiTables d.options ((Page.optionGroups d).sorted.keys.filter (· ≠ []))] := by
  have shape : ∀ name held, held ≠ [] →
      optionGroup (name, held) = (if name = [] then [] else tableHeading name) ++ table held := by
    intro name held filled
    rw [table,if_neg filled,optionGroup,List.append_assoc]
    rfl
  rw [options,(sorted_groups_ordered d).listed rfl shape,wikiTables]

def partsBehind (d : Document) : List Text := exits d ++ Page.titled "## Functions\n\n" "\n" (d.functions.map function)

theorem parts_cut (d : Document) : ∃ front, parts d = front ++ options d ++ partsBehind d := by
  refine ⟨((d.firstText "brief").map (Html.escape [])).toList ++ usages d
    ++ ((d.fullText "desc").map (Html.escape ["<"])).toList,?_⟩
  simp only [parts,partsBehind,List.append_assoc]

end Wiki

end ScriptDoc.OptionGroups
