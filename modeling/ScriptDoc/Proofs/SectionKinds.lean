import ScriptDoc.Proofs.ReachedDocuments

namespace ScriptDoc.SectionKinds
open ReadSections KeyedGroups ReachedDocuments Grouping

def formKind : Form → Text
  | .text kind => kind.name
  | .entry kind => kind.name
  | .sample => "example"
  | .function => "function"
  | .option => "option"

theorem kind_read (form : Form) (lines : List DocLine) : (form.read lines).kind = formKind form := by
  cases form <;> rfl

theorem origin_kind {key : Text} {r : Record} (origin : Origin key r) : r.kind = formKind (.ofTag key) := by
  obtain ⟨b,rfl,rfl,_⟩ := origin
  exact kind_read _ _

-- The names that are known are those that have a form, each once.
theorem forms_names : forms.flatMap (·.1) = registeredTags := by rfl

theorem registered_form {key : Text} (known : isRegistered key = true) : ∃ e ∈ forms, key ∈ e.1 := by
  have listed := List.contains_iff_mem.mp known
  rw [← forms_names] at listed
  exact List.mem_flatMap.mp listed

theorem ofTag_unknown {key : Text} (unknown : isRegistered key = false) : Form.ofTag key = .text .plain := by
  have missing : forms.find? (·.1.contains key) = none := by
    rw [List.find?_eq_none]
    intro e member inside
    have listed : key ∈ registeredTags := by
      rw [← forms_names]
      exact List.mem_flatMap.mpr ⟨e,member,List.contains_iff_mem.mp inside⟩
    rw [isRegistered,List.contains_iff_mem.mpr listed] at unknown
    cases unknown
  rw [Form.ofTag,missing]

-- A name that is known and extends no other.
def TopLevel (key : Text) : Prop := isRegistered key = true ∧ ∀ parent ∈ registeredTags, isSubtag key parent = false

instance (key : Text) : Decidable (TopLevel key) := inferInstanceAs (Decidable (_ ∧ _))

def parents : List Text := ["example", "function", "option"]

-- The forms against the other tables: each name has the form it is listed with, and that form goes
-- by the name itself or by the name it extends, never by the one for unknown names.
theorem forms_kind : ∀ e ∈ forms, ∀ key ∈ e.1, Form.ofTag key = e.2 ∧
    ((∀ parent ∈ registeredTags, isSubtag key parent = false) → formKind e.2 = key) ∧
    (∀ parent ∈ parents, isSubtag key parent = true → formKind e.2 = parent) ∧
    formKind e.2 ≠ TextKind.plain.name := by
  decide +kernel

theorem registered_kind {key : Text} (known : isRegistered key = true) :
    (TopLevel key → formKind (.ofTag key) = key) ∧
    (∀ parent ∈ parents, isSubtag key parent = true → formKind (.ofTag key) = parent) ∧
    formKind (.ofTag key) ≠ TextKind.plain.name := by
  obtain ⟨e,member,inside⟩ := registered_form known
  obtain ⟨listed,top,sub,other⟩ := forms_kind e member key inside
  rw [listed]
  exact ⟨fun topLevel => top topLevel.2,sub,other⟩

theorem text_kind_iff (key : Text) : formKind (.ofTag key) = "text" ↔ isRegistered key = false := by
  cases known : isRegistered key with
  | true => exact ⟨fun same => absurd same (registered_kind known).2.2,fun impossible => by cases impossible⟩
  | false =>
    rw [ofTag_unknown known]
    exact ⟨fun _ => rfl,fun _ => rfl⟩

theorem ofTag_entry (kind : EntryKind) : Form.ofTag kind.name = .entry kind := by
  cases kind <;> decide +kernel

theorem ofTag_text (kind : TextKind) : Form.ofTag kind.name = .text kind := by
  cases kind <;> decide +kernel

theorem ofTag_sample : Form.ofTag "example" = .sample := by decide +kernel
theorem ofTag_function : Form.ofTag "function" = .function := by decide +kernel
theorem ofTag_option : Form.ofTag "option" = .option := by decide +kernel

theorem selected_all {α β : Type} {pick : β → Option α} {make : α → β} (picks : ∀ a, pick (make a) = some a)
    {items : List β} (all : ∀ b ∈ items, ∃ a, b = make a) : items = (items.filterMap pick).map make := by
  induction items with
  | nil => rfl
  | cons b items ih =>
    obtain ⟨a,rfl⟩ := all b (by simp)
    rw [List.filterMap_cons_some (picks a),List.map_cons,
      ← ih fun other member => all other (List.mem_cons_of_mem _ member)]

-- A section whose name asks for one form is what the selection for that form gives.
theorem section_complete {α : Type} {d : Document} (kept : Kept d.sections) {key : Text} {form : Form}
    (asks : Form.ofTag key = form) {pick : Record → Option α} {make : α → Record}
    (picks : ∀ a, pick (make a) = some a) (reads : ∀ lines, ∃ a, form.read lines = make a) :
    d.get key = ((d.get key).filterMap pick).map make := by
  apply selected_all picks
  intro r member
  obtain ⟨b,rfl,rfl,_⟩ := kept.get_origin member
  obtain ⟨a,made⟩ := reads b.lines
  exact ⟨a,by rw [← made,← asks]; rfl⟩

theorem entries_complete {d : Document} (kept : Kept d.sections) (kind : EntryKind) :
    d.get kind.name = (d.entries kind).map fun e => .entry kind e.1 e.2 := by
  apply section_complete kept (ofTag_entry kind)
  · exact fun e => by simp [Record.entryFor]
  · exact fun lines => ⟨entryOf lines,rfl⟩

theorem texts_complete {d : Document} (kept : Kept d.sections) {key : Text} {kind : TextKind}
    (asks : Form.ofTag key = .text kind) : d.get key = (d.texts key).map (.text kind) := by
  apply section_complete kept asks
  · exact fun _ => rfl
  · exact fun lines => ⟨textOf lines,rfl⟩

theorem samples_complete {d : Document} (kept : Kept d.sections) : d.get "example" = d.samples.map .sample := by
  apply section_complete kept ofTag_sample
  · exact fun _ => rfl
  · exact fun lines => ⟨sampleOf lines,rfl⟩

theorem functions_complete {d : Document} (kept : Kept d.sections) : d.get "function" = d.functions.map .function := by
  apply section_complete kept ofTag_function
  · exact fun _ => rfl
  · exact fun lines => ⟨functionOf lines,rfl⟩

theorem options_complete {d : Document} (kept : Kept d.sections) : d.get "option" = d.options.map .option := by
  apply section_complete kept ofTag_option
  · exact fun _ => rfl
  · exact fun lines => ⟨optionOf lines,rfl⟩

-- Everything that was documented is found again: under its own name, as the kind of record the name
-- asks for, and by the selection made for that kind.
structure Faithful (d : Document) : Prop where
  distinct : d.sections.keys.Nodup
  filled : ∀ e ∈ d.sections, e.2 ≠ []
  topLevel : ∀ e ∈ d.sections, TopLevel e.1 → ∀ r ∈ e.2, r.kind = e.1
  subtag : ∀ e ∈ d.sections, isRegistered e.1 = true → ∀ parent ∈ parents, isSubtag e.1 parent = true →
    ∀ r ∈ e.2, r.kind = parent
  unknown : ∀ e ∈ d.sections, ∀ r ∈ e.2, r.kind = "text" ↔ isRegistered e.1 = false
  entries : ∀ kind, d.get kind.name = (d.entries kind).map fun e => .entry kind e.1 e.2
  samples : d.get "example" = d.samples.map .sample
  functions : d.get "function" = d.functions.map .function
  options : d.get "option" = d.options.map .option
  texts : ∀ kind, d.get kind.name = (d.texts kind.name).map (.text kind)
  others : ∀ name, isRegistered name = false → d.get name = (d.texts name).map (.text .plain)

theorem kept_faithful {d : Document} (kept : Kept d.sections) : Faithful d where
  distinct := kept.distinct
  filled := kept.filled
  topLevel e member topLevel r inside := by
    rw [origin_kind (kept.origin e member r inside)]
    exact (registered_kind topLevel.1).1 topLevel
  subtag e member known parent listed extended r inside := by
    rw [origin_kind (kept.origin e member r inside)]
    exact (registered_kind known).2.1 parent listed extended
  unknown e member r inside := by
    rw [origin_kind (kept.origin e member r inside)]
    exact text_kind_iff e.1
  entries := entries_complete kept
  samples := samples_complete kept
  functions := functions_complete kept
  options := options_complete kept
  texts kind := texts_complete kept (ofTag_text kind)
  others _ unknown := texts_complete kept (ofTag_unknown unknown)

-- A document that was just read, with what reading gave block by block.
inductive Fresh : Document → List (Except ReadFault Block) → Prop where
  | stream (bytes : Utf8.Bytes) (filename : Text) :
      Fresh (Document.ofStream bytes filename).document ((Source.ofBytes bytes).blocks [])
  | text (t filename : Text) : Fresh (Document.parse t filename) ((Text.blocks [] t).map .ok)
  | file {tree : FileTree} {path : Text} {source : Source ReadFault} {reading : Reading}
      (found : tree.openSource path = .ok source) (opened : Run.documentAt tree path = .ok reading) :
      Fresh reading.document (source.blocks path)

-- Blocks go under their tags in the order in which they come; a fault leaves nothing.
structure InOrder (d : Document) (items : List (Except ReadFault Block)) : Prop where
  keys : ∀ blocks : List Block, items = blocks.map .ok → d.sections.keys = (blocks.map (·.tag)).eraseDups
  records : ∀ blocks : List Block, items = blocks.map .ok →
    ∀ key, d.get key = (blocks.filter (·.tag = key)).map (·.record)
  fault : ∀ e, .error e ∈ items → d.sections = []

theorem keys_ofBlocks (blocks : List Block) : (Sections.ofBlocks blocks).keys = (blocks.map (·.tag)).eraseDups := by
  rw [ofBlocks_eq,keys_gathered,Groups.keys,List.map_map]
  rfl

theorem get_ofBlocks (blocks : List Block) (key : Text) :
    (Sections.ofBlocks blocks).get key = (blocks.filter (·.tag = key)).map (·.record) := by
  rw [ofBlocks_eq,get_addAll,get_nil,List.nil_append,List.filter_map,List.flatMap_map]
  exact List.map_eq_flatMap.symm

theorem inOrder_ofSource (origin filename : Text) (filepath : Option Text) (source : Source ReadFault) :
    InOrder (Document.ofSource origin filename filepath source).document (source.blocks origin) := by
  rcases source_cases source with ⟨lines,rfl⟩ | ⟨lines,e,rest,rfl⟩
  · have same : ∀ blocks : List Block, Source.blocks origin (lines.map .ok : Source ReadFault) = blocks.map .ok →
        (Document.ofSource origin filename filepath (lines.map .ok)).document.sections = .ofBlocks blocks := by
      intro blocks given
      rw [blocks_ok] at given
      rw [ofSource_ok,List.map_injective_iff.mpr (fun _ _ equal => Except.ok.inj equal) given]
    refine ⟨?_,?_,?_⟩
    · intro blocks given
      rw [same blocks given,keys_ofBlocks]
    · intro blocks given key
      rw [Document.get,same blocks given,get_ofBlocks]
    · intro e member
      rw [blocks_ok] at member
      simp at member
  · have faulty : ∀ blocks : List Block,
        Source.blocks origin (lines.map .ok ++ .error e :: rest) ≠ blocks.map .ok := by
      intro blocks given
      have member : .error e ∈ blocks.map (.ok : Block → Except ReadFault Block) := by
        rw [← given,blocks_fault]
        simp
      simp at member
    refine ⟨fun blocks given => absurd given (faulty blocks),fun blocks given => absurd given (faulty blocks),?_⟩
    intro _ _
    rw [ofSource_fault]

theorem Fresh.inOrder {d : Document} {items : List (Except ReadFault Block)} (fresh : Fresh d items) :
    InOrder d items := by
  cases fresh with
  | stream bytes filename => exact inOrder_ofSource [] filename none _
  | text t filename =>
    have same : (Source.ofBytes (Utf8.encode t)).blocks [] = (Text.blocks [] t).map .ok := by
      rw [ofBytes_encode,blocks_ofText]
    rw [← same]
    exact inOrder_ofSource [] filename none _
  | file found opened =>
    obtain ⟨source,also,rfl⟩ := documentAt_parts opened
    cases Except.ok.inj (found.symm.trans also)
    exact inOrder_ofSource _ _ _ _

theorem reached_faithful {d : Document} (reached : Reached d) :
    Faithful d ∧ ∀ items, Fresh d items → InOrder d items :=
  ⟨kept_faithful (reached_kept reached),fun _ fresh => fresh.inOrder⟩

theorem reached_faithful_merged :
    Faithful (Document.merge [Document.parse "## Hi\n## \\option -a\n## \\option-group G\n" "one",
      (Document.ofStream [35, 35, 32, 64, 98, 117, 103, 10] "two").document] "both") ∧
    InOrder (Document.parse "## Hi\n## \\option -a\n" "one") ((Text.blocks [] "## Hi\n## \\option -a\n").map .ok) := by
  have reached : Reached (Document.merge [Document.parse "## Hi\n## \\option -a\n## \\option-group G\n" "one",
      (Document.ofStream [35, 35, 32, 64, 98, 117, 103, 10] "two").document] "both") :=
    .merged (List.forall_mem_cons.mpr ⟨.text _ _,List.forall_mem_cons.mpr ⟨.stream _ _,by simp⟩⟩) _
  exact ⟨(reached_faithful reached).1,(reached_faithful (.text _ _)).2 _ (.text _ _)⟩

end ScriptDoc.SectionKinds
