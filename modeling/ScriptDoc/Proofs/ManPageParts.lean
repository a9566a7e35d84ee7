import ScriptDoc.Page.ManPage
import ScriptDoc.Proofs.GroffLines
import ScriptDoc.Proofs.SectionKinds

namespace ScriptDoc.ManPageParts
open ManPage GroffLines KeyedGroups ReachedDocuments SectionKinds

-- Headings in the order of the page, each with the section it stands over. The name comes before
-- them and stands over none.
def contents : List (Text × Text) :=
  [("SYNOPSIS", "usage"), ("DESCRIPTION", "desc"), ("OPTIONS", "option"), ("ENVIRONMENT VARIABLES", "env"),
    ("FILES", "file"), ("EXIT STATUS", "exit"), ("EXAMPLES", "example"), ("FUNCTIONS", "function"),
    ("ERRORS", "error"), ("BUGS", "bug"), ("CAVEATS", "caveat"), ("NOTES", "note"), ("HISTORY", "history"),
    ("AUTHORS", "author"), ("COPYRIGHT", "copyright"), ("LICENSE", "license"), ("SEE ALSO", "seealso")]

def titles : List Text := "NAME" :: contents.map (·.1)

def labels : List Text :=
  ["Arguments:", "Preconditions:", "Return codes:", "Standard input:", "Standard output:",
    "Standard error:", "See also:"]

-- Empty text is the only record that says nothing.
def tells : Record → Bool
  | .text _ t => t ≠ []
  | _ => true

def recorded (d : Document) (name : Text) : Bool := (d.get name).any tells

def shown (d : Document) (title name : Text) : List Text := if recorded d name then [title] else []

-- Entries that the page itself makes. What comes from the document is quiet, or behind a request that
-- stands on the same line.
inductive Own (d : Document) (context : Context) : Entry → Prop where
  | header : Own d context (header d context)
  | heading {title : Text} (listed : title ∈ titles) : Own d context (.heading title)
  | subheading {o : OptionDoc} (member : o ∈ d.options) : Own d context (.subheading (Groff.escape o.group))
  | term {f : FunctionDoc} (member : f ∈ d.functions) :
      Own d context (.term (Groff.strong (Groff.escape f.prototype)))
  | label {title : Text} (listed : title ∈ labels) : Own d context (.label title)
  | request (r : Request) : Own d context (.request r)
  | body {t : Text} (fine : quiet true t = true) : Own d context (.body t)

def title? : Entry → Option Text
  | .heading title => some title
  | _ => none

def isItem : Entry → Bool
  | .request .item => true
  | _ => false

-- A part of a page with its headings in order and the number of its items.
structure Composed (d : Document) (context : Context) (es : List Entry) (headings : List Text) (items : Nat) :
    Prop where
  own : ∀ e ∈ es, Own d context e
  headings : es.filterMap title? = headings
  items : es.countP isItem = items

variable {d : Document} {context : Context}

theorem composed_nil : Composed d context [] [] 0 := ⟨by simp,rfl,rfl⟩

theorem composed_append {first second : List Entry} {before after : List Text} {n m : Nat}
    (one : Composed d context first before n) (two : Composed d context second after m) :
    Composed d context (first ++ second) (before ++ after) (n + m) where
  own e member := (List.mem_append.mp member).elim (one.own e) (two.own e)
  headings := by rw [List.filterMap_append,one.headings,two.headings]
  items := by rw [List.countP_append,one.items,two.items]

-- Parts without headings and items change nothing.
theorem composed_more {first second : List Entry} {headings : List Text} {n : Nat}
    (one : Composed d context first headings n) (two : Composed d context second [] 0) :
    Composed d context (first ++ second) headings n := by
  have whole := composed_append one two
  rwa [List.append_nil] at whole

theorem composed_cons {e : Entry} (own : Own d context e) {es : List Entry} {headings : List Text} {n : Nat}
    (rest : Composed d context es headings n) :
    Composed d context (e :: es) ((title? e).toList ++ headings) (n + if isItem e then 1 else 0) where
  own other member := (List.mem_cons.mp member).elim (fun same => same ▸ own) (rest.own other)
  headings := by
    rw [List.filterMap_cons,← rest.headings]
    cases title? e <;> rfl
  items := by rw [List.countP_cons,rest.items]

theorem composed_body {t : Text} (fine : quiet true t = true) {es : List Entry} {headings : List Text} {n : Nat}
    (rest : Composed d context es headings n) : Composed d context (.body t :: es) headings n :=
  composed_cons (.body fine) rest

theorem composed_request {r : Request} (other : r ≠ .item) {es : List Entry} {headings : List Text} {n : Nat}
    (rest : Composed d context es headings n) : Composed d context (.request r :: es) headings n := by
  have whole := composed_cons (.request r) rest
  cases r with
  | item => exact absurd rfl other
  | _ => exact whole

theorem composed_item {es : List Entry} {headings : List Text} {n : Nat} (rest : Composed d context es headings n) :
    Composed d context (.request .item :: es) headings (n + 1) :=
  composed_cons (.request .item) rest

theorem composed_heading {title : Text} (listed : title ∈ titles) {es : List Entry} {n : Nat}
    (rest : Composed d context es [] n) : Composed d context (.heading title :: es) [title] n :=
  composed_cons (.heading listed) rest

theorem composed_flatMap {α β : Type} {f : α → List Entry} {held : α → List β} {items : List α}
    (each : ∀ a ∈ items, Composed d context (f a) [] (held a).length) :
    Composed d context (items.flatMap f) [] (items.flatMap held).length := by
  induction items with
  | nil => exact composed_nil
  | cons a items ih =>
    rw [List.flatMap_cons,List.flatMap_cons,List.length_append]
    exact composed_append (each a (by simp)) (ih fun other member => each other (List.mem_cons_of_mem _ member))

theorem composed_items {α : Type} {f : α → List Entry} {items : List α}
    (each : ∀ a ∈ items, Composed d context (f a) [] 1) : Composed d context (items.flatMap f) [] items.length := by
  have whole := @composed_flatMap d context α α f (fun a => [a]) items each
  rwa [List.flatMap_singleton'] at whole

theorem composed_plain {α : Type} {f : α → List Entry} {items : List α}
    (each : ∀ a ∈ items, Composed d context (f a) [] 0) : Composed d context (items.flatMap f) [] 0 := by
  have whole := @composed_flatMap d context α α f (fun _ => []) items each
  rwa [List.flatMap_eq_nil_iff.mpr fun _ _ => rfl] at whole

theorem composed_prose (t : Text) : Composed d context (prose t) [] 0 := by
  have each : ∀ line ∈ t.lines, Composed d context
      [if line.all isBlank then .request .paragraph else .body (Groff.autoEscaped line)] [] 0 := by
    intro line _
    split
    · exact composed_request (by decide) composed_nil
    · exact composed_body (quiet_autoEscaped line) composed_nil
  have whole := composed_plain each
  rwa [← List.map_eq_flatMap] at whole

theorem composed_option (o : OptionDoc) : Composed d context (option o) [] 1 := by
  have front : Composed d context [.request .item, .body (Groff.autoEscaped (Page.flagText o))] [] 1 :=
    composed_item (composed_body (quiet_autoEscaped _) composed_nil)
  have last : Composed d context
      (if o.default = [] then [] else [.body ("Default: " ++ Groff.strong (Groff.escape o.default))]) [] 0 := by
    split
    · exact composed_nil
    · exact composed_body (quiet_append (by decide) (quiet_strong (quiet_escape _))) composed_nil
  exact composed_more (composed_more front (composed_prose o.description)) last

theorem composed_optionGroup {group : Text × List OptionDoc} (named : ∃ o ∈ d.options, o.group = group.1) :
    Composed d context (optionGroup group) [] group.2.length := by
  have front : Composed d context (if group.1 = [] then [] else [.subheading (Groff.escape group.1)]) [] 0 := by
    obtain ⟨o,member,same⟩ := named
    rw [← same]
    split
    · exact composed_nil
    · exact composed_cons (.subheading member) composed_nil
  have back := @composed_items d context _ option group.2 fun o _ => composed_option o
  have whole := composed_append front back
  rwa [Nat.zero_add] at whole

theorem groupsInOrder_perm (groups : Groups Text OptionDoc) : (groupsInOrder groups).Perm groups :=
  List.mergeSort_perm _ _

-- Grouping and putting some groups first keeps every option.
theorem composed_optionGroups :
    Composed d context ((groupsInOrder (Page.optionGroups d)).flatMap optionGroup) [] d.options.length := by
  have order := groupsInOrder_perm (Page.optionGroups d)
  have each : ∀ group ∈ groupsInOrder (Page.optionGroups d),
      Composed d context (optionGroup group) [] group.2.length := by
    intro group member
    exact composed_optionGroup (mem_ofItems (order.mem_iff.mp member))
  have all := ((order.flatMap_right (·.2)).trans (held_ofItems (·.group) d.options)).length_eq
  rw [← all]
  exact composed_flatMap each

theorem composed_entry (e : Text × Text) : Composed d context (entry e) [] 1 :=
  composed_item (composed_body (quiet_strong (quiet_escape e.1)) (composed_prose e.2))

theorem composed_sample (s : Sample) : Composed d context (sample s) [] 1 := by
  have front : Composed d context [.request .item, .body (Groff.strong (Groff.escape s.brief))] [] 1 :=
    composed_item (composed_body (quiet_strong (quiet_escape _)) composed_nil)
  have code : Composed d context
      (if s.code = [] then []
      else [.request .indent, .request .asIs, .body (Groff.verbatim s.code), .request .fill,
        .request .outdent]) [] 0 := by
    split
    · exact composed_nil
    · apply composed_request (by decide)
      apply composed_request (by decide)
      apply composed_body (quiet_verbatim s.code)
      apply composed_request (by decide)
      exact composed_request (by decide) composed_nil
  exact composed_more (composed_more front code) (composed_prose s.description)

theorem composed_functionList {title : Text} (listed : title ∈ labels) (items : List Text) :
    Composed d context (functionList title items) [] 0 := by
  unfold functionList
  split
  · exact composed_nil
  · have each : ∀ item ∈ items, Composed d context
        [.request .lineBreak, .body ("  " ++ Groff.autoEscaped item)] [] 0 := by
      intro item _
      apply composed_request (by decide)
      exact composed_body (quiet_append (by decide) (quiet_autoEscaped item)) composed_nil
    apply composed_request (by decide)
    exact composed_cons (.label listed) (composed_plain each)

theorem composed_function {f : FunctionDoc} (member : f ∈ d.functions) : Composed d context (function f) [] 0 := by
  have term := composed_cons (@Own.term d context f member) composed_nil
  have brief : Composed d context (if f.brief = [] then [] else [.body (Groff.autoEscaped f.brief)]) [] 0 := by
    split
    · exact composed_nil
    · exact composed_body (quiet_autoEscaped f.brief) composed_nil
  have description : Composed d context
      (if f.description = [] then [] else .request .lineBreak :: prose f.description) [] 0 := by
    split
    · exact composed_nil
    · exact composed_request (by decide) (composed_prose f.description)
  have list : ∀ title ∈ labels, ∀ items, Composed d context (functionList title items) [] 0 :=
    fun _ listed items => composed_functionList listed items
  unfold function
  refine composed_more ?_ (list _ (by decide) _)
  refine composed_more ?_ (list _ (by decide) _)
  refine composed_more ?_ (list _ (by decide) _)
  refine composed_more ?_ (list _ (by decide) _)
  refine composed_more ?_ (list _ (by decide) _)
  refine composed_more ?_ (list _ (by decide) _)
  refine composed_more ?_ (list _ (by decide) _)
  exact composed_more (composed_more term brief) description

theorem recorded_made {α : Type} {name : Text} {items : List α} {make : α → Record}
    (complete : d.get name = items.map make) (telling : ∀ a, tells (make a) = true) :
    recorded d name = !items.isEmpty := by
  rw [recorded,complete]
  cases items with
  | nil => rfl
  | cons a items => simp [telling]

theorem recorded_text {name : Text} {kind : TextKind} (complete : d.get name = (d.texts name).map (.text kind)) :
    recorded d name = !((d.texts name).filter (· ≠ [])).isEmpty := by
  rw [recorded,complete,List.any_map]
  rw [Bool.eq_iff_iff]
  simp [tells]

theorem composed_shown {α : Type} {items : List α} {title name : Text} (present : recorded d name = !items.isEmpty)
    {es : List Entry} {n : Nat} (without : items = [] → Composed d context es [] n)
    (headed : items ≠ [] → Composed d context es [title] n) : Composed d context es (shown d title name) n := by
  unfold shown
  rw [present]
  cases items with
  | nil => exact without rfl
  | cons a items => exact headed (by simp)

theorem composed_part {α : Type} [DecidableEq α] {items : List α} {title name : Text} (listed : title ∈ titles)
    (present : recorded d name = !items.isEmpty) {es : List Entry} {n : Nat} (back : Composed d context es [] n)
    (none : items = [] → n = 0) :
    Composed d context (if items = [] then [] else .heading title :: es) (shown d title name) n := by
  apply composed_shown present
  · intro empty
    rw [if_pos empty,none empty]
    exact composed_nil
  · intro filled
    rw [if_neg filled]
    exact composed_heading listed back

theorem composed_options (kept : Kept d.sections) :
    Composed d context (options d) (shown d "OPTIONS" "option") (d.get "option").length := by
  have complete := options_complete kept
  rw [complete,List.length_map]
  apply composed_part (by decide) (recorded_made complete fun _ => rfl) composed_optionGroups
  exact fun empty => by rw [empty]; rfl

theorem composed_entries (kept : Kept d.sections) {title : Text} (listed : title ∈ titles) (kind : EntryKind) :
    Composed d context (entries title (d.entries kind)) (shown d title kind.name) (d.get kind.name).length := by
  have complete := entries_complete kept kind
  have back := @composed_items d context _ entry (d.entries kind) fun e _ => composed_entry e
  rw [complete,List.length_map]
  apply composed_part listed (recorded_made complete fun _ => rfl) back
  exact fun empty => by rw [empty]; rfl

theorem composed_samples (kept : Kept d.sections) :
    Composed d context (samples d) (shown d "EXAMPLES" "example") (d.get "example").length := by
  have complete := samples_complete kept
  have back := @composed_items d context _ sample d.samples fun s _ => composed_sample s
  rw [complete,List.length_map]
  apply composed_part (by decide) (recorded_made complete fun _ => rfl) back
  exact fun empty => by rw [empty]; rfl

theorem composed_functions (kept : Kept d.sections) :
    Composed d context (functions d) (shown d "FUNCTIONS" "function") 0 := by
  have complete := functions_complete kept
  have back := @composed_plain d context _ function d.functions fun f member => composed_function member
  exact composed_part (by decide) (recorded_made complete fun _ => rfl) back fun _ => rfl

theorem composed_synopsis (kept : Kept d.sections) :
    Composed d context (synopsis d) (shown d "SYNOPSIS" "usage") 0 := by
  have fine : ∀ u : Text × Text, quiet true (Groff.strong (Groff.escape u.1) ++ " " ++ Groff.autoEscaped u.2) = true :=
    fun u => quiet_append (quiet_append (quiet_strong (quiet_escape u.1)) (by decide)) (quiet_autoEscaped u.2)
  apply composed_shown (recorded_made (entries_complete kept .usage) fun _ => rfl)
  · intro empty
    rw [synopsis,empty]
    exact composed_nil
  · intro filled
    unfold synopsis
    split
    · contradiction
    · rename_i first rest _
      have back := @composed_plain d context _ (fun u => [.request .lineBreak, usage u]) rest fun u _ =>
        composed_request (by decide) (composed_body (fine u) composed_nil)
      exact composed_heading (by decide) (composed_body (fine first) back)

theorem composed_remarks (kept : Kept d.sections) {title : Text} (listed : title ∈ titles) (kind : TextKind) :
    Composed d context (remarks d title kind.name) (shown d title kind.name) 0 := by
  apply composed_shown (recorded_text (texts_complete kept (ofTag_text kind)))
  · intro silent
    rw [remarks,Document.fullText,silent]
    exact composed_nil
  · intro telling
    unfold remarks Document.fullText
    split
    · rename_i none
      split at none
      · contradiction
      · cases none
    · exact composed_heading listed (composed_prose _)

theorem composed_authors (kept : Kept d.sections) :
    Composed d context (authors d) (shown d "AUTHORS" "author") 0 := by
  apply composed_shown (recorded_text (texts_complete kept (ofTag_text .author)))
  · intro silent
    unfold authors
    split
    · exact composed_nil
    · contradiction
  · intro telling
    unfold authors
    split
    · contradiction
    · apply composed_heading (by decide)
      exact composed_plain fun n _ => composed_request (by decide) (composed_body (quiet_escape n) composed_nil)

theorem composed_references (kept : Kept d.sections) :
    Composed d context (references d) (shown d "SEE ALSO" "seealso") 0 := by
  apply composed_shown (recorded_text (texts_complete kept (ofTag_text .seealso)))
  · intro silent
    unfold references
    split
    · exact composed_nil
    · contradiction
  · intro telling
    unfold references
    split
    · contradiction
    · exact composed_heading (by decide) (composed_body (quiet_autoEscaped _) composed_nil)

theorem composed_name : Composed d context (name d) ["NAME"] 0 := by
  apply composed_heading (by decide)
  apply composed_body _ composed_nil
  split
  · exact quiet_append (quiet_append (quiet_escape _) (by decide)) (quiet_autoEscaped _)
  · exact quiet_escape _

def itemized : List Text := ["option", "env", "file", "exit", "example"]

def itemCount (d : Document) : Nat := (itemized.flatMap d.get).length

def headingsOf (d : Document) : List Text := "NAME" :: (contents.filter fun e => recorded d e.2).map (·.1)

theorem shown_contents (table : List (Text × Text)) :
    table.flatMap (fun e => shown d e.1 e.2) = (table.filter fun e => recorded d e.2).map (·.1) := by
  induction table with
  | nil => rfl
  | cons e table ih =>
    rw [List.flatMap_cons,ih,shown,List.filter_cons]
    split <;> rfl

theorem composed_page (kept : Kept d.sections) (context : Context) :
    Composed d context (page d context) (headingsOf d) (itemCount d) := by
  have remark : ∀ (kind : TextKind) (title : Text), title ∈ titles →
      Composed d context (remarks d title kind.name) (shown d title kind.name) 0 :=
    fun kind _ listed => composed_remarks kept listed kind
  have list : ∀ (kind : EntryKind) (title : Text), title ∈ titles →
      Composed d context (entries title (d.entries kind)) (shown d title kind.name) (d.get kind.name).length :=
    fun kind _ listed => composed_entries kept listed kind
  have written : Composed d context [.request .adjust, .request .noHyphen, header d context] [] 0 :=
    composed_request (by decide) (composed_request (by decide) (composed_cons .header composed_nil))
  have written := composed_append written composed_name
  have written := composed_append written (composed_synopsis kept)
  have written := composed_append written (remark .desc "DESCRIPTION" (by decide))
  have written := composed_append written (composed_options kept)
  have written := composed_append written (list .env "ENVIRONMENT VARIABLES" (by decide))
  have written := composed_append written (list .file "FILES" (by decide))
  have written := composed_append written (list .exit "EXIT STATUS" (by decide))
  have written := composed_append written (composed_samples kept)
  have written := composed_append written (composed_functions kept)
  have written := composed_append written (remark .error "ERRORS" (by decide))
  have written := composed_append written (remark .bug "BUGS" (by decide))
  have written := composed_append written (remark .caveat "CAVEATS" (by decide))
  have written := composed_append written (remark .note "NOTES" (by decide))
  have written := composed_append written (remark .history "HISTORY" (by decide))
  have written := composed_append written (composed_authors kept)
  have written := composed_append written (remark .copyright "COPYRIGHT" (by decide))
  have written := composed_append written (remark .license "LICENSE" (by decide))
  have written := composed_append written (composed_references kept)
  refine ⟨written.own,written.headings.trans ?_,written.items.trans ?_⟩
  · rw [headingsOf,← shown_contents]
    simp only [contents,List.flatMap_cons,List.flatMap_nil,List.append_assoc,List.append_nil,List.nil_append]
    rfl
  · simp only [itemCount,itemized,List.flatMap_cons,List.flatMap_nil,List.length_append,List.length_nil,
      Nat.add_assoc,Nat.add_zero,Nat.zero_add]
    rfl

end ScriptDoc.ManPageParts
