import ScriptDoc.Proofs.DataPage
import ScriptDoc.Proofs.Merging
import ScriptDoc.Template

namespace ScriptDoc.UnknownTags
open TextLines MarkedLines Grouping ReadSections KeyedGroups SectionKinds Merging

-- All that a page laid out for readers can tell of a document.
structure Agree (d e : Document) : Prop where
  filename : d.filename = e.filename
  known : ∀ name, isRegistered name = true → d.get name = e.get name

theorem known_form {name : Text} {form : Form} (asks : Form.ofTag name = form) (other : form ≠ .text .plain) :
    isRegistered name = true := by
  cases known : isRegistered name with
  | true => rfl
  | false => exact absurd (asks.symm.trans (ofTag_unknown known)) other

-- The sections that some page reads as texts.
def textNames : List Text :=
  ["brief", "desc", "note", "caveat", "bug", "error", "history", "author", "copyright", "license",
    "seealso", "version", "date"]

theorem textNames_known : ∀ name ∈ textNames, isRegistered name = true := by decide +kernel

namespace Agree
variable {d e : Document}

theorem entries (agree : Agree d e) (kind : EntryKind) : d.entries kind = e.entries kind := by
  rw [Document.entries,Document.entries,agree.known _ (known_form (ofTag_entry kind) (by simp))]

theorem samples (agree : Agree d e) : d.samples = e.samples := by
  rw [Document.samples,Document.samples,agree.known _ (known_form ofTag_sample (by simp))]

theorem functions (agree : Agree d e) : d.functions = e.functions := by
  rw [Document.functions,Document.functions,agree.known _ (known_form ofTag_function (by simp))]

theorem options (agree : Agree d e) : d.options = e.options := by
  rw [Document.options,Document.options,agree.known _ (known_form ofTag_option (by simp))]

theorem texts (agree : Agree d e) (name : Text) (read : name ∈ textNames) : d.texts name = e.texts name := by
  rw [Document.texts,Document.texts,agree.known name (textNames_known name read)]

theorem firstText (agree : Agree d e) (name : Text) (read : name ∈ textNames) :
    d.firstText name = e.firstText name := by
  rw [Document.firstText,Document.firstText,agree.texts name read]

theorem fullText (agree : Agree d e) (name : Text) (read : name ∈ textNames) :
    d.fullText name = e.fullText name := by
  rw [Document.fullText,Document.fullText,agree.texts name read]

theorem program (agree : Agree d e) : d.program = e.program := by
  rw [Document.program,Document.program,agree.entries,agree.filename]

theorem optionGroups (agree : Agree d e) : Page.optionGroups d = Page.optionGroups e := by
  rw [Page.optionGroups,Page.optionGroups,agree.options]

theorem valueOrText (agree : Agree d e) (context : Context) (name : Text) (read : name ∈ textNames) :
    Page.valueOrText d context name = Page.valueOrText e context name := by
  rw [Page.valueOrText,Page.valueOrText,agree.firstText name read]

theorem usageBlock (agree : Agree d e) : HelpText.usageBlock d = HelpText.usageBlock e := by
  rw [HelpText.usageBlock,HelpText.usageBlock,agree.entries]

theorem helpText (agree : Agree d e) (context : Context) : HelpText.render d context = HelpText.render e context := by
  simp (disch := decide) only [HelpText.render,HelpText.parts,HelpText.options,HelpText.remarks,
    agree.usageBlock,agree.entries,agree.samples,agree.functions,agree.options,agree.optionGroups,
    agree.firstText,agree.fullText]

theorem usageText (agree : Agree d e) : HelpText.renderUsage d = HelpText.renderUsage e := by
  rw [HelpText.renderUsage,HelpText.renderUsage,agree.usageBlock]

theorem manPage (agree : Agree d e) (context : Context) : ManPage.render d context = ManPage.render e context := by
  -- The equations of the longest pages are slow to derive.
  delta ManPage.render ManPage.page
  simp (disch := decide) only [ManPage.header,ManPage.name,ManPage.synopsis,
    ManPage.remarks,ManPage.options,ManPage.samples,ManPage.functions,ManPage.authors,ManPage.references,
    agree.program,agree.entries,agree.samples,agree.functions,agree.options,agree.optionGroups,agree.texts,
    agree.firstText,agree.fullText,agree.valueOrText]

theorem markdown (agree : Agree d e) (context : Context) : Markdown.render d context = Markdown.render e context := by
  delta Markdown.render Markdown.parts
  simp (disch := decide) only [Markdown.title,Markdown.versionAndDate,
    Markdown.synopsis,Markdown.remarks,Markdown.options,Markdown.bullets,agree.program,agree.entries,
    agree.samples,agree.functions,agree.options,agree.optionGroups,agree.texts,agree.firstText,agree.fullText,
    agree.valueOrText]

theorem wikiPage (agree : Agree d e) : WikiPage.render d = WikiPage.render e := by
  simp (disch := decide) only [WikiPage.render,WikiPage.parts,WikiPage.usages,WikiPage.options,
    WikiPage.exits,agree.entries,agree.functions,agree.options,agree.optionGroups,agree.firstText,agree.fullText]

theorem render (agree : Agree d e) {template : Template} (laidOut : template ≠ .json) (context : Context) :
    template.render d context = template.render e context := by
  cases template with
  | helpText => exact agree.helpText context
  | usageText => exact agree.usageText
  | manPage => exact agree.manPage context
  | markdown => exact agree.markdown context
  | wikiPage => exact agree.wikiPage
  | json => exact absurd rfl laidOut

end Agree

-- A text put between two others whose marked lines make one block of their own, under a tag that is
-- not known, and which leaves its neighbours as far apart as they were.
structure Inserted (a u b tag : Text) : Prop where
  unknown : isRegistered tag = false
  opens : ∃ m ∈ (Text.marked [] u).head?, m.read.tag = some tag
  goesOn : ∀ m ∈ (Text.marked [] u).tail, ∀ sub ∈ m.read.tag, isSubtag sub tag = true
  before : ∀ last ∈ (Text.blocks [] a).getLast?, isSubtag tag last.tag = false
  behind : ∀ m ∈ (Text.marked [] b).head?, ∃ next ∈ m.read.tag,
    isSubtag next tag = false ∧ ∀ last ∈ (Text.blocks [] a).getLast?, isSubtag next last.tag = false

theorem apart_of {a b : Text} (breaks : ∀ last ∈ (Text.blocks [] a).getLast?, ∀ m ∈ (Text.marked [] b).head?,
    ∃ tag ∈ m.read.tag, isSubtag tag last.tag = false) : Apart a b := by
  cases opens : Text.marked [] b with
  | nil => exact .inr (.inl opens)
  | cons m rest =>
    cases ends : (Text.blocks [] a).getLast? with
    | none =>
      have none : blocksOf (documented [] a) = [] := by
        rw [← blocks_eq]
        exact List.getLast?_eq_none_iff.mp ends
      have whole := (division_blocksOf (documented [] a)).whole
      rw [none,List.flatMap_nil,← read_marked] at whole
      exact .inl (List.map_eq_nil_iff.mp whole.symm)
    | some last =>
      have first : m ∈ (Text.marked [] b).head? := by rw [opens]; rfl
      exact .inr (.inr ⟨last,ends,m,first,breaks last ends m first⟩)

theorem blockEntries_eq (t : Text) : blockEntries t = (Text.blocks [] t).map blockEntry := by
  rw [blockEntries,blocksOf_bare,← blocks_eq,List.map_map]
  exact List.map_congr_left fun b _ => blockEntry_bare b

-- The tag under which the last block stands can be told from the entries alone.
theorem last_tag {t tag : Text} {front : Groups Text Record} {records : List Record}
    (entries : blockEntries t = front ++ [(tag, records)]) : ∀ last ∈ (Text.blocks [] t).getLast?, last.tag = tag := by
  intro last ends
  rw [blockEntries_eq] at entries
  have mapped := congrArg List.getLast? entries
  rw [List.getLast?_map,Option.mem_def.mp ends,List.getLast?_concat] at mapped
  exact congrArg Prod.fst (Option.some.inj mapped)

namespace Inserted
variable {a u b tag : Text}

theorem blocks (inserted : Inserted a u b tag) : ∃ block : Block, block.tag = tag ∧ Text.blocks [] u = [block] := by
  obtain ⟨m,opens,tagged⟩ := inserted.opens
  have goesOn := inserted.goesOn
  cases lines : Text.marked [] u with
  | nil => rw [lines] at opens; cases opens
  | cons first rest =>
    rw [lines] at opens goesOn
    cases Option.some.inj opens
    have named : (⟨m.read,rest.map (·.read)⟩ : Block).tag = tag := by simp [Block.tag,tagged]
    refine ⟨⟨m.read,rest.map (·.read)⟩,named,?_⟩
    rw [Text.blocks,lines]
    apply Division.blocksOf_eq
    refine ⟨by simp [Block.lines],?_,.singleton _⟩
    intro block member line inside
    cases List.mem_singleton.mp member
    obtain ⟨origin,later,rfl⟩ := List.mem_map.mp inside
    rw [named]
    exact goesOn origin later

theorem entries (inserted : Inserted a u b tag) : ∃ r, blockEntries u = [(tag, [r])] := by
  obtain ⟨block,named,alone⟩ := inserted.blocks
  exact ⟨block.record,by rw [blockEntries_eq,alone,← named]; rfl⟩

theorem apart_front (inserted : Inserted a u b tag) : Apart a u := by
  apply apart_of
  intro last ends m first
  obtain ⟨opening,opens,tagged⟩ := inserted.opens
  cases Option.some.inj (first.symm.trans opens)
  exact ⟨tag,tagged,inserted.before last ends⟩

theorem apart_across (inserted : Inserted a u b tag) : Apart a b := by
  apply apart_of
  intro last ends m first
  obtain ⟨next,tagged,_,foreign⟩ := inserted.behind m first
  exact ⟨next,tagged,foreign last ends⟩

theorem apart_back (inserted : Inserted a u b tag) (ended : Ended a) : Apart (a ++ u) b := by
  apply apart_of
  intro last ends m first
  obtain ⟨r,alone⟩ := inserted.entries
  have whole := blockEntries_append ended inserted.apart_front
  rw [alone] at whole
  obtain ⟨next,tagged,foreign,_⟩ := inserted.behind m first
  exact ⟨next,tagged,by rw [last_tag whole last ends]; exact foreign⟩

end Inserted

theorem ended_append {a u : Text} (ended : Ended a) (closed : Ended u) : Ended (a ++ u) := by
  rcases closed with rfl | last
  · rwa [List.append_nil]
  · exact .inr (by rw [List.getLast?_append,last]; rfl)

theorem sections_inserted {a u b tag : Text} (ended : Ended a) (closed : Ended u) (inserted : Inserted a u b tag)
    (filename : Text) : ∃ r, (Document.parse (a ++ u ++ b) filename).sections
        = Groups.addAll [] (blockEntries a ++ [(tag, [r])] ++ blockEntries b) ∧
      (Document.parse (a ++ b) filename).sections = Groups.addAll [] (blockEntries a ++ blockEntries b) := by
  obtain ⟨r,alone⟩ := inserted.entries
  refine ⟨r,?_,?_⟩
  · rw [parse_gathered,blockEntries_append (ended_append ended closed) (inserted.apart_back ended),
      blockEntries_append ended inserted.apart_front,alone]
  · rw [parse_gathered,blockEntries_append ended inserted.apart_across]

-- Only the section of the tag itself is longer.
theorem get_inserted {a u b tag : Text} (ended : Ended a) (closed : Ended u) (inserted : Inserted a u b tag)
    (filename : Text) :
    (∀ name, name ≠ tag →
      (Document.parse (a ++ u ++ b) filename).get name = (Document.parse (a ++ b) filename).get name) ∧
    ((Document.parse (a ++ u ++ b) filename).get tag).length
      = ((Document.parse (a ++ b) filename).get tag).length + 1 := by
  obtain ⟨r,longer,shorter⟩ := sections_inserted ended closed inserted filename
  refine ⟨?_,?_⟩
  · intro name other
    rw [Document.get,Document.get,longer,shorter,get_addAll,get_addAll]
    simp [Ne.symm other]
  · rw [Document.get,Document.get,longer,shorter,get_addAll,get_addAll]
    simp
    omega

theorem parse_filename (t filename : Text) : (Document.parse t filename).filename = filename := by
  rw [Document.parse,Document.ofStream,ofBytes_encode,Source.ofText,ofSource_ok]

theorem agree_inserted {a u b tag : Text} (ended : Ended a) (closed : Ended u) (inserted : Inserted a u b tag)
    (filename : Text) : Agree (Document.parse (a ++ u ++ b) filename) (Document.parse (a ++ b) filename) where
  filename := by rw [parse_filename,parse_filename]
  known name known := by
    apply (get_inserted ended closed inserted filename).1
    rintro rfl
    rw [inserted.unknown] at known
    cases known

-- A block under an unknown tag shows in the data of a document and on no other page.
theorem unknown_block_unseen {a u b tag : Text} (ended : Ended a) (closed : Ended u) (inserted : Inserted a u b tag)
    (filename : Text) (context : Context) :
    (∀ template : Template, template ≠ .json →
      template.render (Document.parse (a ++ u ++ b) filename) context
        = template.render (Document.parse (a ++ b) filename) context) ∧
    Template.json.render (Document.parse (a ++ u ++ b) filename) context
      ≠ Template.json.render (Document.parse (a ++ b) filename) context := by
  refine ⟨fun template laidOut => (agree_inserted ended closed inserted filename).render laidOut context,?_⟩
  intro same
  have equal := DataPage.document_inj (JsonText.prettyAt_cut (DataPage.worded_document _)
    (DataPage.worded_document _) 0 _ _ same).1
  have longer := (get_inserted ended closed inserted filename).2
  rw [equal] at longer
  omega

def manual : Text := "## \\usage run [-x]\n## \\option -x\n##  Cross out.\n"
def todo : Text := "run\n  ## @todo Say more.\n##  Soon.\n## \\todo-who me\n"
def errata : Text := "## \\bug None.\n## none\n"

theorem todo_inserted : Inserted manual todo errata "todo" where
  unknown := by decide +kernel
  opens := ⟨_,rfl,rfl⟩
  goesOn := by decide
  before := by decide
  behind := by decide

theorem unknown_block_unseen_todo :
    Ended manual ∧ Ended todo ∧ Inserted manual todo errata "todo" ∧
    ManPage.render (Document.parse (manual ++ todo ++ errata) "run.sh") []
      = ManPage.render (Document.parse (manual ++ errata) "run.sh") [] ∧
    (Document.parse (manual ++ todo ++ errata) "run.sh").renderJson
      ≠ (Document.parse (manual ++ errata) "run.sh").renderJson := by
  have ended : Ended manual := by decide
  have closed : Ended todo := by decide
  obtain ⟨unseen,shown⟩ := unknown_block_unseen ended closed todo_inserted "run.sh" []
  exact ⟨ended,closed,todo_inserted,unseen .manPage (by simp),shown⟩

end ScriptDoc.UnknownTags
