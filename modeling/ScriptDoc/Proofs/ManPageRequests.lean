import ScriptDoc.Proofs.FlagReading
import ScriptDoc.Proofs.ManPageParts

namespace ScriptDoc.ManPageRequests
open ManPage TextLines MarkedLines GroffLines ReachedDocuments SectionKinds ManPageParts

-- What an option takes from the value of one line each is on one line.
structure OneLine (o : OptionDoc) : Prop where
  group : '\n' ∉ o.group
  default : '\n' ∉ o.default
  flag : ∃ v, '\n' ∉ v ∧ o.flag = .ofText v
  signature : '\n' ∉ o.signature

theorem oneLine_step {draft : OptionDoc × List Text} (kept : OneLine draft.1) {line : DocLine}
    (clean : ∀ v ∈ line.value, '\n' ∉ v) : OneLine (OptionDoc.add draft line).1 := by
  unfold OptionDoc.add
  split
  · exact kept
  · rename_i value given
    have single := clean value given
    split
    · exact ⟨kept.group,kept.default,⟨value,single,rfl⟩,kept.signature⟩
    split
    · exact ⟨kept.group,single,kept.flag,kept.signature⟩
    split
    · exact ⟨single,kept.default,kept.flag,kept.signature⟩
    · exact kept

theorem oneLine_optionOf {lines : List DocLine} (clean : ∀ line ∈ lines, ∀ v ∈ line.value, '\n' ∉ v) :
    OneLine (optionOf lines) := by
  have start : OneLine (OptionDoc.empty, ([] : List Text)).1 :=
    ⟨List.not_mem_nil,List.not_mem_nil,⟨[],List.not_mem_nil,rfl⟩,List.not_mem_nil⟩
  have run := List.foldlRecOn (motive := fun draft : OptionDoc × List Text => OneLine draft.1) lines OptionDoc.add
    start fun _ kept line member => oneLine_step kept (clean line member)
  obtain ⟨v,single,same⟩ := run.flag
  have signature : (optionOf lines).signature = (Flag.ofText v).signature := congrArg Flag.signature same
  exact ⟨run.group,run.default,run.flag,signature ▸ FlagReading.signature_single single⟩

theorem prototype_step {draft : FunctionDoc × List Text} (kept : '\n' ∉ draft.1.prototype) {line : DocLine}
    (clean : ∀ v ∈ line.value, '\n' ∉ v) : '\n' ∉ (FunctionDoc.add draft line).1.prototype := by
  unfold FunctionDoc.add
  split
  · exact kept
  · rename_i value given
    simp only [apply_ite Prod.fst,apply_ite FunctionDoc.prototype,ite_self]
    split
    · exact clean value given
    · exact kept

theorem prototype_clean {lines : List DocLine} (clean : ∀ line ∈ lines, ∀ v ∈ line.value, '\n' ∉ v) :
    '\n' ∉ (functionOf lines).prototype :=
  List.foldlRecOn (motive := fun draft : FunctionDoc × List Text => '\n' ∉ draft.1.prototype) lines FunctionDoc.add
    List.not_mem_nil fun _ kept line member => prototype_step kept (clean line member)

theorem record_lines {d : Document} (kept : Kept d.sections) {key : Text} {form : Form} (asks : Form.ofTag key = form)
    {r : Record} (member : r ∈ d.get key) :
    ∃ lines, r = form.read lines ∧ ∀ line ∈ lines, ∀ v ∈ line.value, '\n' ∉ v := by
  obtain ⟨b,rfl,rfl,read⟩ := kept.get_origin member
  refine ⟨b.lines,by rw [← asks]; rfl,?_⟩
  intro line inside
  obtain ⟨m,clean,rfl⟩ := read line inside
  exact read_value_clean clean

theorem option_lines {d : Document} (kept : Kept d.sections) {o : OptionDoc} (member : o ∈ d.options) :
    ∃ lines, o = optionOf lines ∧ ∀ line ∈ lines, ∀ v ∈ line.value, '\n' ∉ v := by
  have inside : .option o ∈ d.get "option" := by
    rw [options_complete kept]
    exact List.mem_map.mpr ⟨o,member,rfl⟩
  obtain ⟨lines,made,clean⟩ := record_lines kept ofTag_option inside
  exact ⟨lines,Record.option.inj made,clean⟩

theorem option_oneLine {d : Document} (kept : Kept d.sections) {o : OptionDoc} (member : o ∈ d.options) : OneLine o := by
  obtain ⟨lines,rfl,clean⟩ := option_lines kept member
  exact oneLine_optionOf clean

-- The signature says nothing that the flag does not.
theorem option_signature {d : Document} (kept : Kept d.sections) {o : OptionDoc} (member : o ∈ d.options) :
    o.signature = o.flag.signature := by
  obtain ⟨lines,rfl,_⟩ := option_lines kept member
  rfl

theorem function_prototype_clean {d : Document} (kept : Kept d.sections) {f : FunctionDoc} (member : f ∈ d.functions) :
    '\n' ∉ f.prototype := by
  have inside : .function f ∈ d.get "function" := by
    rw [functions_complete kept]
    exact List.mem_map.mpr ⟨f,member,rfl⟩
  obtain ⟨lines,made,clean⟩ := record_lines kept ofTag_function inside
  cases made
  exact prototype_clean clean

-- The term of an entry ends where the first line does, at the latest.
theorem term_clean {lines : List DocLine} (clean : ∀ line ∈ lines, ∀ v ∈ line.value, '\n' ∉ v) :
    '\n' ∉ (entryOf lines).1 := by
  cases lines with
  | nil => exact List.not_mem_nil
  | cons first rest =>
    have value : '\n' ∉ first.value.getD [] := by
      cases given : first.value with
      | none => exact List.not_mem_nil
      | some v => exact clean first (by simp) v given
    cases found : Text.cut ' ' (first.value.getD []) with
    | none => simpa only [entryOf,found] using value
    | some parts =>
      simp only [entryOf,found]
      rw [(cut_some_iff.mp found).1] at value
      exact fun inside => value (List.mem_append_left _ inside)

theorem entry_clean {d : Document} (kept : Kept d.sections) {kind : EntryKind} {e : Text × Text} (member : e ∈ d.entries kind) :
    '\n' ∉ e.1 := by
  have inside : .entry kind e.1 e.2 ∈ d.get kind.name := by
    rw [entries_complete kept]
    exact List.mem_map.mpr ⟨e,member,rfl⟩
  obtain ⟨lines,made,clean⟩ := record_lines kept (ofTag_entry kind) inside
  have term : e.1 = (entryOf lines).1 := (Record.entry.inj made).2.1
  rw [term]
  exact term_clean clean

-- Entries become lines one after another; the last line feed leaves an empty one.
theorem splitOn_entries (es : List Entry) :
    Text.splitOn '\n' (es.flatMap fun e => e.text ++ "\n") = es.flatMap (fun e => e.text.splitOn '\n') ++ [[]] := by
  induction es with
  | nil => rfl
  | cons e es ih =>
    rw [List.flatMap_cons,List.flatMap_cons,List.append_assoc,List.append_assoc,← ih]
    exact splitOn_append_sep '\n' e.text _

theorem requests_render (d : Document) (context : Context) :
    requests (render d context) = (page d context).flatMap fun e => requests e.text := by
  rw [requests,render,splitOn_entries,List.filter_append,List.filter_flatMap]
  exact List.append_nil _

-- An entry makes at most one request, and that is on its first line.
def line? : Entry → Option Text
  | .header program chapter date version manual =>
    some (Text.firstLine (Entry.header program chapter date version manual).text)
  | .body _ => none
  | other => some other.text

def fixedRequests : List Text :=
  [".if n.ad l", ".nh", ".TP", ".PP", ".br", ".sp", ".RS", ".nf", ".fi", ".RE"]

-- Requests as the page writes them.
inductive Written (d : Document) (context : Context) : Text → Prop where
  | fixed {line : Text} (listed : line ∈ fixedRequests) : Written d context line
  | header {rest : Text} (first : Text.firstLine (header d context).text = ".TH \"" ++ rest) :
      Written d context (".TH \"" ++ rest)
  | heading {title : Text} (listed : title ∈ titles) : Written d context (".SH \"" ++ title ++ "\"")
  | subheading {o : OptionDoc} (member : o ∈ d.options) : Written d context (".SS \"" ++ Groff.escape o.group ++ "\"")
  | term {f : FunctionDoc} (member : f ∈ d.functions) :
      Written d context (".IP \"" ++ Groff.strong (Groff.escape f.prototype) ++ "\" 4")
  | label {title : Text} (listed : title ∈ labels) : Written d context (".I " ++ title)

variable {d : Document} {context : Context} {e : Entry}

theorem requests_line {t : Text} (dotted : t.head? = some '.') (clean : '\n' ∉ t) : requests t = [t] := by
  rw [requests_dot dotted (quiet_inside clean),firstLine_clean clean]

theorem inQuotes_clean {t : Text} (clean : '\n' ∉ t) : '\n' ∉ inQuotes t :=
  List.not_mem_append (List.not_mem_append (by decide) clean) (by decide)

theorem strong_clean {t : Text} (clean : '\n' ∉ t) : '\n' ∉ Groff.strong t :=
  List.not_mem_append (List.not_mem_append (by decide) clean) (by decide)

theorem header_quiet : quiet false (header d context).text = true := by
  have quoted : ∀ t, quiet true (inQuotes (Groff.escape t)) = true :=
    fun t => quiet_append (quiet_append (by decide) (quiet_escape t)) (by decide)
  apply quiet_append (by decide)
  apply quiet_join (by decide)
  intro t member
  obtain ⟨u,among,rfl⟩ := List.mem_map.mp member
  simp only [List.mem_cons,List.not_mem_nil,or_false] at among
  rcases among with rfl | rfl | rfl | rfl | rfl
  all_goals exact quoted _

-- Of what the document adds to a request, only the header can go over several lines.
theorem own_requests (kept : Kept d.sections) (own : Own d context e) : requests e.text = (line? e).toList := by
  cases own with
  | header => exact requests_dot rfl header_quiet
  | @heading title listed =>
    have clean : ∀ title ∈ titles, '\n' ∉ title := by decide
    exact requests_line rfl (List.not_mem_append (by decide) (inQuotes_clean (clean title listed)))
  | @subheading o member =>
    have clean := escape_clean (option_oneLine kept member).group
    exact requests_line rfl (List.not_mem_append (by decide) (inQuotes_clean clean))
  | @term f member =>
    have clean := strong_clean (escape_clean (function_prototype_clean kept member))
    exact requests_line rfl (List.not_mem_append (List.not_mem_append (by decide) (inQuotes_clean clean)) (by decide))
  | @label title listed =>
    have clean : ∀ title ∈ labels, '\n' ∉ title := by decide
    exact requests_line rfl (List.not_mem_append (by decide) (clean title listed))
  | request r => cases r <;> decide
  | body fine => exact requests_quiet fine

theorem term_text (title : Text) : (Entry.term title).text = ".IP \"" ++ title ++ "\" 4" := by
  have moved : title ++ "\"" ++ " 4" = title ++ ("\"" ++ " 4") := List.append_assoc _ _ _
  exact congrArg (fun t : Text => ".IP \"" ++ t) moved

theorem own_written (own : Own d context e) : ∀ line ∈ line? e, Written d context line := by
  intro line given
  cases own with
  | header =>
    cases Option.some.inj given
    exact .header rfl
  | @heading title listed =>
    cases Option.some.inj given
    exact .heading listed
  | @subheading o member =>
    cases Option.some.inj given
    exact .subheading member
  | @term f member =>
    cases Option.some.inj given
    rw [term_text]
    exact .term member
  | label listed =>
    cases Option.some.inj given
    exact .label listed
  | request r =>
    cases Option.some.inj given
    cases r <;> exact .fixed (by decide)
  | body fine => cases given

def isHeading (line : Text) : Bool := (".SH" : Text).isPrefixOf line

def headingLine (title : Text) : Text := ".SH \"" ++ title ++ "\""

theorem own_heading (own : Own d context e) :
    (line? e).toList.filter isHeading = ((title? e).map headingLine).toList := by
  cases own with
  | header => rfl
  | heading listed => rfl
  | subheading member => rfl
  | term member => rfl
  | label listed => rfl
  | request r => cases r <;> decide
  | body fine => rfl

theorem own_item (own : Own d context e) : (line? e).toList.count (".TP" : Text) = if isItem e then 1 else 0 := by
  cases own with
  | header => rfl
  | heading listed => rfl
  | subheading member => rfl
  | term member => rfl
  | label listed => rfl
  | request r => cases r <;> decide
  | body fine => rfl

theorem requests_page (kept : Kept d.sections) {es : List Entry} (own : ∀ e ∈ es, Own d context e) :
    es.flatMap (fun e => requests e.text) = es.flatMap fun e => (line? e).toList :=
  List.flatMap_congr fun e member => own_requests kept (own e member)

-- Requests of one kind, when an entry makes one of them for what it holds.
theorem chosen_page {es : List Entry} {chosen : Text → Bool} {held? : Entry → Option Text} {made : Text → Text}
    (each : ∀ e ∈ es, (line? e).toList.filter chosen = ((held? e).map made).toList) :
    (es.flatMap fun e => (line? e).toList).filter chosen = (es.filterMap held?).map made := by
  rw [List.filter_flatMap,List.flatMap_congr each,List.map_filterMap,List.filterMap_eq_flatMap_toList]

theorem headings_page {es : List Entry} (own : ∀ e ∈ es, Own d context e) :
    (es.flatMap fun e => (line? e).toList).filter isHeading = (es.filterMap title?).map headingLine :=
  chosen_page fun e member => own_heading (own e member)

theorem items_page {es : List Entry} (own : ∀ e ∈ es, Own d context e) :
    (es.flatMap fun e => (line? e).toList).count (".TP" : Text) = es.countP isItem := by
  induction es with
  | nil => rfl
  | cons e es ih =>
    have tail := ih fun other member => own other (List.mem_cons_of_mem _ member)
    rw [List.flatMap_cons,List.count_append,own_item (own e (by simp)),tail,List.countP_cons,Nat.add_comm]

theorem written_dot {line : Text} (written : Written d context line) : line.head? = some '.' := by
  cases written with
  | fixed listed =>
    have all : ∀ line ∈ fixedRequests, line.head? = some '.' := by decide
    exact all line listed
  | header first => rfl
  | heading listed => rfl
  | subheading member => rfl
  | term member => rfl
  | label listed => rfl

-- What a reader of the page takes for requests, line by line.
structure OwnRequests (d : Document) (context : Context) (lines : List Text) : Prop where
  quote : ∀ line ∈ lines, line.head? ≠ some '\''
  dot : ∀ line ∈ lines, line.head? = some '.' → Written d context line
  headings : lines.filter isHeading = (headingsOf d).map headingLine
  items : lines.count (".TP" : Text) = itemCount d

theorem filter_requests {p : Text → Bool} (only : ∀ line, p line = true → isRequest line = true) (t : Text) :
    (t.splitOn '\n').filter p = (requests t).filter p := by
  rw [requests,List.filter_filter]
  apply List.filter_congr
  intro line _
  cases chosen : p line with
  | true => simp [only line chosen]
  | false => simp

theorem requests_own (kept : Kept d.sections) (context : Context) :
    requests (render d context) = (page d context).flatMap fun e => (line? e).toList := by
  rw [requests_render,requests_page kept (composed_page kept context).own]

theorem headings_render (kept : Kept d.sections) (context : Context) :
    (Text.splitOn '\n' (render d context)).filter isHeading = (headingsOf d).map headingLine := by
  have composed := composed_page kept context
  have only : ∀ line, isHeading line = true → isRequest line = true := by
    intro line chosen
    obtain ⟨rest,rfl⟩ := List.isPrefixOf_iff_prefix.mp chosen
    rfl
  rw [filter_requests only,requests_own kept,headings_page composed.own,composed.headings]

theorem render_own_requests {d : Document} (reached : Reached d) (context : Context) :
    OwnRequests d context (Text.splitOn '\n' (render d context)) := by
  have kept := reached_kept reached
  have composed := composed_page kept context
  have written : ∀ line ∈ Text.splitOn '\n' (render d context), isRequest line = true → Written d context line := by
    intro line member request
    have listed : line ∈ requests (render d context) := List.mem_filter.mpr ⟨member,request⟩
    rw [requests_own kept] at listed
    obtain ⟨e,among,given⟩ := List.mem_flatMap.mp listed
    exact own_written (composed.own e among) line (Option.mem_toList.mp given)
  refine ⟨?_,?_,headings_render kept context,?_⟩
  · intro line member quoted
    have dotted := written_dot (written line member (by simp [isRequest,quoted,opensRequest]))
    rw [quoted] at dotted
    cases dotted
  · intro line member dotted
    exact written line member (by simp [isRequest,dotted,opensRequest])
  · have same := items_page composed.own
    rw [← requests_own kept,composed.items,requests,List.count_filter (by decide)] at same
    exact same

theorem render_own_requests_hostile :
    let d := Document.parse "## @brief .so x\n## @option -a\n## @option-group .SH\n## @bug\n" "'run"
    let lines := Text.splitOn '\n' (render d [("section", .string "1\n.TP")])
    OwnRequests d [("section", .string "1\n.TP")] lines ∧ lines.count (".TP" : Text) = 1 ∧
      lines.filter isHeading = [".SH \"NAME\"", ".SH \"OPTIONS\""] := by
  intro d lines
  have own : OwnRequests d [("section", .string "1\n.TP")] lines := render_own_requests (.text _ _) _
  refine ⟨own,own.items.trans ?_,own.headings.trans ?_⟩
  · decide +kernel
  · decide +kernel

end ScriptDoc.ManPageRequests
