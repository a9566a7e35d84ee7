import ScriptDoc.Line
import ScriptDoc.Proofs.FlagReading
import ScriptDoc.Proofs.HangingText
import ScriptDoc.Proofs.OptionHeadings
import ScriptDoc.Proofs.PageLines

-- Where the lines of a wrapped description begin, and in which column of the help text.
namespace ScriptDoc.DescriptionColumn
open HelpText TextLines TextWords GreedyFill WrappedText HangingText PageLines FlagReading OptionHeadings KeyedGroups
  ManPageRequests ReachedDocuments

-- Spaces and tabs in front.
def indentation (line : Text) : Nat := (line.takeWhile isIndent).length

-- Only prose begins without the indent: a line that is already indented gets it on top of its own, though
-- it is the first.
structure Begun (own : Text) (indent : Nat) (first : Text) (rest : List Text) : Prop where
  indented : Indented own → first = Text.spaces indent ++ own
  flush : ¬ Indented own → ∀ c ∈ first.head?, isBlank c = false
  later : ∀ line ∈ rest, line ≠ [] → Text.spaces indent <+: line

section Indentation

theorem indentation_spaces (n : Nat) (line : Text) : indentation (Text.spaces n ++ line) = n + indentation line := by
  have all : ∀ c ∈ Text.spaces n, isIndent c = true := by
    intro c inside
    rw [List.eq_of_mem_replicate inside]
    decide
  rw [indentation,List.takeWhile_append_of_pos all,List.length_append,Text.spaces,List.length_replicate]
  rfl

theorem indentation_flush {line : Text} (flush : ¬ Indented line) : indentation line = 0 := by
  cases line with
  | nil => rfl
  | cons c rest =>
    have other : isIndent c = false := by simpa [Indented,isIndent] using flush
    simp [indentation,other]

theorem solid_flush {line : Text} (solid : ∀ c ∈ line.head?, isBlank c = false) : ¬ Indented line := by
  intro indented
  rcases indented with space | tab
  · cases solid ' ' space
  · cases solid '\t' tab

variable {own first : Text} {indent : Nat} {rest : List Text}

theorem Begun.indentation_eq (begun : Begun own indent first rest) :
    indentation first = indentation own + if Indented own then indent else 0 := by
  split
  · rename_i indented
    rw [begun.indented indented,indentation_spaces,Nat.add_comm]
  · rename_i flush
    rw [indentation_flush (solid_flush (begun.flush flush)),indentation_flush flush]

theorem Begun.unindented_iff (begun : Begun own indent first rest) :
    indentation first ≤ indentation own ↔ ¬ Indented own ∨ indent = 0 := by
  rw [begun.indentation_eq]
  by_cases indented : Indented own
  · simp only [indented,if_true,not_true_eq_false,false_or]
    omega
  · simp [indented]

theorem Begun.starts_iff (begun : Begun own indent first rest) :
    indent + indentation first = indent + indentation own ↔ ¬ Indented own ∨ indent = 0 := by
  rw [begun.indentation_eq]
  by_cases indented : Indented own <;> simp [indented]

end Indentation

section Wrapping
variable {indent width : Nat}

-- Prose without a word is an empty line, any other begins its first line and its other lines with a word.
theorem fillText_rows {first next : Nat} {words : List Text} (solid : ∀ word ∈ words, Solid word) :
    Text.splitOn '\n' (fillText width first next words) = [[]] ∨
      ∃ (row : List Text) (rest : List (List Text)), row ≠ [] ∧ (∀ word ∈ row, Solid word) ∧
        Text.splitOn '\n' (fillText width first next words) = lineText first row :: rest.map (lineText next) := by
  by_cases none : words = []
  · subst words
    exact .inl rfl
  · obtain ⟨row,rest,found⟩ := List.exists_cons_of_ne_nil (@fill_ne_nil width next first words none)
    have listed : row ∈ fill width first next words := by simp [found]
    refine .inr ⟨row,rest,fill_filled row listed,fill_solid solid listed,?_⟩
    rw [splitOn_fillText solid none,found]
    rfl

theorem rows_begin (rows : List (List Text)) :
    ∀ line ∈ rows.map (lineText indent), line ≠ [] → Text.spaces indent <+: line := by
  intro line member _
  obtain ⟨row,_,rfl⟩ := List.mem_map.mp member
  exact List.prefix_append _ _

theorem layout_begins {p : Paragraph} (clean : ∀ line ∈ source p, '\n' ∉ line) :
    ∀ line ∈ Text.splitOn '\n' (p.layout indent width false), line ≠ [] → Text.spaces indent <+: line := by
  cases p with
  | blank =>
    intro line member filled
    exact absurd (List.mem_singleton.mp member) filled
  | verbatim own =>
    have single : '\n' ∉ Text.spaces indent ++ own :=
      List.not_mem_append (by simp [Text.spaces]) (clean own (by simp [source]))
    intro line member _
    rw [Paragraph.layout,splitOn_clean single] at member
    rw [List.mem_singleton.mp member]
    exact List.prefix_append _ _
  | prose run =>
    have rows := @fillText_rows width indent indent _ (solid_words run)
    intro line member filled
    change line ∈ Text.splitOn '\n' (fillText width indent indent (run.flatMap Text.words)) at member
    rcases rows with empty | ⟨row,rest,_,_,found⟩
    · rw [empty] at member
      exact absurd (List.mem_singleton.mp member) filled
    · rw [found] at member
      exact rows_begin (row :: rest) line member filled

theorem wrap_begins {t first : Text} {p : Paragraph} {ps : List Paragraph} {more : List Text}
    (found : paragraphs (t.splitOn '\n') = p :: ps) (front : Text.splitOn '\n' (p.layout indent width true) = first :: more)
    (begins : ∀ line ∈ more, line ≠ [] → Text.spaces indent <+: line) :
    ∃ rest, Text.splitOn '\n' (wrap t indent width false) = first :: rest ∧
      ∀ line ∈ rest, line ≠ [] → Text.spaces indent <+: line := by
  have clean := source_clean (cut_iff.mpr found.symm)
  have lines := splitOn_join '\n' (List.cons_ne_nil (p.layout indent width true) (ps.map (·.layout indent width false)))
  rw [List.flatMap_cons,front] at lines
  refine ⟨_,(congrArg (Text.splitOn '\n') (wrap_front found)).trans lines,?_⟩
  intro line member
  rcases List.mem_append.mp member with here | later
  · exact begins line here
  · obtain ⟨out,listed,inside⟩ := List.mem_flatMap.mp later
    obtain ⟨q,among,rfl⟩ := List.mem_map.mp listed
    exact layout_begins (clean q (List.mem_cons_of_mem _ among)) line inside

theorem wrap_begun (t : Text) (indent width : Nat) :
    ∃ first rest, Text.splitOn '\n' (wrap t indent width false) = first :: rest ∧
      Begun (Text.firstLine t) indent first rest := by
  obtain ⟨others,front⟩ := splitOn_front t
  by_cases empty : Text.firstLine t = []
  · have found : paragraphs (t.splitOn '\n') = .blank :: paragraphs others := by rw [front,empty,paragraphs_blank]
    obtain ⟨rest,lines,later⟩ := @wrap_begins indent width t [] _ _ [] found rfl (by simp)
    refine ⟨[],rest,lines,?_,by simp,later⟩
    intro indented
    exact absurd empty (indented_filled indented)
  by_cases indented : Indented (Text.firstLine t)
  · have found : paragraphs (t.splitOn '\n') = .verbatim (Text.firstLine t) :: paragraphs others := by
      rw [front,paragraphs_verbatim indented]
    have own : '\n' ∉ Text.firstLine t := @sep_not_mem_splitOn '\n' t _ (by simp [front])
    have single : '\n' ∉ Text.spaces indent ++ Text.firstLine t := List.not_mem_append (by simp [Text.spaces]) own
    obtain ⟨rest,lines,later⟩ := @wrap_begins indent width t _ _ _ [] found (splitOn_clean single) (by simp)
    exact ⟨_,rest,lines,fun _ => rfl,fun flush => absurd indented flush,later⟩
  · obtain ⟨run,ps,found⟩ := paragraphs_prose empty indented others
    rw [← front] at found
    rcases @fillText_rows (width - indent) 0 indent _ (solid_words run) with silent | ⟨row,rest,filled,solid,shown⟩
    · obtain ⟨rest,lines,later⟩ := wrap_begins found silent (by simp)
      exact ⟨[],rest,lines,fun is => absurd is indented,by simp,later⟩
    · obtain ⟨rest,lines,later⟩ := wrap_begins found shown (rows_begin rest)
      refine ⟨_,rest,lines,fun is => absurd is indented,?_,later⟩
      obtain ⟨c,tail,shape,blank⟩ := row_head filled solid
      intro _ d head
      have same : lineText 0 row = c :: tail := shape
      rw [same] at head
      cases head
      exact blank

end Wrapping

section Columns
variable {l : Layout}

-- The description comes behind its term, two spaces apart at least, or on the next line.
inductive Placed (l : Layout) (term : Text) : List Text → Text → Prop where
  | beside {n : Nat} (apart : 2 ≤ n) : Placed l term [] (l.pad ++ term ++ Text.spaces n)
  | below : Placed l term [l.pad ++ term] (Text.spaces l.column)

theorem definition_lines {term description first : Text} {rest : List Text} (single : '\n' ∉ term)
    (found : description.splitOn '\n' = first :: rest) :
    ∃ before gap, Placed l term before gap ∧ gap.length = l.column ∧
      Text.splitOn '\n' (definition l term description) = before ++ (gap ++ first) :: rest := by
  have spaces : ∀ n, '\n' ∉ Text.spaces n := by simp [Text.spaces]
  have head : '\n' ∉ l.pad ++ term := List.not_mem_append (spaces _) single
  unfold definition
  dsimp only
  split
  · rename_i room
    refine ⟨[],_,.beside (n := l.column - (l.pad ++ term).length) (by omega),?_,?_⟩
    · simp only [List.length_append,Text.spaces,List.length_replicate] at room ⊢
      omega
    · exact splitOn_append_clean (List.not_mem_append head (spaces _)) found
  · refine ⟨_,_,.below,List.length_replicate,?_⟩
    have whole : l.pad ++ term ++ "\n" ++ Text.spaces l.column ++ description
        = (l.pad ++ term) ++ '\n' :: (Text.spaces l.column ++ description) := by simp
    rw [whole,splitOn_append_sep,splitOn_clean head,splitOn_append_clean (spaces _) found]

-- An option with a description on a page, and whether that stands where its column and its own indentation
-- put it.
def Described (l : Layout) (o : OptionDoc) (page : List Text) : Prop :=
  ∃ before gap first rest, Placed l o.flag.signature before gap ∧ gap.length = l.column ∧
    before ++ (gap ++ first) :: rest <:+: page ∧
    Begun (Text.firstLine (optionDescription o)) l.column first rest ∧
    (l.column + indentation first = l.column + indentation (Text.firstLine (optionDescription o)) ↔
      ¬ Indented (Text.firstLine (optionDescription o)) ∨ l.column = 0)

theorem mem_marks {os : List OptionDoc} {o : OptionDoc} (member : o ∈ os) : .option o ∈ marks os := by
  obtain ⟨group,listed,inside⟩ := List.mem_flatMap.mp ((held_ofItems (·.group) os).mem_iff.mpr member)
  exact List.mem_flatMap.mpr ⟨group,listed,List.mem_cons_of_mem _ (List.mem_map.mpr ⟨o,inside,rfl⟩)⟩

theorem helpMark_opens (m : Mark) : helpMark l m = [] ∨ ∃ rest, helpMark l m = '\n' :: rest := by
  cases m with
  | group name =>
    by_cases none : name = []
    · exact .inl (if_pos none)
    · exact .inr ⟨'\n' :: (name ++ ":"),if_neg none⟩
  | option o => exact .inr ⟨_,rfl⟩

theorem option_on_page {d : Document} {o : OptionDoc} (member : o ∈ d.options) (context : Context) :
    Text.splitOn '\n' (option (.ofContext context) o) <:+: Text.splitOn '\n' (render d context) := by
  have listed := help_listed (.ofContext context) (List.ne_nil_of_mem member)
  exact (splitOn_item helpMark_opens "Options:" (mem_marks member) rfl).trans (splitOn_assemble listed)

theorem described {d : Document} (kept : Kept d.sections) (context : Context) {o : OptionDoc} (member : o ∈ d.options)
    (told : optionDescription o ≠ []) :
    Described (.ofContext context) o (Text.splitOn '\n' (render d context)) := by
  have single : '\n' ∉ o.flag.signature := option_signature kept member ▸ (option_oneLine kept member).signature
  obtain ⟨first,rest,lines,begun⟩ :=
    wrap_begun (optionDescription o) (Layout.ofContext context).column (Layout.ofContext context).width
  obtain ⟨before,gap,placed,reaches,shown⟩ := @definition_lines (.ofContext context) _ _ _ _ single lines
  have page := option_on_page member context
  rw [option,if_neg told,option_signature kept member,shown] at page
  exact ⟨before,gap,first,rest,placed,reaches,page,begun,begun.starts_iff⟩

end Columns

theorem descriptions_begin {d : Document} (reached : Reached d) (context : Context) :
    (∀ t indent width, ∃ first rest, Text.splitOn '\n' (wrap t indent width false) = first :: rest ∧
      Begun (Text.firstLine t) indent first rest ∧
      (indentation first ≤ indentation (Text.firstLine t) ↔ ¬ Indented (Text.firstLine t) ∨ indent = 0)) ∧
    ∀ o ∈ d.options, optionDescription o ≠ [] →
      Described (.ofContext context) o (Text.splitOn '\n' (render d context)) := by
  constructor
  · intro t indent width
    obtain ⟨first,rest,lines,begun⟩ := wrap_begun t indent width
    exact ⟨first,rest,lines,begun,begun.unindented_iff⟩
  · exact fun o => described (reached_kept reached) context

theorem descriptions_begin_prose :
    let t : Text := "Show all.\n  demo -a"
    let o : OptionDoc := ⟨⟨"-a", [], []⟩, [], [], t, "-a"⟩
    let d := Document.parse "## \\option -a\n## Show all.\n##   demo -a\n" "demo"
    o ∈ d.options ∧ optionDescription o ≠ [] ∧
      render d [] = "Options:\n  -a                  Show all.\n                        demo -a\n" ∧
      (∃ first rest, Text.splitOn '\n' (wrap t 4 20 false) = first :: rest ∧ Begun (Text.firstLine t) 4 first rest ∧
        (indentation first ≤ indentation (Text.firstLine t) ↔ ¬ Indented (Text.firstLine t) ∨ 4 = 0)) ∧
      Described (.ofContext []) o (Text.splitOn '\n' (render d [])) := by
  intro t o d
  have member : o ∈ d.options := by decide +kernel
  have told : optionDescription o ≠ [] := by decide
  obtain ⟨wrapped,described⟩ := @descriptions_begin d (.text _ _) []
  exact ⟨member,told,by decide +kernel,wrapped t 4 20,described o member told⟩

-- A description that begins with code has its column twice.
theorem code_indented_twice :
    let t : Text := "  demo -a"
    let d := Document.parse "## \\option -a\n##   demo -a\n" "demo"
    Text.firstLine t ≠ [] ∧ Text.splitOn '\n' (wrap t 4 20 false) = ["      demo -a"] ∧
      ¬ indentation "      demo -a" ≤ indentation (Text.firstLine t) ∧
      render d [("option_padding", .string "8")] = "Options:\n  -a              demo -a\n" := by
  intro t d
  exact ⟨by decide,by decide,by decide,by decide +kernel⟩

end ScriptDoc.DescriptionColumn
