import ScriptDoc.Proofs.FlagReading
import ScriptDoc.Proofs.HtmlEscaping
import ScriptDoc.Proofs.OptionGroups
import ScriptDoc.Proofs.PageLines

-- How many cells the rows of a table have on the wiki page.
namespace ScriptDoc.TableRows
open WikiPage TextLines PageLines OptionGroups ManPageRequests ReachedDocuments SectionKinds FlagReading

-- The bars that end a cell: those without a backslash before them. The side says whether a backslash
-- stands before the text.
def barsFrom : Bool → Text → Nat
  | _, [] => 0
  | behind, c :: rest => (if c = '|' ∧ behind = false then 1 else 0) + barsFrom (c == '\\') rest

def bars (t : Text) : Nat := barsFrom false t

section Bars

-- A character that is neither bar nor backslash keeps what is on its two sides apart.
theorem barsFrom_apart {c : Char} (bar : c ≠ '|') (backslash : c ≠ '\\') (behind : Bool) (t rest : Text) :
    barsFrom behind (t ++ c :: rest) = barsFrom behind t + bars rest := by
  induction t generalizing behind with
  | nil => simp [barsFrom,bars,bar,beq_eq_false_iff_ne.mpr backslash]
  | cons d t ih => rw [List.cons_append,barsFrom,barsFrom,ih,Nat.add_assoc]

theorem bars_apart {c : Char} (bar : c ≠ '|') (backslash : c ≠ '\\') (t rest : Text) :
    bars (t ++ c :: rest) = bars t + bars rest := barsFrom_apart bar backslash false t rest

theorem bars_inTicks (t : Text) : bars (inTicks t) = bars t := by
  have shape : inTicks t = [] ++ '`' :: (t ++ '`' :: []) := rfl
  rw [shape,bars_apart (by decide) (by decide),bars_apart (by decide) (by decide)]
  exact Nat.zero_add (bars t)

theorem bars_given (t : Text) : bars (Text.given t (inTicks t)) = bars t := by
  unfold Text.given
  split
  · rename_i none
    rw [none]
  · exact bars_inTicks t

-- A row goes on behind the space that closes a cell, with the bar of the next.
theorem bars_row_cons (cell : Text) (cells : List Text) : bars (row (cell :: cells)) = 1 + (bars cell + bars (row cells)) := by
  have shape : row (cell :: cells) = ['|'] ++ ' ' :: (cell ++ ' ' :: row cells) := by simp [row,Text.each]
  rw [shape,bars_apart (by decide) (by decide),bars_apart (by decide) (by decide)]
  rfl

theorem bars_row_nil : bars (row []) = 1 := rfl

-- Nothing in the text ends a cell, whatever it is put behind.
def Sealed (t : Text) : Prop := ∀ behind, barsFrom behind t = 0

theorem sealed_behind {behind : Bool} {t rest : Text} (first : barsFrom behind t = 0) (second : Sealed rest) :
    barsFrom behind (t ++ rest) = 0 := by
  induction t generalizing behind with
  | nil => exact second behind
  | cons c t ih =>
    rw [barsFrom,Nat.add_eq_zero_iff] at first
    rw [List.cons_append,barsFrom,first.1,ih first.2]

theorem sealed_flatMap {f : Char → Text} (each : ∀ c, Sealed (f c)) (t : Text) : Sealed (t.flatMap f) := by
  induction t with
  | nil => exact fun _ => rfl
  | cons c t ih => exact fun behind => sealed_behind (each c behind) ih

theorem sealed_cell (t : Text) : Sealed (Html.cell t) := by
  rw [Html.cell,Text.replaceChar,Text.replaceChar,List.flatMap_assoc]
  apply sealed_flatMap
  intro c behind
  by_cases bar : c = '|'
  · subst c
    cases behind <;> rfl
  by_cases feed : c = '\n'
  · subst c
    cases behind <;> rfl
  · simp [bar,feed,barsFrom]

theorem bars_optionRow (o : OptionDoc) : bars (optionRow o) = 4 + (bars (Page.flagText o) + bars o.default) := by
  have description : bars (Html.cell o.description) = 0 := sealed_cell o.description false
  rw [optionRow,bars_row_cons,bars_row_cons,bars_row_cons,bars_row_nil,bars_inTicks,bars_given,description]
  omega

theorem bars_exitRow (e : Text × Text) : bars (exitRow e) = 3 + bars e.1 := by
  have meaning : bars (Html.cell e.2) = 0 := sealed_cell e.2 false
  rw [exitRow,bars_row_cons,bars_row_cons,bars_row_nil,bars_inTicks,meaning]
  omega

end Bars

section Cleanness

theorem inTicks_clean {t : Text} (clean : '\n' ∉ t) : '\n' ∉ inTicks t :=
  List.not_mem_append (List.not_mem_append (by decide) clean) (by decide)

theorem cell_clean (t : Text) : '\n' ∉ Html.cell t := by
  intro inside
  obtain ⟨c,_,made⟩ := List.mem_flatMap.mp inside
  split at made
  · revert made
    decide
  · rename_i other
    exact other (List.mem_singleton.mp made).symm

theorem row_clean {cells : List Text} (each : ∀ cell ∈ cells, '\n' ∉ cell) : '\n' ∉ row cells := by
  apply List.not_mem_append (by decide)
  intro inside
  obtain ⟨cell,listed,made⟩ := List.mem_flatMap.mp inside
  exact List.not_mem_append (List.not_mem_append (by decide) (each cell listed)) (by decide) made

theorem htmlEscape_clean {t : Text} (clean : '\n' ∉ t) : '\n' ∉ Html.escape [] t := by
  rw [HtmlEscaping.escape_every]
  exact HtmlEscaping.escapeLine_clean clean

variable {d : Document}

theorem flagText_clean {o : OptionDoc} (single : OneLine o) : '\n' ∉ Page.flagText o := by
  intro inside
  exact single.signature ((List.dropWhile_sublist _).subset inside)

theorem optionRow_clean {o : OptionDoc} (single : OneLine o) : '\n' ∉ optionRow o := by
  have default : '\n' ∉ Text.given o.default (inTicks o.default) := by
    unfold Text.given
    split
    · exact List.not_mem_nil
    · exact inTicks_clean single.default
  apply row_clean
  simp only [List.forall_mem_cons]
  exact ⟨inTicks_clean (flagText_clean single),cell_clean _,default,by simp⟩

theorem exitRow_clean (kept : Kept d.sections) {e : Text × Text} (member : e ∈ d.entries .exit) : '\n' ∉ exitRow e := by
  apply row_clean
  simp only [List.forall_mem_cons]
  exact ⟨inTicks_clean (entry_clean kept member),cell_clean _,by simp⟩

end Cleanness

section Tables
variable {d : Document}

def headingLines (name : Text) : List Text := [[], "### " ++ Html.escape [] name]

def tableHead : List Text := [[], "| Option | Description | Default |", "|--------|-------------|---------|"]

def tableLines (os : List OptionDoc) : List Text := if os = [] then [] else tableHead ++ os.map optionRow

-- Names of groups as the page has them.
def sortedNames (d : Document) : List Text := (Page.optionGroups d).sorted.keys.filter (· ≠ [])

def optionLines (os : List OptionDoc) (names : List Text) : List Text :=
  "## Options" :: listing os names headingLines tableLines

def exitLines (es : List (Text × Text)) : List Text :=
  "## Exit status" :: [] :: "| Code | Meaning |" :: "|------|---------|" :: es.map exitRow

theorem fed_append (lines more : List Text) : fed (lines ++ more) = fed lines ++ fed more := List.flatMap_append

theorem fed_listing (os : List OptionDoc) (names : List Text) (heading : Text → List Text)
    (entries : List OptionDoc → List Text) :
    fed (listing os names heading entries) = listing os names (fun name => fed (heading name)) fun os => fed (entries os) := by
  unfold listing
  rw [fed_append]
  congr 1
  rw [fed,List.flatMap_assoc]
  apply List.flatMap_congr
  intro name _
  exact fed_append _ _

theorem fed_headingLines (name : Text) : fed (headingLines name) = tableHeading name := by
  exact congrArg ("\n\n### ".toList ++ ·) (List.append_nil (Html.escape [] name))

theorem fed_tableLines (os : List OptionDoc) : fed (tableLines os) = table os := by
  unfold tableLines table
  split
  · rfl
  · have head : fed tableHead = optionTable := by decide
    rw [fed_append,head,fed,List.flatMap_map]
    rfl

theorem wikiTables_fed (os : List OptionDoc) (names : List Text) :
    wikiTables os names = fed (listing os names headingLines tableLines) := by
  rw [fed_listing,funext fed_headingLines,funext fed_tableLines]
  rfl

theorem tableLines_clean {os : List OptionDoc} (single : ∀ o ∈ os, OneLine o) : ∀ line ∈ tableLines os, '\n' ∉ line := by
  have front : ∀ line ∈ tableHead, '\n' ∉ line := by decide
  unfold tableLines
  split
  · simp
  · intro line member
    rcases List.mem_append.mp member with fixed | later
    · exact front line fixed
    · obtain ⟨o,inside,rfl⟩ := List.mem_map.mp later
      exact optionRow_clean (single o inside)

theorem headingLines_clean {name : Text} (clean : '\n' ∉ name) : ∀ line ∈ headingLines name, '\n' ∉ line := by
  simp only [headingLines,List.forall_mem_cons]
  exact ⟨List.not_mem_nil,List.not_mem_append (by decide) (htmlEscape_clean clean),by simp⟩

theorem listing_clean {os : List OptionDoc} {names : List Text} (arranged : Arranged os names)
    (single : ∀ o ∈ os, OneLine o) : ∀ line ∈ listing os names headingLines tableLines, '\n' ∉ line :=
  listing_all arranged (fun o member => headingLines_clean (single o member).group) fun _ among =>
    tableLines_clean fun o inside => single o (among inside)

theorem options_lines (kept : Kept d.sections) (some : d.options ≠ []) :
    optionLines d.options (sortedNames d) <:+: Text.splitOn '\n' (render d) := by
  have clean : ∀ line ∈ listing d.options (sortedNames d) headingLines tableLines, '\n' ∉ line :=
    listing_clean (sorted_groups_ordered d).arranged fun o => option_oneLine kept
  have listed : "## Options" ++ wikiTables d.options (sortedNames d) ∈ parts d := by
    obtain ⟨front,cut⟩ := parts_cut d
    rw [cut,options_wikiTables,if_neg some]
    exact List.mem_append_left _ (List.mem_append_right _ (List.mem_singleton.mpr rfl))
  have lines := splitOn_assemble listed
  rwa [wikiTables_fed,splitOn_fed_clean (by decide) clean] at lines

theorem exitLines_clean (kept : Kept d.sections) : ∀ line ∈ exitLines (d.entries .exit), '\n' ∉ line := by
  simp only [exitLines,List.forall_mem_cons]
  refine ⟨by decide,by decide,by decide,by decide,?_⟩
  intro line member
  obtain ⟨e,inside,rfl⟩ := List.mem_map.mp member
  exact exitRow_clean kept inside

theorem exits_part (some : d.entries .exit ≠ []) : exits d = [Text.join "\n" (exitLines (d.entries .exit))] := by
  obtain ⟨e,es,shape⟩ := List.exists_cons_of_ne_nil some
  rw [exits,exitLines,shape]
  rfl

theorem exits_lines (kept : Kept d.sections) (some : d.entries .exit ≠ []) :
    exitLines (d.entries .exit) <:+: Text.splitOn '\n' (render d) := by
  have cut : Text.splitOn '\n' (Text.join "\n" (exitLines (d.entries .exit))) = exitLines (d.entries .exit) :=
    splitOn_join_clean (List.cons_ne_nil _ _) (exitLines_clean kept)
  have listed : Text.join "\n" (exitLines (d.entries .exit)) ∈ parts d := by
    apply List.mem_append_left
    apply List.mem_append_right
    rw [exits_part some]
    exact List.mem_singleton.mpr rfl
  have lines := splitOn_assemble listed
  rwa [cut] at lines

end Tables

-- Every row has as many cells as its table has columns.
def KeepsShape (d : Document) : Prop :=
  (∀ o ∈ d.options, bars (optionRow o) = 4) ∧ ∀ e ∈ d.entries .exit, bars (exitRow e) = 3

-- The tables of a page line by line. Each record is one line of its table; nothing in a description ends
-- its cell, but a bar in a flag, a default or an exit code does.
structure Tabled (d : Document) (lines : List Text) : Prop where
  arranged : Arranged d.options (sortedNames d)
  options : d.options ≠ [] → optionLines d.options (sortedNames d) <:+: lines
  exits : d.entries .exit ≠ [] → exitLines (d.entries .exit) <:+: lines
  optionBars : ∀ o ∈ d.options, bars (optionRow o) = 4 + (bars (Page.flagText o) + bars o.default)
  exitBars : ∀ e ∈ d.entries .exit, bars (exitRow e) = 3 + bars e.1
  shape : KeepsShape d ↔
    (∀ o ∈ d.options, bars (Page.flagText o) = 0 ∧ bars o.default = 0) ∧ ∀ e ∈ d.entries .exit, bars e.1 = 0

theorem keepsShape_iff (d : Document) : KeepsShape d ↔
    (∀ o ∈ d.options, bars (Page.flagText o) = 0 ∧ bars o.default = 0) ∧ ∀ e ∈ d.entries .exit, bars e.1 = 0 := by
  apply and_congr
  · apply forall₂_congr
    intro o _
    rw [bars_optionRow]
    omega
  · apply forall₂_congr
    intro e _
    rw [bars_exitRow]
    omega

theorem tables_on_page {d : Document} (reached : Reached d) : Tabled d (Text.splitOn '\n' (render d)) where
  arranged := (sorted_groups_ordered d).arranged
  options := options_lines (reached_kept reached)
  exits := exits_lines (reached_kept reached)
  optionBars o _ := bars_optionRow o
  exitBars e _ := bars_exitRow e
  shape := keepsShape_iff d

theorem tables_on_page_sealed :
    let d := Document.parse "## \\option -a\n## this | that\n## \\exit 2 no | yes\n" "demo"
    Tabled d (Text.splitOn '\n' (render d)) ∧ KeepsShape d ∧
      d.options.map optionRow = ["| `-a` | this \\| that |  |"] ∧
      (d.entries .exit).map exitRow = ["| `2` | no \\| yes |"] := by
  intro d
  have tabled : Tabled d (Text.splitOn '\n' (render d)) := tables_on_page (.text _ _)
  exact ⟨tabled,tabled.shape.mpr (by decide +kernel),by decide +kernel,by decide +kernel⟩

theorem bars_break_rows :
    let d := Document.parse "## \\option --mode A|B\n" "demo"
    render d = "## Options\n\n| Option | Description | Default |\n|--------|-------------|---------|\n| `--mode A|B` |  |  |\n" ∧
      bars "| `--mode A|B` |  |  |" = 5 ∧ ¬ KeepsShape d := by
  intro d
  refine ⟨by decide +kernel,by decide,?_⟩
  rw [keepsShape_iff]
  decide +kernel

end ScriptDoc.TableRows
