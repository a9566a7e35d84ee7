import ScriptDoc.Proofs.ManPageRequests

-- The header of a man page, and what can break it into several lines.
namespace ScriptDoc.ManPageHeader
open ManPage TextLines GroffLines ReachedDocuments ManPageRequests

-- What the header names, before it is escaped: program, section, date, version and manual.
def headerArguments (d : Document) (context : Context) : List Text :=
  [upperCase d.program, (context.text? "section").getD "1", (Page.valueOrText d context "date").getD [],
    (Page.valueOrText d context "version").getD [], (context.text? "manual").getD "User Commands"]

def headerLine (d : Document) (context : Context) : Text :=
  ".TH " ++ Text.join " " ((headerArguments d context).map fun a => inQuotes (Groff.escape a))

def setup : List Text := [".if n.ad l", ".nh"]

def nameHeading : Text := ".SH \"NAME\""

-- The header is the third line, and the name follows at once.
def Complete (d : Document) (context : Context) (lines : List Text) : Prop :=
  lines[2]? = some (headerLine d context) ∧ lines[3]? = some nameHeading

section Capitals

theorem ofNat_feed {n : Nat} (feed : Char.ofNat n = '\n') : n = 10 := by
  by_cases valid : n.isValidChar
  · rw [← Encoding.toNat_ofNat valid,feed]
    rfl
  · rw [Char.ofNat,dif_neg valid] at feed
    cases feed

theorem toUpper_feed : ∀ n < 128, (Char.ofNat n).toUpper = '\n' → Char.ofNat n = '\n' := by decide +kernel

-- Code points above those of ASCII stay there, or become letters.
theorem upperRuns_high : ∀ run ∈ upperRuns, 10 < run.lo + run.shift := by decide +kernel

theorem upperExpansions_high : ∀ e ∈ upperExpansions, ∀ code ∈ e.2, 10 < code := by decide +kernel

theorem changeCase_feed {c : Char} (made : '\n' ∈ changeCase upperRuns upperExpansions c) : c = '\n' := by
  unfold changeCase at made
  split at made
  · rename_i codes found
    obtain ⟨code,listed,feed⟩ := List.mem_map.mp made
    obtain ⟨before,after,whole,_⟩ := List.lookup_eq_some_iff.mp found
    have high := upperExpansions_high (c.toNat,codes) (by simp [whole]) code listed
    rw [ofNat_feed feed] at high
    exact absurd high (by decide)
  · split at made
    · rename_i run found
      have covered := List.find?_some found
      have high := upperRuns_high run (List.mem_of_find?_eq_some found)
      have low := ofNat_feed (List.mem_singleton.mp made).symm
      simp only [CaseRun.covers,Bool.and_eq_true,decide_eq_true_eq] at covered
      omega
    · exact (List.mem_singleton.mp made).symm

theorem upperChar_feed {c : Char} (made : '\n' ∈ upperChar c) : c = '\n' := by
  unfold upperChar at made
  split at made
  · rename_i low
    have same := toUpper_feed c.toNat low
    rw [Char.ofNat_toNat] at same
    exact same (List.mem_singleton.mp made).symm
  · exact changeCase_feed made

theorem feed_mem_upperCase {t : Text} : '\n' ∈ upperCase t ↔ '\n' ∈ t := by
  rw [upperCase,List.mem_flatMap]
  constructor
  · intro ⟨c,member,made⟩
    rwa [upperChar_feed made] at member
  · intro member
    exact ⟨'\n',member,by decide⟩

end Capitals

section Lines
variable {d : Document} {context : Context}

theorem page_front (d : Document) (context : Context) :
    ∃ more, page d context = .request .adjust :: .request .noHyphen :: header d context :: .heading "NAME" :: more := by
  refine ⟨?more,?whole⟩
  case whole =>
    delta page name
    simp only [List.append_assoc,List.cons_append,List.nil_append]
    rfl

theorem header_text (d : Document) (context : Context) : (header d context).text = headerLine d context := rfl

theorem render_front (d : Document) (context : Context) :
    ∃ rest, Text.splitOn '\n' (render d context)
      = setup ++ (headerLine d context).splitOn '\n' ++ nameHeading :: rest := by
  obtain ⟨more,found⟩ := page_front d context
  refine ⟨more.flatMap (fun e => e.text.splitOn '\n') ++ [[]],?_⟩
  rw [render,splitOn_entries,found,← header_text]
  simp only [List.flatMap_cons,List.append_assoc]
  rfl

theorem feed_mem_escape {t : Text} (inside : '\n' ∈ t) : '\n' ∈ Groff.escape t :=
  List.mem_flatMap.mpr ⟨'\n',inside,by decide⟩

theorem headerLine_clean_iff : '\n' ∉ headerLine d context ↔ ∀ a ∈ headerArguments d context, '\n' ∉ a := by
  constructor
  · intro clean a listed inside
    have quoted : '\n' ∈ inQuotes (Groff.escape a) :=
      List.mem_append_left _ (List.mem_append_right _ (feed_mem_escape inside))
    exact clean (List.mem_append_right _ (mem_join (List.mem_map.mpr ⟨a,listed,rfl⟩) quoted))
  · intro clean inside
    rcases List.mem_append.mp inside with front | later
    · revert front
      decide
    rcases mem_join_cases later with space | ⟨quoted,listed,within⟩
    · revert space
      decide
    · obtain ⟨a,among,rfl⟩ := List.mem_map.mp listed
      exact inQuotes_clean (escape_clean (clean a among)) within

theorem complete_iff (d : Document) (context : Context) :
    Complete d context (Text.splitOn '\n' (render d context)) ↔ ∀ a ∈ headerArguments d context, '\n' ∉ a := by
  obtain ⟨rest,lines⟩ := render_front d context
  rw [Complete,lines,← headerLine_clean_iff]
  constructor
  · intro ⟨third,_⟩
    -- A line has no line feed, so the header is a line only if it has none.
    obtain ⟨first,more,found⟩ := splitOn_cases '\n' (headerLine d context)
    rw [found] at third
    have same : first = headerLine d context := Option.some.inj third
    exact same ▸ sep_not_mem_splitOn (found ▸ List.mem_cons_self)
  · intro clean
    rw [splitOn_clean clean]
    exact ⟨rfl,rfl⟩

-- A usage names its program on one line, so only a file name can bring a line feed there.
theorem program_feed_iff (kept : Kept d.sections) :
    '\n' ∈ upperCase d.program ↔ (∀ u ∈ d.entries .usage, u.1 = []) ∧ '\n' ∈ d.filename := by
  rw [feed_mem_upperCase,Document.program]
  cases found : ((d.entries .usage).map (·.1)).find? (· ≠ []) with
  | some name =>
    obtain ⟨u,member,rfl⟩ := List.mem_map.mp (List.mem_of_find?_eq_some found)
    have named : u.1 ≠ [] := by simpa using List.find?_some found
    exact iff_of_false (entry_clean kept member) fun both => named (both.1 u member)
  | none =>
    have silent : ∀ u ∈ d.entries .usage, u.1 = [] := by simpa using found
    exact (and_iff_right silent).symm

end Lines

-- The head of the page line by line. The header is one line exactly when no argument has a line feed.
structure Headed (d : Document) (context : Context) (lines : List Text) : Prop where
  spread : ∃ rest, lines = setup ++ (headerLine d context).splitOn '\n' ++ nameHeading :: rest
  complete : Complete d context lines ↔ ∀ a ∈ headerArguments d context, '\n' ∉ a
  program : '\n' ∈ upperCase d.program ↔ (∀ u ∈ d.entries .usage, u.1 = []) ∧ '\n' ∈ d.filename

theorem header_on_page {d : Document} (reached : Reached d) (context : Context) :
    Headed d context (Text.splitOn '\n' (render d context)) where
  spread := render_front d context
  complete := complete_iff d context
  program := program_feed_iff (reached_kept reached)

theorem header_on_page_version :
    let d := Document.parse "## \\usage demo [-h]\n## \\version 1.0\n" "demo.sh"
    let lines := Text.splitOn '\n' (render d [("section", .string "8")])
    Headed d [("section", .string "8")] lines ∧ Complete d [("section", .string "8")] lines ∧
      lines[2]? = some (".TH \"DEMO\" \"8\" \"\" \"1\\.0\" \"User Commands\"" : Text) := by
  intro d lines
  have headed : Headed d [("section", .string "8")] lines := header_on_page (.text _ _) _
  exact ⟨headed,headed.complete.mpr (by decide +kernel),by decide +kernel⟩

-- A second line of the version breaks the header, and the name comes a line too late.
theorem version_breaks_header :
    let d := Document.parse "## \\version 1\n## beta\n" "demo"
    render d [] = ".if n.ad l\n.nh\n.TH \"DEMO\" \"1\" \"\" \"1\nbeta\" \"User Commands\"\n.SH \"NAME\"\ndemo\n" ∧
      ¬ Complete d [] (Text.splitOn '\n' (render d [])) := by
  intro d
  refine ⟨by decide +kernel,?_⟩
  rw [complete_iff]
  decide +kernel

end ScriptDoc.ManPageHeader
