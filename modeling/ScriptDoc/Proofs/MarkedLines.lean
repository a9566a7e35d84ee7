import ScriptDoc.Proofs.LineGrammar
import ScriptDoc.Proofs.TextLines
import ScriptDoc.Source

namespace ScriptDoc.MarkedLines
open LineGrammar TextLines

-- Whether a line documents anything, and what it says without its indentation.
def bears (line : Text) : Bool := marker.isPrefixOf (line.dropWhile isIndent)

-- The documentation lines of a list of lines that are counted on from a number.
def documentedFrom (path : Text) (n : Nat) (lines : List Text) : List DocLine :=
  ((lines.zipIdx n).filter fun e => bears e.1).map fun e =>
    MarkedLine.read ⟨path, e.2, e.1.dropWhile isIndent⟩

def documented (path t : Text) : List DocLine := documentedFrom path 1 t.lines

theorem bareLine_clean {line : Text} (clean : '\n' ∉ line) : bareLine line = line.dropWhile isIndent := by
  have kept : line.reverse.dropWhile (· == '\n') = line.reverse := by
    cases shape : line.reverse with
    | nil => rfl
    | cons c rest =>
      have inside : c ∈ line := by rw [← List.mem_reverse,shape]; simp
      have other : (c == '\n') = false := by
        rw [beq_eq_false_iff_ne]
        rintro rfl
        exact clean inside
      simp [other]
  rw [bareLine,kept,List.reverse_reverse]

theorem ofLine?_clean (path : Text) (n : Nat) {line : Text} (clean : '\n' ∉ line) :
    MarkedLine.ofLine? path n line =
      if bears line then some ⟨path,n,line.dropWhile isIndent⟩ else none := by
  rw [MarkedLine.ofLine?,bareLine_clean clean]
  rfl

def markedOf (path : Text) (n : Nat) (lines : List Text) : List MarkedLine :=
  (lines.zipIdx n).filterMap fun e => MarkedLine.ofLine? path (e.2 + 1) e.1

theorem read_markedOf (path : Text) (n : Nat) {lines : List Text} (clean : ∀ line ∈ lines, '\n' ∉ line) :
    (markedOf path n lines).map (·.read) = documentedFrom path (n + 1) lines := by
  induction lines generalizing n with
  | nil => rfl
  | cons line rest ih =>
    have tail := ih (n + 1) fun other member => clean other (List.mem_cons_of_mem _ member)
    have here := ofLine?_clean path (n + 1) (clean line (by simp))
    unfold markedOf documentedFrom at tail ⊢
    cases side : bears line with
    | true => simpa [here,side] using tail
    | false => simpa [here,side] using tail

theorem read_marked (path t : Text) : (Text.marked path t).map (·.read) = documented path t :=
  read_markedOf path 0 fun _ member => newline_not_mem_line member

theorem markedFrom_ok {ε : Type} (path : Text) (n : Nat) (lines : List Text) :
    Source.markedFrom path n (lines.map .ok : Source ε) = (markedOf path n lines).map .ok := by
  induction lines generalizing n with
  | nil => rfl
  | cons line rest ih =>
    have tail := ih (n + 1)
    unfold markedOf at tail ⊢
    cases side : MarkedLine.ofLine? path (n + 1) line with
    | none => simpa [Source.markedFrom,side] using tail
    | some m => simpa [Source.markedFrom,side] using tail

theorem mem_documentedFrom {path : Text} {n : Nat} {lines : List Text} {line : DocLine}
    (member : line ∈ documentedFrom path n lines) :
    ∃ k, ∃ raw ∈ lines, line = MarkedLine.read ⟨path,k,raw.dropWhile isIndent⟩ := by
  obtain ⟨e,kept,rfl⟩ := List.mem_map.mp member
  have among := (List.mem_filter.mp kept).1
  exact ⟨e.2,e.1,List.fst_mem_of_mem_zipIdx among,rfl⟩

-- A name that a line can be tagged with begins with a letter or an underscore, so it extends no
-- empty name.
theorem read_tag {m : MarkedLine} {tag : Text} (tagged : m.read.tag = some tag) :
    ∃ c rest, tag = c :: rest ∧ isNameStart c = true := by
  obtain ⟨d,valid,_,rfl,_⟩ := tagOf_iff.mp ((read_tagged m tag _).mp ⟨tagged,rfl⟩)
  have named := valid.name
  cases shape : d.name with
  | nil =>
    rw [shape] at named
    exact named.elim
  | cons c rest =>
    rw [shape] at named
    exact ⟨c,rest,rfl,(isNameStart_iff c).mpr named.1⟩

theorem isSubtag_nil {m : MarkedLine} {tag : Text} (tagged : m.read.tag = some tag) :
    isSubtag tag [] = false := by
  obtain ⟨c,rest,rfl,starts⟩ := read_tag tagged
  have other : c ≠ '-' := by
    rintro rfl
    cases starts
  simp [isSubtag,Text.after,other]

theorem read_value_clean {m : MarkedLine} (clean : '\n' ∉ m.text) : ∀ v ∈ m.read.value, '\n' ∉ v := by
  intro v given
  unfold MarkedLine.read at given
  split at given
  · rename_i name value found
    obtain ⟨d,valid,_,_,rfl⟩ := division_of_tag found
    exact (valid.value v given).2.2
  · cases Option.some.inj given
    exact fun inside => clean (List.mem_of_mem_drop inside)

-- Lines compared by what they say, wherever they stand.
def bare (line : DocLine) : DocLine := ⟨[], 0, line.tag, line.value⟩

@[simp] theorem bare_tag (line : DocLine) : (bare line).tag = line.tag := rfl
@[simp] theorem bare_value (line : DocLine) : (bare line).value = line.value := rfl

theorem bare_read (path text : Text) (n : Nat) :
    bare (MarkedLine.read ⟨path, n, text⟩) = MarkedLine.read ⟨[],0,text⟩ := by
  unfold MarkedLine.read MarkedLine.content
  cases tagOf? (text.drop markerWidth) <;> rfl

theorem bare_documentedFrom (path : Text) (n : Nat) (lines : List Text) :
    (documentedFrom path n lines).map bare =
      ((lines.filter bears).map (·.dropWhile isIndent)).map fun text => MarkedLine.read ⟨[],0,text⟩ := by
  induction lines generalizing n with
  | nil => rfl
  | cons line rest ih =>
    have tail := ih (n + 1)
    unfold documentedFrom at tail ⊢
    cases side : bears line with
    | true => simpa [side,bare_read] using tail
    | false => simpa [side] using tail

theorem bare_documented_append {a : Text} (ended : Ended a) (path : Text) (b : Text) :
    (documented path (a ++ b)).map bare = (documented path a).map bare ++ (documented path b).map bare := by
  unfold documented
  simp only [bare_documentedFrom,lines_append ended,List.filter_append,List.map_append]

end ScriptDoc.MarkedLines
