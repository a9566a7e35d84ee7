import ScriptDoc.Markup.Groff
import ScriptDoc.Proofs.TextLines

namespace ScriptDoc.GroffLines
open TextLines

-- A line is a request by its first character alone.
def opensRequest (c : Char) : Bool := c == '.' || c == '\''

def isRequest (line : Text) : Bool := line.head?.any opensRequest

-- Whether a text can be written without making a request. The flag tells whether a line begins
-- here, so that texts can be put one behind another.
def quiet : Bool → Text → Bool
  | _, [] => true
  | start, c :: rest => !(start && opensRequest c) && quiet (c == '\n') rest

theorem quiet_cons {start : Bool} {c : Char} {rest : Text} :
    quiet start (c :: rest) = true ↔ (start = true → opensRequest c = false) ∧ quiet (c == '\n') rest = true := by
  cases start <;> simp [quiet]

theorem quiet_anywhere {t : Text} (fine : quiet true t = true) (start : Bool) : quiet start t = true := by
  cases t with
  | nil => rfl
  | cons c rest =>
    obtain ⟨first,tail⟩ := quiet_cons.mp fine
    exact quiet_cons.mpr ⟨fun _ => first rfl,tail⟩

theorem quiet_append {start : Bool} {a b : Text} (first : quiet start a = true) (second : quiet true b = true) :
    quiet start (a ++ b) = true := by
  induction a generalizing start with
  | nil => exact quiet_anywhere second start
  | cons c a ih =>
    obtain ⟨here,tail⟩ := quiet_cons.mp first
    exact quiet_cons.mpr ⟨here,ih tail⟩

theorem quiet_flatMap {α : Type} {f : α → Text} {items : List α} (each : ∀ a ∈ items, quiet true (f a) = true) :
    quiet true (items.flatMap f) = true := by
  induction items with
  | nil => rfl
  | cons a items ih =>
    rw [List.flatMap_cons]
    exact quiet_append (each a (by simp)) (ih fun other member => each other (List.mem_cons_of_mem _ member))

theorem quiet_join {sep : Text} (between : quiet true sep = true) {ts : List Text}
    (each : ∀ t ∈ ts, quiet true t = true) : quiet true (Text.join sep ts) = true := by
  induction ts with
  | nil => rfl
  | cons t ts ih =>
    have tail := ih fun other member => each other (List.mem_cons_of_mem _ member)
    cases ts with
    | nil => exact each t (by simp)
    | cons u rest => exact quiet_append (quiet_append (each t (by simp)) between) tail

theorem quiet_inside {t : Text} (clean : '\n' ∉ t) : quiet false t = true := by
  induction t with
  | nil => rfl
  | cons c rest ih =>
    have other : (c == '\n') = false := beq_eq_false_iff_ne.mpr fun same => clean (by simp [same])
    apply quiet_cons.mpr
    rw [other]
    exact ⟨by simp,ih fun inside => clean (List.mem_cons_of_mem _ inside)⟩

-- Both characters that open a request are escaped wherever they stand, and an escape stays on its line.
theorem escapeChar_cases (c : Char) :
    (Groff.escapeChar c = [c] ∧ opensRequest c = false) ∨ ∃ rest, Groff.escapeChar c = '\\' :: rest ∧ '\n' ∉ rest := by
  unfold Groff.escapeChar
  split
  · exact .inr ⟨_,rfl,by decide⟩
  split
  · exact .inr ⟨_,rfl,by decide⟩
  split
  · exact .inr ⟨_,rfl,by decide⟩
  split
  · exact .inr ⟨_,rfl,by decide⟩
  split
  · exact .inr ⟨_,rfl,by decide⟩
  · rename_i quote _ dot _
    exact .inl ⟨rfl,by simp [opensRequest,quote,dot]⟩

theorem quiet_escapeChar (c : Char) : quiet true (Groff.escapeChar c) = true := by
  rcases escapeChar_cases c with ⟨same,plain⟩ | ⟨rest,escaped,clean⟩
  · rw [same]
    exact quiet_cons.mpr ⟨fun _ => plain,rfl⟩
  · rw [escaped]
    exact quiet_cons.mpr ⟨fun _ => rfl,quiet_inside clean⟩

theorem quiet_escape (t : Text) : quiet true (Groff.escape t) = true :=
  quiet_flatMap fun c _ => quiet_escapeChar c

theorem quiet_autoEscaped (t : Text) : quiet true (Groff.autoEscaped t) = true := quiet_escape _

theorem quiet_strong {t : Text} (fine : quiet true t = true) : quiet true (Groff.strong t) = true :=
  quiet_append (quiet_append (by decide) fine) (by decide)

theorem replaceChar_clean {line : Text} (clean : '\n' ∉ line) :
    '\n' ∉ Text.replaceChar '\\' "\\\\" line := by
  intro inside
  obtain ⟨c,member,made⟩ := List.mem_flatMap.mp inside
  split at made
  · simp at made
  · rw [← List.mem_singleton.mp made] at member
    exact clean member

-- A guarded line is quiet only because it is one line.
theorem quiet_guardLine {line : Text} (clean : '\n' ∉ line) : quiet true (Groff.guardLine line) = true := by
  have still := replaceChar_clean clean
  unfold Groff.guardLine
  split
  · rename_i c rest shape
    rw [shape] at still
    split
    · exact @quiet_append true "\\" ('&' :: c :: rest) (by decide) (quiet_cons.mpr ⟨fun _ => rfl,quiet_inside still⟩)
    · rename_i other
      have plain : opensRequest c = false := by simpa [opensRequest] using other
      have tail := (quiet_cons.mp (quiet_inside still)).2
      exact quiet_cons.mpr ⟨fun _ => plain,tail⟩
  · rfl

theorem quiet_verbatim (t : Text) : quiet true (Groff.verbatim t) = true := by
  apply quiet_join (by decide)
  intro guarded member
  obtain ⟨line,among,rfl⟩ := List.mem_map.mp member
  exact quiet_guardLine (newline_not_mem_line among)

def requests (t : Text) : List Text := (t.splitOn '\n').filter isRequest

-- What the flag stands for: the first line is left out unless it begins here.
theorem quiet_requests {start : Bool} {t line : Text} {more : List Text} (fine : quiet start t = true)
    (found : t.splitOn '\n' = line :: more) :
    (start = true → isRequest line = false) ∧ more.filter isRequest = [] := by
  induction t generalizing start line more with
  | nil =>
    cases found
    exact ⟨fun _ => rfl,rfl⟩
  | cons c t ih =>
    obtain ⟨here,tail⟩ := quiet_cons.mp fine
    obtain ⟨next,rest,shape⟩ := splitOn_cases '\n' t
    obtain ⟨first,others⟩ := ih tail shape
    by_cases side : c = '\n'
    · subst c
      rw [splitOn_cons_sep,shape] at found
      cases found
      exact ⟨fun _ => rfl,by simp [first,others]⟩
    · rw [splitOn_cons_other side shape] at found
      cases found
      exact ⟨here,others⟩

theorem requests_quiet {t : Text} (fine : quiet true t = true) : requests t = [] := by
  obtain ⟨line,more,found⟩ := splitOn_cases '\n' t
  obtain ⟨first,others⟩ := quiet_requests fine found
  rw [requests,found,List.filter_cons,first rfl,others]
  rfl

-- A text that is quiet but for its beginning makes one request, and that is on its first line.
theorem requests_dot {t : Text} (dotted : t.head? = some '.') (fine : quiet false t = true) :
    requests t = [Text.firstLine t] := by
  obtain ⟨line,more,found⟩ := splitOn_cases '\n' t
  obtain ⟨_,others⟩ := quiet_requests fine found
  have first := splitOn_first found
  have opened : isRequest line = true := by
    obtain ⟨rest,rfl⟩ := List.head?_eq_some_iff.mp dotted
    rw [first]
    rfl
  rw [requests,found,List.filter_cons,if_pos opened,others,first]

theorem escape_clean {t : Text} (clean : '\n' ∉ t) : '\n' ∉ Groff.escape t := by
  intro inside
  obtain ⟨c,member,made⟩ := List.mem_flatMap.mp inside
  rcases escapeChar_cases c with ⟨same,_⟩ | ⟨rest,escaped,free⟩
  · rw [same] at made
    rw [← List.mem_singleton.mp made] at member
    exact clean member
  · rw [escaped] at made
    rcases List.mem_cons.mp made with slash | inner
    · cases slash
    · exact free inner

end ScriptDoc.GroffLines
