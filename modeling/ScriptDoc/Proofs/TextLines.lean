import ScriptDoc.Text

namespace ScriptDoc.TextLines

section Pieces
variable {α : Type} {sep : α → Bool}

theorem pieces_cons_sep {a : α} (cuts : sep a = true) (rest : List α) :
    pieces sep (a :: rest) = [] :: pieces sep rest := by
  simp [pieces,cuts]

theorem pieces_cons_other {a : α} (keeps : sep a = false) {rest piece : List α} {more : List (List α)}
    (found : pieces sep rest = piece :: more) : pieces sep (a :: rest) = (a :: piece) :: more := by
  simp [pieces,keeps,found]

theorem pieces_ne_nil (sep : α → Bool) (l : List α) : pieces sep l ≠ [] := by
  cases l with
  | nil => simp [pieces]
  | cons a rest =>
    unfold pieces
    split
    · simp
    · split <;> simp

theorem pieces_cases (sep : α → Bool) (l : List α) : ∃ piece more, pieces sep l = piece :: more :=
  List.exists_cons_of_ne_nil (pieces_ne_nil sep l)

-- A separator in the middle cuts the list into two that know nothing of each other.
theorem pieces_append_sep {a : α} (cuts : sep a = true) (before after : List α) :
    pieces sep (before ++ a :: after) = pieces sep before ++ pieces sep after := by
  induction before with
  | nil => simp [pieces,cuts]
  | cons b before ih =>
    cases side : sep b with
    | true => rw [List.cons_append,pieces_cons_sep side,pieces_cons_sep side,ih,List.cons_append]
    | false =>
      obtain ⟨piece,more,found⟩ := pieces_cases sep before
      rw [found,List.cons_append] at ih
      rw [List.cons_append,pieces_cons_other side ih,pieces_cons_other side found,List.cons_append]

theorem pieces_append_last {a : α} (cuts : sep a = true) (before : List α) :
    pieces sep (before ++ [a]) = pieces sep before ++ [[]] := by
  rw [pieces_append_sep cuts]
  rfl

-- What stands in front without a separator becomes part of the first piece.
theorem pieces_append_clean {l rest piece : List α} {more : List (List α)}
    (clean : ∀ a ∈ l, sep a = false) (found : pieces sep rest = piece :: more) :
    pieces sep (l ++ rest) = (l ++ piece) :: more := by
  induction l with
  | nil => exact found
  | cons a l ih =>
    have tail := ih fun b member => clean b (List.mem_cons_of_mem _ member)
    exact pieces_cons_other (clean a (by simp)) tail

theorem pieces_of_none {l : List α} (clean : ∀ a ∈ l, sep a = false) : pieces sep l = [l] := by
  have alone := @pieces_append_clean α sep l [] [] [] clean rfl
  rwa [List.append_nil] at alone

theorem sep_of_mem_pieces {l piece : List α} (member : piece ∈ pieces sep l) :
    ∀ a ∈ piece, sep a = false := by
  induction l generalizing piece with
  | nil =>
    have empty : piece = [] := by simpa [pieces] using member
    subst piece
    simp
  | cons b rest ih =>
    cases side : sep b with
    | true =>
      rw [pieces_cons_sep side] at member
      rcases List.mem_cons.mp member with rfl | old
      · simp
      · exact ih old
    | false =>
      obtain ⟨first,more,found⟩ := pieces_cases sep rest
      rw [pieces_cons_other side found] at member
      rcases List.mem_cons.mp member with rfl | old
      · intro a inside
        rcases List.mem_cons.mp inside with rfl | inside
        · exact side
        · exact ih (by simp [found]) a inside
      · exact ih (by simp [found,old])

end Pieces

section Closing
variable {α : Type} [DecidableEq α] {cr : α}

theorem mem_dropFinal {l : List α} {a : α} (member : a ∈ dropFinal cr l) : a ∈ l := by
  unfold dropFinal at member
  split at member
  · exact List.dropLast_subset l member
  · exact member

theorem closeLines_append (before : List (List α)) {after : List (List α)} (more : after ≠ []) :
    closeLines cr (before ++ after) = before.map (dropFinal cr) ++ closeLines cr after := by
  induction before with
  | nil => rfl
  | cons line before ih =>
    obtain ⟨next,rest,shape⟩ : ∃ next rest, before ++ after = next :: rest :=
      List.exists_cons_of_ne_nil (by simp [more])
    rw [List.cons_append,shape,closeLines,← shape,ih]
    rfl

-- A line is one of the pieces, at most without its last element.
theorem mem_closeLines {cut : List (List α)} {line : List α} (member : line ∈ closeLines cr cut) :
    ∃ piece ∈ cut, ∀ a ∈ line, a ∈ piece := by
  induction cut with
  | nil => cases member
  | cons piece rest ih =>
    cases rest with
    | nil =>
      refine ⟨piece,by simp,?_⟩
      unfold closeLines at member
      split at member
      · cases member
      · simp at member
        subst line
        exact fun _ inside => inside
    | cons next rest =>
      rw [closeLines] at member
      rcases List.mem_cons.mp member with rfl | old
      · exact ⟨piece,by simp,fun _ inside => mem_dropFinal inside⟩
      · obtain ⟨origin,among,subset⟩ := ih old
        exact ⟨origin,List.mem_cons_of_mem _ among,subset⟩

end Closing

theorem splitOn_cases (sep : Char) (t : Text) : ∃ piece more, t.splitOn sep = piece :: more := pieces_cases _ t

theorem splitOn_cons_sep (sep : Char) (t : Text) : Text.splitOn sep (sep :: t) = [] :: t.splitOn sep :=
  @pieces_cons_sep Char (· == sep) sep (by simp) t

theorem splitOn_cons_other {sep c : Char} (other : c ≠ sep) {t piece : Text} {more : List Text}
    (found : t.splitOn sep = piece :: more) : Text.splitOn sep (c :: t) = (c :: piece) :: more :=
  @pieces_cons_other Char (· == sep) c (by simp [other]) t piece more found

theorem splitOn_clean {sep : Char} {t : Text} (clean : sep ∉ t) : t.splitOn sep = [t] := by
  apply pieces_of_none
  intro c member
  rw [beq_eq_false_iff_ne]
  rintro rfl
  exact clean member

theorem splitOn_append_clean {sep : Char} {t rest piece : Text} {more : List Text} (clean : sep ∉ t)
    (found : rest.splitOn sep = piece :: more) : Text.splitOn sep (t ++ rest) = (t ++ piece) :: more := by
  refine pieces_append_clean ?_ found
  intro c member
  rw [beq_eq_false_iff_ne]
  exact fun same => clean (same ▸ member)

theorem splitOn_append_sep (sep : Char) (before after : Text) :
    Text.splitOn sep (before ++ sep :: after) = before.splitOn sep ++ after.splitOn sep :=
  @pieces_append_sep Char (· == sep) sep (by simp) before after

theorem splitOn_append_last (sep : Char) (before : Text) :
    Text.splitOn sep (before ++ [sep]) = before.splitOn sep ++ [[]] :=
  @pieces_append_last Char (· == sep) sep (by simp) before

theorem splitOn_ne_nil (sep : Char) (t : Text) : t.splitOn sep ≠ [] := pieces_ne_nil _ t

theorem sep_not_mem_splitOn {sep : Char} {t piece : Text} (member : piece ∈ t.splitOn sep) :
    sep ∉ piece := by
  intro inside
  have clean := sep_of_mem_pieces member sep inside
  simp at clean

theorem join_cons {sep : Text} (t : Text) {ts : List Text} (more : ts ≠ []) :
    Text.join sep (t :: ts) = t ++ sep ++ Text.join sep ts := by
  cases ts with
  | nil => exact absurd rfl more
  | cons u ts => rfl

theorem join_append {sep : Text} {ts us : List Text} (some : ts ≠ []) (more : us ≠ []) :
    Text.join sep (ts ++ us) = Text.join sep ts ++ sep ++ Text.join sep us := by
  induction ts with
  | nil => exact absurd rfl some
  | cons t ts ih =>
    by_cases last : ts = []
    · subst ts
      exact join_cons t more
    · rw [List.cons_append,join_cons t (by simp [last]),ih last,join_cons t last]
      simp only [List.append_assoc]

theorem mem_join {sep : Text} {ts : List Text} {t : Text} (listed : t ∈ ts) {c : Char} (inside : c ∈ t) :
    c ∈ Text.join sep ts := by
  induction ts with
  | nil => cases listed
  | cons first ts ih =>
    by_cases last : ts = []
    · subst ts
      rwa [← List.mem_singleton.mp listed]
    · rw [join_cons first last]
      rcases List.mem_cons.mp listed with rfl | later
      · exact List.mem_append_left _ (List.mem_append_left _ inside)
      · exact List.mem_append_right _ (ih later)

theorem mem_join_cases {sep : Text} {ts : List Text} {c : Char} (member : c ∈ Text.join sep ts) :
    c ∈ sep ∨ ∃ t ∈ ts, c ∈ t := by
  induction ts with
  | nil => cases member
  | cons first ts ih =>
    by_cases last : ts = []
    · subst ts
      exact .inr ⟨first,by simp,member⟩
    · rw [join_cons first last] at member
      rcases List.mem_append.mp member with front | later
      · rcases List.mem_append.mp front with here | between
        · exact .inr ⟨first,by simp,here⟩
        · exact .inl between
      · refine (ih later).imp id ?_
        rintro ⟨t,listed,inside⟩
        exact ⟨t,List.mem_cons_of_mem _ listed,inside⟩

theorem splitOn_join (sep : Char) {ts : List Text} (some : ts ≠ []) :
    Text.splitOn sep (Text.join [sep] ts) = ts.flatMap (Text.splitOn sep) := by
  induction ts with
  | nil => exact absurd rfl some
  | cons t ts ih =>
    by_cases last : ts = []
    · subst ts
      simp [Text.join]
    · rw [join_cons t last,List.append_assoc,List.singleton_append,splitOn_append_sep,ih last,List.flatMap_cons]

theorem flatMap_alone {α : Type} {f : α → List α} {l : List α} (alone : ∀ a ∈ l, f a = [a]) : l.flatMap f = l := by
  rw [List.flatMap_def,List.map_congr_left alone,← List.flatMap_def,List.flatMap_singleton']

theorem splitOn_join_clean {sep : Char} {ts : List Text} (some : ts ≠ []) (clean : ∀ t ∈ ts, sep ∉ t) :
    Text.splitOn sep (Text.join [sep] ts) = ts := by
  rw [splitOn_join sep some]
  exact flatMap_alone fun t member => splitOn_clean (clean t member)

theorem join_splitOn (sep : Char) (t : Text) : Text.join [sep] (t.splitOn sep) = t := by
  induction t with
  | nil => rfl
  | cons c t ih =>
    by_cases cuts : c = sep
    · subst c
      rw [splitOn_cons_sep,join_cons _ (splitOn_ne_nil sep t),ih]
      rfl
    · obtain ⟨piece,more,found⟩ := splitOn_cases sep t
      rw [splitOn_cons_other cuts found]
      rw [found] at ih
      cases more with
      | nil => exact congrArg (c :: ·) ih
      | cons next more => exact congrArg (c :: ·) ih

theorem mem_splitOn {sep c : Char} {t piece : Text} (listed : piece ∈ t.splitOn sep) (inside : c ∈ piece) : c ∈ t := by
  rw [← join_splitOn sep t]
  exact mem_join listed inside

theorem cut_none_iff {sep : Char} {t : Text} : Text.cut sep t = none ↔ sep ∉ t := by
  induction t with
  | nil => simp [Text.cut]
  | cons c t ih =>
    rw [Text.cut]
    split
    · rename_i same
      simp [same]
    · rename_i other
      simp [ih,Ne.symm other]

theorem cut_some_iff {sep : Char} {t before after : Text} :
    Text.cut sep t = some (before, after) ↔ t = before ++ sep :: after ∧ sep ∉ before := by
  induction t generalizing before with
  | nil => simp [Text.cut]
  | cons c t ih =>
    rw [Text.cut]
    split
    · rename_i same
      subst c
      constructor
      · intro found
        cases found
        exact ⟨rfl,by simp⟩
      · rintro ⟨whole,clean⟩
        cases before with
        | nil =>
          cases whole
          rfl
        | cons first before =>
          cases whole
          exact absurd (by simp) clean
    · rename_i other
      constructor
      · intro found
        obtain ⟨⟨front,back⟩,tail,equal⟩ := Option.map_eq_some_iff.mp found
        cases equal
        obtain ⟨rfl,clean⟩ := ih.mp tail
        exact ⟨rfl,by simp [Ne.symm other,clean]⟩
      · rintro ⟨whole,clean⟩
        cases before with
        | nil =>
          cases whole
          exact absurd rfl other
        | cons first before =>
          cases whole
          rw [ih.mpr ⟨rfl,fun inside => clean (List.mem_cons_of_mem _ inside)⟩]
          rfl

theorem splitOn_first {t line : Text} {more : List Text} (found : t.splitOn '\n' = line :: more) :
    line = Text.firstLine t := by
  induction t generalizing line more with
  | nil =>
    cases found
    rfl
  | cons c t ih =>
    by_cases side : c = '\n'
    · subst c
      rw [splitOn_cons_sep] at found
      cases found
      rfl
    · obtain ⟨next,rest,shape⟩ := splitOn_cases '\n' t
      rw [splitOn_cons_other side shape] at found
      cases found
      rw [ih shape]
      simp [Text.firstLine,side]

theorem firstLine_clean {t : Text} (clean : '\n' ∉ t) : Text.firstLine t = t :=
  (splitOn_first (splitOn_clean clean)).symm

theorem lines_eq_close (t : Text) : t.lines = closeLines '\r' (t.splitOn '\n') := rfl

theorem lines_eq_nil_iff {t : Text} : t.lines = [] ↔ t = [] := by
  constructor
  · intro none
    rw [lines_eq_close] at none
    obtain ⟨piece,more,found⟩ := splitOn_cases '\n' t
    rw [← join_splitOn '\n' t,found]
    rw [found] at none
    cases more with
    | nil =>
      rw [closeLines] at none
      split at none
      · assumption
      · cases none
    | cons next more => cases none
  · rintro rfl
    rfl

theorem newline_not_mem_line {t line : Text} (member : line ∈ t.lines) : '\n' ∉ line := by
  obtain ⟨piece,among,subset⟩ := mem_closeLines member
  exact fun inside => sep_not_mem_splitOn among (subset _ inside)

-- Text that ends a line, or says nothing, has its own lines, whatever comes after it.
def Ended (t : Text) : Prop := t = [] ∨ t.getLast? = some '\n'

instance (t : Text) : Decidable (Ended t) := inferInstanceAs (Decidable (_ ∨ _))

theorem lines_append {a : Text} (ended : Ended a) (b : Text) : (a ++ b).lines = a.lines ++ b.lines := by
  rcases ended with rfl | last
  · rfl
  · obtain ⟨before,rfl⟩ := List.getLast?_eq_some_iff.mp last
    have whole : Text.splitOn '\n' (before ++ ['\n'] ++ b)
        = Text.splitOn '\n' before ++ b.splitOn '\n' := by
      rw [List.append_assoc,List.singleton_append,splitOn_append_sep]
    rw [lines_eq_close,lines_eq_close,lines_eq_close,whole,splitOn_append_last,
      closeLines_append _ (splitOn_ne_nil _ b),closeLines_append _ (by simp)]
    simp [closeLines]

end ScriptDoc.TextLines
