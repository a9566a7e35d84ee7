import Mathlib.Algebra.Group.Nat.Even
import ScriptDoc.Proofs.GroffLines

-- That code stands on the man page as mere text, and that its lines can be had back from there.
namespace ScriptDoc.VerbatimText
open Groff GroffLines TextLines

def doubled (t : Text) : Text := Text.replaceChar '\\' "\\\\" t

-- Each run of backslashes at half its length.
def halved (t : Text) : Text :=
  (t.runs (· == '\\')).flatMap fun (slashes, run) => if slashes then List.replicate (run.length / 2) '\\' else run

-- The guard is taken off only in front of what it guards.
def unguarded : Text → Text
  | '\\' :: '&' :: c :: rest => if opensRequest c then c :: rest else '\\' :: '&' :: c :: rest
  | line => line

def restoredLines (shown : Text) : List Text := (shown.splitOn '\n').map fun line => halved (unguarded line)

section Restoring

theorem doubled_slash (t : Text) : doubled ('\\' :: t) = '\\' :: '\\' :: doubled t := rfl

theorem doubled_other {c : Char} (other : c ≠ '\\') (t : Text) : doubled (c :: t) = c :: doubled t := by
  simp [doubled,Text.replaceChar,other]

theorem halved_pair (t : Text) : halved ('\\' :: '\\' :: t) = '\\' :: halved t := by
  unfold halved
  cases found : t.runs (· == '\\') with
  | nil => simp [Text.runs,found]
  | cons first more =>
    obtain ⟨slashes,run⟩ := first
    cases slashes with
    | false => simp [Text.runs,found]
    | true =>
      have half : (run.length + 1 + 1) / 2 = run.length / 2 + 1 := by omega
      simp [Text.runs,found,half,List.replicate_succ]

theorem halved_other {c : Char} (other : c ≠ '\\') (t : Text) : halved (c :: t) = c :: halved t := by
  have side : (c == '\\') = false := beq_eq_false_iff_ne.mpr other
  unfold halved
  cases found : t.runs (· == '\\') with
  | nil => simp [Text.runs,found,side]
  | cons first more =>
    obtain ⟨slashes,run⟩ := first
    cases slashes <;> simp [Text.runs,found,side]

theorem halved_doubled (t : Text) : halved (doubled t) = t := by
  induction t with
  | nil => rfl
  | cons c t ih =>
    by_cases slash : c = '\\'
    · subst c
      rw [doubled_slash,halved_pair,ih]
    · rw [doubled_other slash,halved_other slash,ih]

-- A line is guarded for a character of its own, for a backslash opens no request.
theorem guardLine_cases (line : Text) :
    (∃ c rest, opensRequest c = true ∧ line = c :: rest ∧ guardLine line = '\\' :: '&' :: c :: doubled rest) ∨
      guardLine line = doubled line := by
  cases line with
  | nil => exact .inr rfl
  | cons c rest =>
    by_cases slash : c = '\\'
    · subst c
      exact .inr rfl
    have shape : Text.replaceChar '\\' "\\\\" (c :: rest) = c :: doubled rest := doubled_other slash rest
    rw [guardLine,shape]
    cases opens : opensRequest c with
    | true => exact .inl ⟨c,rest,opens,rfl,if_pos (by simpa [opensRequest] using opens)⟩
    | false => exact .inr ((if_neg (by simpa [opensRequest] using opens)).trans shape.symm)

theorem opensRequest_plain {c : Char} (opens : opensRequest c = true) : c ≠ '\\' := by
  rintro rfl
  cases opens

-- Backslashes of the line itself come in pairs, so none of them looks like a guard.
theorem unguarded_doubled (line : Text) : unguarded (doubled line) = doubled line := by
  cases line with
  | nil => rfl
  | cons c rest =>
    by_cases slash : c = '\\'
    · subst c
      rfl
    · rw [doubled_other slash]
      unfold unguarded
      split
      · rename_i shape
        exact absurd (List.cons.inj shape).1 slash
      · rfl

theorem restored_guardLine (line : Text) : halved (unguarded (guardLine line)) = line := by
  rcases guardLine_cases line with ⟨c,rest,opens,rfl,guarded⟩ | same
  · rw [guarded,unguarded,if_pos opens,← doubled_other (opensRequest_plain opens),halved_doubled]
  · rw [same,unguarded_doubled,halved_doubled]

end Restoring

section Pairing

-- A run of backslashes that goes on neither to the left nor to the right.
structure SlashRun (t before run after : Text) : Prop where
  whole : t = before ++ run ++ after
  filled : run ≠ []
  slashes : ∀ c ∈ run, c = '\\'
  left : before.getLast? ≠ some '\\'
  right : after.head? ≠ some '\\'

-- The backslash of a guard at the beginning of a line.
def IsGuard (before run after : Text) : Prop :=
  (before = [] ∨ before.getLast? = some '\n') ∧ run = "\\" ∧ ∃ c rest, after = '&' :: c :: rest ∧ opensRequest c = true

-- Backslashes two by two, and one alone only in a guard. The flag tells whether a line begins here.
inductive Paired : Bool → Text → Prop where
  | nothing (start : Bool) : Paired start []
  | pair {start : Bool} {rest : Text} (more : Paired false rest) : Paired start ('\\' :: '\\' :: rest)
  | other {start : Bool} {c : Char} {rest : Text} (plain : c ≠ '\\') (more : Paired (c == '\n') rest) : Paired start (c :: rest)
  | guard {c : Char} {rest : Text} (opens : opensRequest c = true) (more : Paired false rest) :
      Paired true ('\\' :: '&' :: c :: rest)

theorem paired_doubled {after : Text} (fine : ∀ start, Paired start after) (line : Text) (start : Bool) :
    Paired start (doubled line ++ after) := by
  induction line generalizing start with
  | nil => exact fine start
  | cons c line ih =>
    by_cases slash : c = '\\'
    · subst c
      exact .pair (ih false)
    · rw [doubled_other slash]
      exact .other slash (ih _)

theorem paired_guardLine {after : Text} (fine : ∀ start, Paired start after) (line : Text) :
    Paired true (guardLine line ++ after) := by
  rcases guardLine_cases line with ⟨c,rest,opens,_,guarded⟩ | same
  · rw [guarded]
    exact .guard opens (paired_doubled fine rest false)
  · rw [same]
    exact paired_doubled fine line true

theorem paired_join (lines : List Text) : Paired true (Text.join "\n" (lines.map guardLine)) := by
  induction lines with
  | nil => exact .nothing true
  | cons line lines ih =>
    by_cases last : lines = []
    · subst lines
      have alone := paired_guardLine .nothing line
      rwa [List.append_nil] at alone
    · rw [List.map_cons,join_cons _ (by simpa using last),List.append_assoc]
      exact paired_guardLine (fun start => @Paired.other start '\n' _ (by decide) ih) line

-- A run begins with the first character or behind it.
theorem SlashRun.cases {c : Char} {t before run after : Text} (found : SlashRun (c :: t) before run after) :
    (∃ rest, before = c :: rest ∧ SlashRun t rest run after) ∨
      before = [] ∧ c = '\\' ∧ ∃ rest, run = '\\' :: rest ∧ t = rest ++ after := by
  obtain ⟨whole,filled,slashes,left,right⟩ := found
  cases before with
  | nil =>
    obtain ⟨d,rest,rfl⟩ := List.exists_cons_of_ne_nil filled
    obtain ⟨rfl,tail⟩ := List.cons.inj whole
    have slash : c = '\\' := slashes c (by simp)
    exact .inr ⟨rfl,slash,rest,by rw [slash],tail⟩
  | cons d rest =>
    obtain ⟨rfl,tail⟩ := List.cons.inj whole
    refine .inl ⟨rest,rfl,tail,filled,slashes,?_,right⟩
    intro last
    apply left
    rw [List.getLast?_cons,last]
    rfl

-- A guard is still one with more in front of it, if that ends with a line feed or there is something between.
theorem IsGuard.behind {front before run after : Text} (guard : IsGuard before run after)
    (ended : before = [] → front.getLast? = some '\n') : IsGuard (front ++ before) run after := by
  refine ⟨.inr ?_,guard.2⟩
  by_cases none : before = []
  · rw [none,List.append_nil,ended none]
  · rw [List.getLast?_append,guard.1.resolve_left none]
    rfl

theorem paired_runs {start : Bool} {t before run after : Text} (paired : Paired start t) (found : SlashRun t before run after) :
    Even run.length ∨ (before = [] → start = true) ∧ IsGuard before run after := by
  induction paired generalizing before run with
  | nothing start =>
    have none := found.whole
    simp [found.filled] at none
  | @pair start rest more ih =>
    rcases found.cases with ⟨before,rfl,inner⟩ | ⟨rfl,_,run,rfl,tail⟩
    · rcases inner.cases with ⟨before,rfl,deep⟩ | ⟨rfl,_⟩
      · refine (ih deep).imp_right ?_
        rintro ⟨inside,guard⟩
        exact ⟨by simp,@IsGuard.behind ['\\', '\\'] _ _ _ guard fun none => absurd (inside none) (by decide)⟩
      · exact absurd rfl found.left
    · cases run with
      | nil => exact absurd (congrArg List.head? tail).symm found.right
      | cons d run =>
        obtain ⟨rfl,back⟩ := List.cons.inj tail
        refine .inl ?_
        by_cases none : run = []
        · rw [none]
          exact ⟨1,rfl⟩
        have slashes := fun c inside => found.slashes c (List.mem_cons_of_mem _ (List.mem_cons_of_mem _ inside))
        rcases @ih [] run ⟨back,none,slashes,by simp,found.right⟩ with even | ⟨inside,_⟩
        · exact even.add ⟨1,rfl⟩
        · exact absurd (inside rfl) (by decide)
  | @other start c rest plain more ih =>
    rcases found.cases with ⟨before,rfl,inner⟩ | ⟨_,slash,_⟩
    · refine (ih inner).imp_right ?_
      rintro ⟨first,guard⟩
      exact ⟨by simp,@IsGuard.behind [c] _ _ _ guard fun none => congrArg some (beq_iff_eq.mp (first none))⟩
    · exact absurd slash plain
  | @guard c rest opens more ih =>
    rcases found.cases with ⟨before,rfl,inner⟩ | ⟨rfl,_,run,rfl,tail⟩
    · rcases inner.cases with ⟨before,rfl,further⟩ | ⟨_,slash,_⟩
      · rcases further.cases with ⟨before,rfl,deep⟩ | ⟨_,slash,_⟩
        · refine (ih deep).imp_right ?_
          rintro ⟨inside,guard⟩
          exact ⟨by simp,@IsGuard.behind ['\\', '&', c] _ _ _ guard fun none => absurd (inside none) (by decide)⟩
        · exact absurd slash (opensRequest_plain opens)
      · exact absurd slash (by decide)
    · cases run with
      | nil => exact .inr ⟨fun _ => rfl,.inl rfl,rfl,c,rest,tail.symm,opens⟩
      | cons d run =>
        obtain ⟨rfl,_⟩ := List.cons.inj tail
        exact absurd (found.slashes '&' (by simp)) (by decide)

end Pairing

-- Code as it is shown: no line of it is a request, its backslashes are paired, and its lines can be had back.
structure Shown (t shown : Text) : Prop where
  text : ∀ line ∈ shown.splitOn '\n', line.head? ≠ some '.' ∧ line.head? ≠ some '\''
  runs : ∀ before run after, SlashRun shown before run after → Even run.length ∨ IsGuard before run after
  restored : restoredLines shown = t.lines

section Samples

theorem splitOn_verbatim {t : Text} (filled : t ≠ []) : Text.splitOn '\n' (verbatim t) = t.lines.map guardLine := by
  apply splitOn_join_clean (by simpa [lines_eq_nil_iff] using filled)
  intro shown listed
  obtain ⟨line,among,rfl⟩ := List.mem_map.mp listed
  have clean := replaceChar_clean (newline_not_mem_line among)
  rcases guardLine_cases line with ⟨c,rest,opens,rfl,guarded⟩ | same
  · have shape : '\n' ∉ c :: doubled rest := doubled_other (opensRequest_plain opens) rest ▸ clean
    rw [guarded]
    simpa using shape
  · rwa [same]

theorem restoredLines_verbatim {t : Text} (filled : t ≠ []) : restoredLines (verbatim t) = t.lines := by
  rw [restoredLines,splitOn_verbatim filled,List.map_map]
  exact (List.map_congr_left fun line _ => restored_guardLine line).trans (List.map_id _)

theorem verbatim_shown {t : Text} (filled : t ≠ []) : Shown t (verbatim t) where
  text line listed := by
    have none := requests_quiet (quiet_verbatim t)
    have plain := List.filter_eq_nil_iff.mp none line listed
    constructor
    · intro dot
      exact plain (by rw [isRequest,dot]; rfl)
    · intro quote
      exact plain (by rw [isRequest,quote]; rfl)
  runs before run after found := (paired_runs (paired_join t.lines) found).imp_right (·.2)
  restored := restoredLines_verbatim filled

theorem verbatim_restores {t : Text} (filled : t ≠ []) :
    Shown t (verbatim t) ∧ ∀ other : Text, other ≠ [] → (verbatim other = verbatim t ↔ other.lines = t.lines) := by
  refine ⟨verbatim_shown filled,?_⟩
  intro other some
  constructor
  · intro same
    rw [← restoredLines_verbatim some,same,restoredLines_verbatim filled]
  · intro same
    rw [verbatim,same,verbatim]

-- A request, a backslash in front, and what looks like a guard already.
theorem verbatim_restores_guards :
    let t : Text := ".so a\\b\r\n\\&.x\n'"
    t ≠ [] ∧ verbatim t = "\\&.so a\\\\b\n\\\\&.x\n\\&'" ∧ t.lines = ([".so a\\b", "\\&.x", "'"] : List Text) ∧
      Shown t (verbatim t) ∧ ∀ other : Text, other ≠ [] → (verbatim other = verbatim t ↔ other.lines = t.lines) := by
  intro t
  have filled : t ≠ [] := by decide
  exact ⟨filled,by decide,by decide,verbatim_restores filled⟩

end Samples
end ScriptDoc.VerbatimText
