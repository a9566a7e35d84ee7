import Mathlib.Data.List.Pairwise
import ScriptDoc.Proofs.Substitution

-- Texts replaced one after another: when that is the same as replacing them all at once, and when a later
-- replacement meets what an earlier one has put in.
namespace ScriptDoc.SuccessivePasses
open Substitution

def Unlike (a b : Text) : Prop := ¬ a <+: b ∧ ¬ b <+: a

instance (a b : Text) : Decidable (Unlike a b) := inferInstanceAs (Decidable (_ ∧ _))

inductive Opened (mark : Char) : Text → Prop where
  | front {rest : Text} (once : mark ∉ rest) : Opened mark (mark :: rest)

-- Texts to be found that begin with a mark, have it nowhere else and do not begin one another. Two of
-- them never overlap.
structure Marked (mark : Char) (keys : List Text) : Prop where
  opened : ∀ key ∈ keys, Opened mark key
  apart : keys.Pairwise Unlike

def keysOf (table : Table) : List Text := table.map (·.1)

section Marks
variable {mark : Char} {keys : List Text} {old key : Text} {table : Table}

theorem Opened.filled (opened : Opened mark key) : key ≠ [] := by
  cases opened
  simp

theorem Opened.count (opened : Opened mark key) : key.count mark = 1 := by
  cases opened with
  | front once => rw [List.count_cons_self,List.count_eq_zero.mpr once]

theorem Opened.begins {c : Char} {rest : Text} (opened : Opened mark key) (front : key <+: c :: rest) : c = mark := by
  cases opened
  exact (List.cons_prefix_cons.mp front).1.symm

theorem Marked.first (marked : Marked mark (key :: keys)) : Opened mark key := marked.opened key (by simp)

theorem Marked.sublist (marked : Marked mark keys) {part : List Text} (among : part.Sublist keys) : Marked mark part :=
  ⟨fun key listed => marked.opened key (among.subset listed),marked.apart.sublist among⟩

theorem Marked.others (marked : Marked mark (key :: keys)) : Marked mark keys := marked.sublist (List.sublist_cons_self _ _)

theorem Opened.alone (opened : Opened mark key) : Marked mark (key :: keysOf []) :=
  ⟨by simpa [keysOf] using opened,List.pairwise_singleton _ _⟩

theorem Marked.entry (marked : Marked mark (keysOf table)) {entry : Text × Text} (listed : entry ∈ table) :
    Opened mark entry.1 := marked.opened _ (List.mem_map_of_mem listed)

theorem Marked.separate (marked : Marked mark (keysOf table)) : Separate table := by
  refine ⟨fun entry listed => (marked.entry listed).filled,?_⟩
  intro entry listed other among begins
  have symmetric : Std.Symm fun a b : Text × Text => Unlike a.1 b.1 := ⟨fun _ _ unlike => unlike.symm⟩
  by_contra different
  exact ((List.pairwise_map.mp marked.apart).forall among listed different).1 begins

-- What begins before the place of a key also ends before it.
theorem begins_before (there : Opened mark old) (here : Opened mark key) {before after : Text}
    (some : before ≠ []) (begins : key <+: before ++ (old ++ after)) : key <+: before := by
  rcases List.prefix_or_prefix_of_prefix begins (List.prefix_append before _) with short | ⟨rest,rfl⟩
  · exact short
  · obtain ⟨first,others,rfl⟩ := List.exists_cons_of_ne_nil some
    cases here with
    | front once =>
      cases rest with
      | nil => simp
      | cons c rest =>
        cases there
        have within := (List.prefix_append_right_inj _).mp begins
        have same : c = mark := (List.cons_prefix_cons.mp within).1
        exact absurd (by simp [same]) once

-- A text can be cut at each place of a key, and what holds of the parts put together.
theorem cut_induction (filled : old ≠ []) {motive : Text → Prop} (free : ∀ t, ¬ old <:+: t → motive t)
    (cut : ∀ before after, motive before → motive after → motive (before ++ (old ++ after))) (t : Text) : motive t := by
  by_cases inside : old <:+: t
  · obtain ⟨before,after,rfl⟩ := inside
    have long := List.length_pos_of_ne_nil filled
    rw [List.append_assoc]
    exact cut before after (cut_induction filled free cut before) (cut_induction filled free cut after)
  · exact free t inside
termination_by t.length
decreasing_by all_goals subst_vars; simp only [List.length_append]; omega

end Marks

section Substituting
variable {mark : Char} {old : Text} {table : Table}

-- Nothing is found where there is no mark.
theorem substitute_unmarked (marked : Marked mark (keysOf table)) {passed : Text} (clean : mark ∉ passed) (rest : Text) :
    substitute table (passed ++ rest) = passed ++ substitute table rest := by
  induction passed with
  | nil => rfl
  | cons c passed ih =>
    rw [List.cons_append,substitute_other,ih fun inside => clean (List.mem_cons_of_mem c inside),List.cons_append]
    intro entry listed front
    exact clean (by simp [(marked.entry listed).begins front])

-- A key cuts the text into two that are gone through by themselves.
theorem substitute_cut (marked : Marked mark (keysOf table)) (opened : Opened mark old) {new after : Text}
    (here : substitute table (old ++ after) = new ++ substitute table after) (before : Text) :
    substitute table (before ++ (old ++ after)) = substitute table before ++ (new ++ substitute table after) := by
  by_cases none : before = []
  · subst before
    exact here
  by_cases found : ∃ entry ∈ table, entry.1 <+: before
  · obtain ⟨entry,listed,rest,rfl⟩ := found
    have long := List.length_pos_of_ne_nil (marked.entry listed).filled
    rw [List.append_assoc,substitute_entry marked.separate listed,substitute_entry marked.separate listed,
      substitute_cut marked opened here rest,List.append_assoc]
  · obtain ⟨c,rest,rfl⟩ := List.exists_cons_of_ne_nil none
    have missed : ∀ entry ∈ table, ¬ entry.1 <+: c :: rest := fun entry listed begins => found ⟨entry,listed,begins⟩
    have still : ∀ entry ∈ table, ¬ entry.1 <+: c :: (rest ++ (old ++ after)) :=
      fun entry listed begins => missed entry listed (begins_before opened (marked.entry listed) none begins)
    rw [List.cons_append,substitute_other still,substitute_other missed,substitute_cut marked opened here rest,
      List.cons_append]
termination_by before.length
decreasing_by all_goals subst_vars; simp only [List.length_append,List.length_cons]; omega

theorem substitute_entry_cut (marked : Marked mark (old :: keysOf table)) (new before after : Text) :
    substitute ((old, new) :: table) (before ++ (old ++ after)) =
      substitute ((old, new) :: table) before ++ (new ++ substitute ((old, new) :: table) after) := by
  have whole : Marked mark (keysOf ((old, new) :: table)) := marked
  exact substitute_cut whole marked.first (@substitute_entry _ whole.separate (old, new) (by simp) after) before

-- A key that the table does not have is left as it is.
theorem substitute_key_cut (marked : Marked mark (old :: keysOf table)) (before after : Text) :
    substitute table (before ++ (old ++ after)) = substitute table before ++ (old ++ substitute table after) := by
  refine substitute_cut marked.others marked.first ?_ before
  have missed : ∀ entry ∈ table, ¬ entry.1 <+: old ++ after := by
    intro entry listed begins
    obtain ⟨short,long⟩ := (List.pairwise_cons.mp marked.apart).1 entry.1 (List.mem_map_of_mem listed)
    rcases List.prefix_or_prefix_of_prefix begins (List.prefix_append old after) with inner | outer
    · exact long inner
    · exact short outer
  cases marked.first with
  | @front rest once =>
    have plain : substitute table (mark :: (rest ++ after)) = mark :: substitute table (rest ++ after) := substitute_other missed
    rw [List.cons_append,plain,substitute_unmarked marked.others once,List.cons_append]

theorem substituteFrom_unused {new t : Text} (absent : ¬ old <:+: t) (skip : Nat) :
    substituteFrom ((old, new) :: table) skip t = substituteFrom table skip t := by
  induction t generalizing skip with
  | nil => cases skip <;> rfl
  | cons c t ih =>
    have later : ¬ old <:+: t := fun inside => absent (inside.trans (List.suffix_cons c t).isInfix)
    cases skip with
    | succ skip => exact ih later skip
    | zero =>
      have here : old.isPrefixOf (c :: t) = false := by
        rw [Bool.eq_false_iff]
        exact fun front => absent (List.isPrefixOf_iff_prefix.mp front).isInfix
      simp only [substituteFrom,List.find?_cons,here,ih later]

theorem substitute_unused {t : Text} (absent : ¬ old <:+: t) (new : Text) :
    substitute ((old, new) :: table) t = substitute table t := substituteFrom_unused absent 0

theorem substitute_nothing (t : Text) : substitute [] t = t := by
  induction t with
  | nil => rfl
  | cons c t ih => exact congrArg (c :: ·) ih

theorem replaceFrom_eq (old new : Text) (skip : Nat) (t : Text) :
    Text.replaceFrom old new skip t = substituteFrom [(old, new)] skip t := by
  induction t generalizing skip with
  | nil => cases skip <;> rfl
  | cons c t ih =>
    cases skip with
    | succ skip => exact ih skip
    | zero =>
      simp only [Text.replaceFrom,substituteFrom,List.find?_cons,List.find?_nil,ih]
      cases old.isPrefixOf (c :: t) <;> rfl

theorem replace_eq (old new t : Text) : Text.replace old new t = substitute [(old, new)] t := replaceFrom_eq old new 0 t

end Substituting

section Counting
variable {mark : Char} {old : Text} {table : Table}

-- At how many places a text stands in another.
def occurrences (old : Text) : Text → Nat
  | [] => 0
  | c :: rest => (if old.isPrefixOf (c :: rest) then 1 else 0) + occurrences old rest

theorem occurrences_here {c : Char} {rest : Text} (front : old <+: c :: rest) :
    occurrences old (c :: rest) = 1 + occurrences old rest := by
  rw [occurrences,if_pos (List.isPrefixOf_iff_prefix.mpr front)]

theorem occurrences_other {c : Char} {rest : Text} (other : ¬ old <+: c :: rest) :
    occurrences old (c :: rest) = occurrences old rest := by
  rw [occurrences,if_neg fun front => other (List.isPrefixOf_iff_prefix.mp front),Nat.zero_add]

theorem occurrences_unmarked (opened : Opened mark old) {passed : Text} (clean : mark ∉ passed) (rest : Text) :
    occurrences old (passed ++ rest) = occurrences old rest := by
  induction passed with
  | nil => rfl
  | cons c passed ih =>
    rw [List.cons_append,occurrences_other,ih fun inside => clean (List.mem_cons_of_mem c inside)]
    intro front
    exact clean (by simp [opened.begins front])

theorem occurrences_cut (opened : Opened mark old) (before after : Text) :
    occurrences old (before ++ (old ++ after)) = occurrences old before + 1 + occurrences old after := by
  induction before with
  | nil =>
    cases opened with
    | @front rest once =>
      have found : mark :: rest <+: mark :: (rest ++ after) := List.prefix_append (mark :: rest) after
      rw [List.nil_append,List.cons_append,occurrences_here found,occurrences_unmarked (.front once) once,
        occurrences,Nat.zero_add]
  | cons c before ih =>
    rw [List.cons_append]
    by_cases front : old <+: c :: before
    · have longer : old <+: c :: (before ++ (old ++ after)) := front.trans (List.prefix_append (c :: before) _)
      rw [occurrences_here front,occurrences_here longer,ih]
      omega
    · rw [occurrences_other front,occurrences_other,ih]
      exact fun begins => front (begins_before opened opened (by simp) begins)

theorem occurrences_zero_iff (filled : old ≠ []) (t : Text) : occurrences old t = 0 ↔ ¬ old <:+: t := by
  induction t with
  | nil => simp [occurrences,filled]
  | cons c t ih =>
    rw [List.infix_cons_iff,not_or,← ih]
    by_cases front : old <+: c :: t
    · simp [occurrences_here front,front]
    · simp [occurrences_other front,front]

-- No place of a key is lost when others are replaced.
theorem occurrences_le (marked : Marked mark (old :: keysOf table)) (t : Text) :
    occurrences old t ≤ occurrences old (substitute table t) := by
  induction t using cut_induction marked.first.filled with
  | free t absent => simp [(occurrences_zero_iff marked.first.filled t).mpr absent]
  | cut before after first second =>
    rw [substitute_key_cut marked,occurrences_cut marked.first,occurrences_cut marked.first]
    omega

-- Whatever is summed up over a text: a key more takes its own share away at each place and adds what is put in.
theorem weight_substitute (marked : Marked mark (old :: keysOf table)) {weight : Text → Nat}
    (additive : ∀ a b, weight (a ++ b) = weight a + weight b) (new t : Text) :
    weight (substitute ((old, new) :: table) t) + occurrences old t * weight old =
      weight (substitute table t) + occurrences old t * weight new := by
  induction t using cut_induction marked.first.filled with
  | free t absent =>
    rw [substitute_unused absent,(occurrences_zero_iff marked.first.filled t).mpr absent,Nat.zero_mul,Nat.zero_mul]
  | cut before after first second =>
    rw [substitute_entry_cut marked,substitute_key_cut marked,occurrences_cut marked.first]
    simp only [additive,Nat.add_mul,Nat.one_mul]
    omega

theorem weight_replace (opened : Opened mark old) {weight : Text → Nat}
    (additive : ∀ a b, weight (a ++ b) = weight a + weight b) (new t : Text) :
    weight (Text.replace old new t) + occurrences old t * weight old = weight t + occurrences old t * weight new := by
  have sum := weight_substitute opened.alone additive new t
  rwa [substitute_nothing,← replace_eq] at sum

theorem occurrences_replace {key : Text} (marked : Marked mark [key, old]) (new t : Text) :
    occurrences key t ≤ occurrences key (Text.replace old new t) := by
  rw [replace_eq]
  exact @occurrences_le mark key [(old, new)] marked t

theorem count_replace (opened : Opened mark old) {new : Text} (clean : mark ∉ new) (t : Text) :
    (Text.replace old new t).count mark + occurrences old t = t.count mark := by
  have sum := @weight_replace mark old opened (List.count mark) (fun _ _ => List.count_append) new t
  rwa [opened.count,List.count_eq_zero.mpr clean,Nat.mul_one,Nat.mul_zero,Nat.add_zero] at sum

-- Two keys do not begin at the same place.
theorem occurrences_count {one two : Text} (marked : Marked mark [one, two]) (t : Text) :
    occurrences one t + occurrences two t ≤ t.count mark := by
  obtain ⟨first,second⟩ : Opened mark one ∧ Opened mark two := by simpa using marked.opened
  induction t with
  | nil => simp [occurrences]
  | cons c t ih =>
    by_cases here : c = mark
    · subst c
      rw [List.count_cons_self]
      by_cases front : one <+: mark :: t
      · have other : ¬ two <+: mark :: t := by
          intro also
          have unlike : Unlike one two := by simpa using marked.apart
          rcases List.prefix_or_prefix_of_prefix front also with inner | outer
          · exact unlike.1 inner
          · exact unlike.2 outer
        rw [occurrences_here front,occurrences_other other]
        omega
      · rw [occurrences_other front,occurrences]
        split <;> omega
    · rw [List.count_cons_of_ne here,occurrences_other fun front => here (first.begins front),
        occurrences_other fun front => here (second.begins front)]
      exact ih

end Counting

section Passes
variable {mark : Char} {old new : Text} {table : Table}

theorem replace_cut (opened : Opened mark old) (new before after : Text) :
    Text.replace old new (before ++ (old ++ after)) = Text.replace old new before ++ (new ++ Text.replace old new after) := by
  simp only [replace_eq]
  exact substitute_entry_cut opened.alone new before after

theorem replace_unused {t : Text} (absent : ¬ old <:+: t) (new : Text) : Text.replace old new t = t := by
  rw [replace_eq,substitute_unused absent,substitute_nothing]

theorem substitute_same (marked : Marked mark (old :: keysOf table)) (t : Text) :
    substitute ((old, old) :: table) t = substitute table t := by
  induction t using cut_induction marked.first.filled with
  | free t absent => exact substitute_unused absent old
  | cut before after first second => rw [substitute_entry_cut marked,substitute_key_cut marked,first,second]

theorem replace_same (opened : Opened mark old) (t : Text) : Text.replace old old t = t := by
  rw [replace_eq,substitute_same opened.alone,substitute_nothing]

-- A replacement after the others does what it would do with them, if it finds no more than they have left it.
theorem pass_joins (marked : Marked mark (old :: keysOf table)) (new : Text) {t : Text}
    (same : occurrences old (substitute table t) = occurrences old t) :
    Text.replace old new (substitute table t) = substitute ((old, new) :: table) t := by
  have filled := marked.first.filled
  induction t using cut_induction filled with
  | free t absent =>
    rw [(occurrences_zero_iff filled t).mpr absent,occurrences_zero_iff filled] at same
    rw [replace_unused same,substitute_unused absent]
  | cut before after first second =>
    rw [substitute_key_cut marked,occurrences_cut marked.first,occurrences_cut marked.first] at same
    have front := occurrences_le marked before
    have back := occurrences_le marked after
    rw [substitute_key_cut marked,replace_cut marked.first,substitute_entry_cut marked,first (by omega),second (by omega)]

-- What is put in may be as long as what is taken out. Then each place still shows the difference.
theorem replaced_stays (opened : Opened mark old) (long : new.length = old.length) (other : new ≠ old) {t : Text}
    (same : Text.replace old new t = t) : occurrences old t = 0 := by
  rw [occurrences_zero_iff opened.filled]
  rintro ⟨before,after,rfl⟩
  rw [List.append_assoc,replace_cut opened] at same
  have sum := weight_replace opened (fun _ _ => List.length_append) new before
  rw [long] at sum
  have middle := (List.append_inj same (by omega)).2
  exact other (List.append_inj_left middle long)

theorem equal_length_found (marked : Marked mark (old :: keysOf table)) (long : new.length = old.length)
    (other : new ≠ old) {t : Text}
    (joins : Text.replace old new (substitute table t) = substitute ((old, new) :: table) t) :
    occurrences old (substitute table t) = occurrences old t := by
  have filled := marked.first.filled
  induction t using cut_induction filled with
  | free t absent =>
    rw [substitute_unused absent] at joins
    rw [replaced_stays marked.first long other joins,(occurrences_zero_iff filled t).mpr absent]
  | cut before after first second =>
    rw [substitute_key_cut marked,replace_cut marked.first,substitute_entry_cut marked] at joins
    have left := weight_replace marked.first (fun _ _ => List.length_append) new (substitute table before)
    have right := weight_substitute marked (fun _ _ => List.length_append) new before
    rw [long] at left right
    obtain ⟨front,back⟩ := List.append_inj joins (by omega)
    rw [substitute_key_cut marked,occurrences_cut marked.first,occurrences_cut marked.first,first front,
      second (List.append_cancel_left back)]

theorem pass_joins_iff (marked : Marked mark (old :: keysOf table)) (new t : Text) :
    Text.replace old new (substitute table t) = substitute ((old, new) :: table) t ↔
      new = old ∨ occurrences old (substitute table t) = occurrences old t := by
  constructor
  · intro joins
    by_cases same : new = old
    · exact .inl same
    refine .inr ?_
    by_cases long : new.length = old.length
    · exact equal_length_found marked long same joins
    -- Every place that is found too many changes the length once more.
    have left := weight_replace marked.first (fun _ _ => List.length_append) new (substitute table t)
    have right := weight_substitute marked (fun _ _ => List.length_append) new t
    obtain ⟨extra,more⟩ := Nat.exists_eq_add_of_le (occurrences_le marked t)
    rw [joins,more,Nat.add_mul,Nat.add_mul] at left
    have none : extra * old.length = extra * new.length := by omega
    rcases Nat.eq_zero_or_pos extra with zero | some
    · omega
    · exact absurd (Nat.eq_of_mul_eq_mul_left some none).symm long
  · rintro (rfl | same)
    · rw [replace_same marked.first,substitute_same marked]
    · exact pass_joins marked new same

end Passes
end ScriptDoc.SuccessivePasses
