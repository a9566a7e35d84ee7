import Mathlib.Data.List.Basic
import ScriptDoc.Proofs.KeyedGroups
import ScriptDoc.Proofs.TextLines

-- Several texts replaced at once, and characters replaced one after another.
namespace ScriptDoc.Substitution
open TextLines

abbrev Table := List (Text × Text)

-- Leftmost occurrences that do not overlap, each replaced by what stands beside it in the table. The
-- counter is what is still to be passed over of an occurrence that has been replaced.
def substituteFrom (table : Table) : Nat → Text → Text
  | _, [] => []
  | skip + 1, _ :: rest => substituteFrom table skip rest
  | 0, c :: rest =>
    match table.find? (·.1.isPrefixOf (c :: rest)) with
    | some entry => entry.2 ++ substituteFrom table (entry.1.length - 1) rest
    | none => c :: substituteFrom table 0 rest

def substitute (table : Table) (t : Text) : Text := substituteFrom table 0 t

-- No entry is empty or begins with another, so it does not matter in which order they are tried.
structure Separate (table : Table) : Prop where
  filled : ∀ entry ∈ table, entry.1 ≠ []
  apart : ∀ entry ∈ table, ∀ other ∈ table, other.1 <+: entry.1 → other = entry

section Scanning
variable {table : Table}

theorem substituteFrom_skip (passed rest : Text) : substituteFrom table passed.length (passed ++ rest) = substitute table rest := by
  induction passed with
  | nil => rfl
  | cons c passed ih => exact ih

theorem find_entry (separate : Separate table) {entry : Text × Text} (listed : entry ∈ table) (rest : Text) :
    table.find? (·.1.isPrefixOf (entry.1 ++ rest)) = some entry := by
  cases found : table.find? (·.1.isPrefixOf (entry.1 ++ rest)) with
  | none =>
    have missed := List.find?_eq_none.mp found entry listed
    exact absurd (List.isPrefixOf_iff_prefix.mpr (List.prefix_append _ _)) missed
  | some other =>
    have begins : other.1 <+: entry.1 ++ rest := List.isPrefixOf_iff_prefix.mp (by simpa using List.find?_some found)
    have among : other ∈ table := List.mem_of_find?_eq_some found
    rcases List.prefix_or_prefix_of_prefix begins (List.prefix_append _ _) with short | long
    · rw [separate.apart entry listed other among short]
    · rw [separate.apart other among entry listed long]

theorem substitute_entry (separate : Separate table) {entry : Text × Text} (listed : entry ∈ table) (rest : Text) :
    substitute table (entry.1 ++ rest) = entry.2 ++ substitute table rest := by
  have found := find_entry separate listed rest
  obtain ⟨c,more,shape⟩ := List.exists_cons_of_ne_nil (separate.filled entry listed)
  rw [shape,List.cons_append] at found ⊢
  rw [substitute,substituteFrom,found]
  dsimp only
  rw [shape]
  exact congrArg (entry.2 ++ ·) (substituteFrom_skip more rest)

theorem substitute_other {c : Char} {rest : Text} (other : ∀ entry ∈ table, ¬ entry.1 <+: c :: rest) :
    substitute table (c :: rest) = c :: substitute table rest := by
  have none : table.find? (·.1.isPrefixOf (c :: rest)) = none := by
    rw [List.find?_eq_none]
    exact fun entry listed front => other entry listed (List.isPrefixOf_iff_prefix.mp front)
  rw [substitute,substituteFrom,none]
  rfl

end Scanning

section Codes

-- Characters with what stands for each of them.
abbrev Codes := List (Char × Text)

def code (codes : Codes) (c : Char) : Text := (codes.lookup c).getD [c]

-- The way back, from what stands for a character to the character.
def reading (codes : Codes) : Table := codes.map fun e => (e.2, [e.1])

-- One replacement after another, each over what the ones before it have left.
def passes (codes : Codes) (t : Text) : Text := codes.foldl (fun t e => Text.replaceChar e.1 e.2 t) t

variable {codes : Codes}

theorem code_cons (c first : Char) (new : Text) (codes : Codes) :
    code ((first, new) :: codes) c = if c = first then new else code codes c := by
  unfold code
  rw [KeyedGroups.lookup_cons]
  split <;> rfl

theorem code_cases (c : Char) :
    (∃ e ∈ codes, e.1 = c ∧ code codes c = e.2) ∨ (∀ e ∈ codes, e.1 ≠ c) ∧ code codes c = [c] := by
  induction codes with
  | nil => exact .inr ⟨by simp,rfl⟩
  | cons e codes ih =>
    rw [code_cons]
    by_cases same : c = e.1
    · exact .inl ⟨e,by simp,same.symm,if_pos same⟩
    rw [if_neg same]
    rcases ih with ⟨other,listed,found⟩ | ⟨absent,plain⟩
    · exact .inl ⟨other,List.mem_cons_of_mem _ listed,found⟩
    · exact .inr ⟨List.forall_mem_cons.mpr ⟨Ne.symm same,absent⟩,plain⟩

theorem code_absent {c : Char} (absent : ∀ e ∈ codes, e.1 ≠ c) : code codes c = [c] := by
  rcases code_cases c with ⟨e,listed,same,_⟩ | ⟨_,plain⟩
  · exact absurd same (absent e listed)
  · exact plain

-- Passes amount to one when none of them meets what an earlier one has put in.
theorem passes_eq (kept : codes.Pairwise fun e later => later.1 ∉ e.2) (t : Text) : passes codes t = t.flatMap (code codes) := by
  induction codes generalizing t with
  | nil => exact (List.flatMap_singleton' t).symm
  | cons e codes ih =>
    obtain ⟨first,others⟩ := List.pairwise_cons.mp kept
    have whole : passes (e :: codes) t = passes codes (Text.replaceChar e.1 e.2 t) := rfl
    rw [whole,ih others,Text.replaceChar,List.flatMap_assoc]
    apply List.flatMap_congr
    intro c _
    rw [code_cons]
    split
    · have untouched : ∀ d ∈ e.2, code codes d = [d] := by
        intro d inside
        apply code_absent
        rintro later listed rfl
        exact first later listed inside
      exact flatMap_alone untouched
    · simp

-- What was put in the place of characters is read back, as long as no other character begins like it.
theorem reading_code (separate : Separate (reading codes)) {t : Text}
    (free : ∀ c ∈ t, (∀ e ∈ codes, e.1 ≠ c) → ∀ e ∈ codes, e.2.head? ≠ some c) :
    substitute (reading codes) (t.flatMap (code codes)) = t := by
  induction t with
  | nil => rfl
  | cons c t ih =>
    have tail := ih fun d inside => free d (List.mem_cons_of_mem _ inside)
    rw [List.flatMap_cons]
    rcases code_cases c with ⟨e,listed,rfl,shown⟩ | ⟨absent,shown⟩
    · have entry : (e.2, [e.1]) ∈ reading codes := List.mem_map.mpr ⟨e,listed,rfl⟩
      rw [shown,substitute_entry separate entry,tail]
      rfl
    · rw [shown,List.singleton_append,substitute_other,tail]
      intro entry listed begins
      obtain ⟨e,member,rfl⟩ := List.mem_map.mp listed
      have filled : e.2 ≠ [] := separate.filled _ listed
      obtain ⟨d,more,shape⟩ := List.exists_cons_of_ne_nil filled
      rw [shape] at begins
      apply free c (by simp) absent e member
      rw [shape,(List.cons_prefix_cons.mp begins).1]
      rfl

end Codes
end ScriptDoc.Substitution
