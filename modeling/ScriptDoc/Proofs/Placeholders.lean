import ScriptDoc.Output
import ScriptDoc.Proofs.SuccessivePasses

-- The names of output files, as a pattern with placeholders gives them.
namespace ScriptDoc.Placeholders
open Output TextLines Substitution SuccessivePasses

section Passes

def nameKey : Text := "\x7bfilename\x7d"
def baseKey : Text := "\x7bbasename\x7d"
def extKey : Text := "\x7bext\x7d"

theorem keys_marked : Marked '\x7b' [extKey, baseKey, nameKey] := by
  refine ⟨?_,by decide⟩
  simp only [List.forall_mem_cons]
  exact ⟨.front (by decide),.front (by decide),.front (by decide),by simp⟩

-- The name that a pattern stands for: its own placeholders filled in, and nothing else.
def atOnce (pattern filename ext : Text) : Text :=
  substitute [(extKey, ext), (baseKey, baseName filename), (nameKey, filename)] pattern

-- What the first replacement leaves of a pattern, and what the second.
def named (pattern filename : Text) : Text := Text.replace nameKey filename pattern
def based (pattern filename : Text) : Text := Text.replace baseKey (baseName filename) (named pattern filename)

theorem expand_eq (pattern filename ext : Text) :
    expand pattern filename ext = Text.replace extKey ext (based pattern filename) := rfl

-- No replacement finds a placeholder that the pattern does not have. One too many does no harm only if the
-- same placeholder is put in for it.
structure Undisturbed (pattern filename : Text) : Prop where
  base : baseName filename = baseKey ∨ occurrences baseKey (named pattern filename) = occurrences baseKey pattern
  ext : occurrences extKey (based pattern filename) = occurrences extKey pattern

theorem based_iff (pattern filename : Text) :
    based pattern filename = substitute [(baseKey, baseName filename), (nameKey, filename)] pattern ↔
      baseName filename = baseKey ∨ occurrences baseKey (named pattern filename) = occurrences baseKey pattern := by
  have marked : Marked '\x7b' (baseKey :: keysOf [(nameKey, filename)]) := keys_marked.others
  rw [based,named,replace_eq nameKey]
  exact pass_joins_iff marked _ pattern

theorem expand_at_once_iff (pattern filename : Text) :
    (∀ ext, expand pattern filename ext = atOnce pattern filename ext) ↔ Undisturbed pattern filename := by
  have marked : Marked '\x7b' (extKey :: keysOf [(baseKey, baseName filename), (nameKey, filename)]) := keys_marked
  constructor
  · intro always
    -- An extension that stands for itself shows what the first two replacements have done.
    have first : based pattern filename = substitute [(baseKey, baseName filename), (nameKey, filename)] pattern := by
      have itself := always extKey
      rwa [expand_eq,replace_same marked.first,atOnce,substitute_same marked] at itself
    refine ⟨(based_iff pattern filename).mp first,?_⟩
    have last := always []
    rw [expand_eq,first,atOnce] at last
    rw [first]
    exact ((pass_joins_iff marked [] pattern).mp last).resolve_left (by decide)
  · intro undisturbed ext
    have found := undisturbed.ext
    have first := (based_iff pattern filename).mpr undisturbed.base
    rw [first] at found
    rw [expand_eq,first,pass_joins marked ext found,atOnce]

end Passes

section BaseNames

theorem mem_components {t name : Text} (listed : .name name ∈ Path.components t) : name ∈ t.splitOn '/' := by
  have made : ∀ piece, Path.ofPiece piece = .name name → piece = name := by
    intro piece same
    unfold Path.ofPiece at same
    split at same
    · cases same
    · cases same
      rfl
  obtain ⟨first,rest,found⟩ := splitOn_cases '/' t
  simp only [Path.components,found] at listed
  rcases List.mem_append.mp listed with front | later
  · split at front
    · split at front <;> simp at front
    split at front
    · simp at front
    · simp [found,made first (List.mem_singleton.mp front).symm]
  · obtain ⟨piece,kept,same⟩ := List.mem_map.mp later
    have member : piece ∈ rest := (List.mem_filter.mp kept).1
    rw [made piece same] at member
    simp [found,member]

theorem mem_splitExtension {name : Text} {c : Char} (inside : c ∈ (Path.splitExtension name).1) : c ∈ name := by
  unfold Path.splitExtension at inside
  split at inside
  · exact inside
  · rename_i extension stem _ cut
    have whole := (cut_some_iff.mp cut).1
    rw [← List.mem_reverse,whole]
    simp [List.mem_reverse.mp inside]
  · exact inside

theorem mem_baseName {filename : Text} {c : Char} (inside : c ∈ baseName filename) : c ∈ filename := by
  unfold baseName Path.stem Path.fileName at inside
  split at inside
  · rename_i name last
    have listed := mem_components (List.mem_of_getLast? last)
    exact mem_splitOn listed (mem_splitExtension inside)
  · simp at inside

end BaseNames

section Braces

-- Each brace that opens belongs to a placeholder.
def Plain (pattern : Text) : Prop :=
  pattern.count '\x7b' = occurrences nameKey pattern + occurrences baseKey pattern + occurrences extKey pattern

instance (pattern : Text) : Decidable (Plain pattern) := inferInstanceAs (Decidable (_ = _))

-- Without a brace of its own what is put in opens nothing, and each brace that is left was there to begin with.
theorem plain_undisturbed {pattern filename : Text} (plain : Plain pattern) (clean : '\x7b' ∉ filename) :
    Undisturbed pattern filename := by
  have nameMarked := keys_marked.opened nameKey (by simp)
  have baseMarked := keys_marked.opened baseKey (by simp)
  have cleanBase : '\x7b' ∉ baseName filename := fun inside => clean (mem_baseName inside)
  have ends : Marked '\x7b' [extKey, nameKey] := keys_marked.sublist (by decide)
  have pair : Marked '\x7b' [extKey, baseKey] := keys_marked.sublist (by decide)
  -- After the first replacement.
  have bases : occurrences baseKey pattern ≤ occurrences baseKey (named pattern filename) :=
    occurrences_replace keys_marked.others filename pattern
  have exts : occurrences extKey pattern ≤ occurrences extKey (named pattern filename) :=
    occurrences_replace ends filename pattern
  have braces : (named pattern filename).count '\x7b' + occurrences nameKey pattern = pattern.count '\x7b' :=
    count_replace nameMarked clean pattern
  have both := occurrences_count pair (named pattern filename)
  -- After the second.
  have extsLater : occurrences extKey (named pattern filename) ≤ occurrences extKey (based pattern filename) :=
    occurrences_replace pair (baseName filename) (named pattern filename)
  have bracesLater : (based pattern filename).count '\x7b' + occurrences baseKey (named pattern filename) =
      (named pattern filename).count '\x7b' := count_replace baseMarked cleanBase (named pattern filename)
  have bothLater := occurrences_count pair (based pattern filename)
  unfold Plain at plain
  exact ⟨.inr (by omega),by omega⟩

end Braces

theorem expand_at_once (pattern filename : Text) :
    ((∀ ext, expand pattern filename ext = atOnce pattern filename ext) ↔ Undisturbed pattern filename) ∧
    (Plain pattern → '\x7b' ∉ filename → ∀ ext, expand pattern filename ext = atOnce pattern filename ext) := by
  refine ⟨expand_at_once_iff pattern filename,?_⟩
  intro plain clean
  exact (expand_at_once_iff pattern filename).mpr (plain_undisturbed plain clean)

theorem expand_at_once_manual :
    let pattern : Text := "man/\x7bbasename\x7d.\x7bext\x7d"
    Plain pattern ∧ '\x7b' ∉ ("demo.sh" : Text) ∧ expand pattern "demo.sh" "1" = "man/demo.1" ∧
      ∀ ext, expand pattern "demo.sh" ext = atOnce pattern "demo.sh" ext := by
  intro pattern
  have plain : Plain pattern := by decide
  exact ⟨plain,by decide,by decide,(expand_at_once pattern "demo.sh").2 plain (by decide)⟩

-- A placeholder in the file name is filled in as if it stood in the pattern, and so is one that comes about
-- only where the file name is put in.
theorem inserted_text_expanded :
    expand "\x7bfilename\x7d.\x7bext\x7d" "\x7bext\x7d.sh" "1" = "1.sh.1" ∧
    atOnce "\x7bfilename\x7d.\x7bext\x7d" "\x7bext\x7d.sh" "1" = "\x7bext\x7d.sh.1" ∧
    expand "\x7b\x7bfilename\x7d\x7d" "ext" "1" = "1" ∧
    atOnce "\x7b\x7bfilename\x7d\x7d" "ext" "1" = "\x7bext\x7d" := by
  decide

end ScriptDoc.Placeholders
