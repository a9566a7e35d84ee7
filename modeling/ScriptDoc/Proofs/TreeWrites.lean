import ScriptDoc.Output
import ScriptDoc.Proofs.KeyedGroups
import ScriptDoc.Proofs.TreeWalks

-- What one attempt to write a file changes: at most the file at the place that its path spells.
namespace ScriptDoc.TreeWrites
open FileTree TreeWalks
open KeyedGroups (lookup_cons)

def fileAt (tree : FileTree) (place : List Text) : Option Utf8.Bytes :=
  match tree.nodeAt place with
  | some (.file _ content) => some content
  | _ => none

-- All files are as they were, but for what may be at one place.
structure Spares (place : List Text) (tree next : FileTree) : Prop where
  home : next.home = tree.home
  others : ∀ other, other ≠ place → fileAt next other = fileAt tree other

-- Directories may have been made, but no file was touched.
structure Untouched (tree next : FileTree) : Prop where
  home : next.home = tree.home
  files : fileAt next = fileAt tree

theorem untouched_refl (tree : FileTree) : Untouched tree tree := ⟨rfl,rfl⟩

theorem Untouched.trans {tree middle next : FileTree} (one : Untouched tree middle) (two : Untouched middle next) :
    Untouched tree next := ⟨two.home.trans one.home,two.files.trans one.files⟩

-- What a path spells depends on the working directory only.
theorem target_congr {tree next : FileTree} (same : next.home = tree.home) : target next = target tree := by
  funext path
  unfold target start
  rw [same]

section Putting
variable {tree : FileTree} {place : List Text}

theorem lookup_putIn (entries : List (List Text × Node)) (place other : List Text) (node : Node) :
    (putIn place node entries).lookup other = if other = place then some node else entries.lookup other := by
  induction entries with
  | nil => rw [putIn,lookup_cons]
  | cons e entries ih =>
    obtain ⟨held,old⟩ := e
    by_cases here : held = place
    · subst held
      rw [putIn,if_pos rfl,lookup_cons,lookup_cons]
      by_cases same : other = place <;> simp [same]
    · rw [putIn,if_neg here,lookup_cons,lookup_cons,ih]
      by_cases same : other = held
      · subst held
        simp [here]
      · simp [same]

theorem nodeAt_put (below : place ≠ []) (node : Node) (other : List Text) :
    (tree.put place node).nodeAt other = if other = place then some node else tree.nodeAt other := by
  cases other with
  | nil => simp [nodeAt,put,Ne.symm below]
  | cons name more => simp only [nodeAt,put,lookup_putIn]

theorem fileAt_put (below : place ≠ []) (node : Node) {other : List Text} (away : other ≠ place) :
    fileAt (tree.put place node) other = fileAt tree other := by
  rw [fileAt,nodeAt_put below,if_neg away,← fileAt]

theorem fileAt_put_file (below : place ≠ []) (access : Access) (content : Utf8.Bytes) :
    fileAt (tree.put place (.file access content)) place = some content := by
  rw [fileAt,nodeAt_put below,if_pos rfl]

theorem put_directory (below : place ≠ []) (absent : tree.nodeAt place = none) (access : Access) :
    Untouched tree (tree.put place (.directory access)) := by
  refine ⟨rfl,?_⟩
  funext other
  by_cases here : other = place
  · subst other
    rw [fileAt,nodeAt_put below,if_pos rfl,fileAt,absent]
  · exact fileAt_put below _ here

end Putting

section Directories

-- Only a name that a directory does not hold is not found there.
theorem absent_of_notFound {tree : FileTree} {place : List Text} {piece : Text} {access : Access}
    (missing : tree.step place piece = .error .notFound) (directory : tree.nodeAt place = some (.directory access)) :
    tree.nodeAt (place ++ [piece]) = none := by
  unfold step at missing
  rw [directory] at missing
  simp only at missing
  split at missing
  · cases missing
  split at missing
  · cases missing
  split at missing
  · split at missing <;> cases missing
  split at missing
  · cases missing
  · rename_i absent
    simpa using absent

theorem makeDirectories_untouched (tree : FileTree) (place pieces : List Text) :
    Untouched tree (left (tree.makeDirectories place pieces)) := by
  induction pieces generalizing tree place with
  | nil =>
    rw [makeDirectories]
    split <;> exact untouched_refl tree
  | cons piece rest ih =>
    rw [makeDirectories]
    split
    · exact ih tree _
    · rename_i missing
      split
      · rename_i access directory
        split
        · exact (put_directory (by simp) (absent_of_notFound missing directory) access.made).trans (ih _ _)
        · exact untouched_refl tree
      · exact untouched_refl tree
    · exact untouched_refl tree

end Directories

section Files

-- What can come of writing at a place. Where there is no room for all, a beginning is left there.
inductive Attempt (tree : FileTree) (place : List Text) (content : Utf8.Bytes) : Except FileTree FileTree → Prop where
  | refused : Attempt tree place content (.error tree)
  | done {next : FileTree} (spares : Spares place tree next) (there : fileAt next place = some content) :
      Attempt tree place content (.ok next)
  | short {next : FileTree} {part : Utf8.Bytes} (spares : Spares place tree next) (front : part <+: content)
      (shorter : part ≠ content) (there : fileAt next place = some part) : Attempt tree place content (.error next)

theorem kept_begins (access : Access) (content : Utf8.Bytes) : access.kept content <+: content := by
  unfold Access.kept
  split
  · exact List.take_prefix _ _
  · exact List.prefix_rfl

theorem store_attempt (tree : FileTree) {place : List Text} (below : place ≠ []) (access : Access) (content : Utf8.Bytes) :
    Attempt tree place content (tree.store place access content) := by
  have spares (part : Utf8.Bytes) : Spares place tree (tree.put place (.file access part)) :=
    ⟨rfl,fun other away => fileAt_put below _ away⟩
  unfold store
  dsimp only
  split
  · rename_i whole
    rw [whole]
    exact .done (spares content) (fileAt_put_file below access content)
  · rename_i shorter
    exact .short (spares _) (kept_begins access content) shorter (fileAt_put_file below access _)

theorem writeIn_attempt (tree : FileTree) (place : List Text) (name : Text) (content : Utf8.Bytes) :
    Attempt tree (place ++ [name]) content (tree.writeIn place name content) := by
  have stored (access : Access) := @store_attempt tree (place ++ [name]) (by simp) access content
  unfold writeIn
  split
  · split
    · split
      · exact .refused
      · split
        · exact stored _
        · exact .refused
      · split
        · exact stored _
        · exact .refused
    · exact .refused
  · exact .refused

theorem write_attempt (tree : FileTree) (path content : Text) :
    Attempt tree (target tree path) (Utf8.encode content) (tree.write path content) := by
  unfold write
  dsimp only
  split
  · exact .refused
  rename_i last ends
  obtain ⟨front,pieces⟩ := List.getLast?_eq_some_iff.mp ends
  split
  · exact .refused
  rename_i moving
  simp only [Bool.or_eq_true,decide_eq_true_eq,not_or] at moving
  rw [pieces,List.dropLast_concat]
  split
  · exact .refused
  · rename_i place walked
    have spelled : target tree path = place ++ [last] := by
      rw [target,pieces,placeFrom_append,walk_place walked,placeFrom,if_neg moving.1,if_neg moving.2,placeFrom]
    rw [spelled]
    exact writeIn_attempt tree place last _

-- The same for a file with its directory.
inductive Ending (tree : FileTree) (path content : Text) : Except (FileTree × Failure) FileTree → Prop where
  | written {next : FileTree} (spares : Spares (target tree path) tree next)
      (there : fileAt next (target tree path) = some (Utf8.encode content)) : Ending tree path content (.ok next)
  | noDirectory {next : FileTree} {directory : Text} (held : Output.directoryOf path = some directory)
      (untouched : Untouched tree next) : Ending tree path content (.error (next, .noDirectory directory))
  | refused {next : FileTree} (untouched : Untouched tree next) :
      Ending tree path content (.error (next, .unwritable path))
  | short {next : FileTree} {part : Utf8.Bytes} (spares : Spares (target tree path) tree next)
      (front : part <+: Utf8.encode content) (shorter : part ≠ Utf8.encode content)
      (there : fileAt next (target tree path) = some part) : Ending tree path content (.error (next, .unwritable path))

theorem prepare_cases (tree : FileTree) (path : Text) :
    (∃ ready, Output.prepare tree path = .ok ready ∧ Untouched tree ready) ∨
      ∃ next directory, Output.prepare tree path = .error (next, .noDirectory directory) ∧
        Output.directoryOf path = some directory ∧ Untouched tree next := by
  unfold Output.prepare
  split
  · exact .inl ⟨tree,rfl,untouched_refl tree⟩
  · rename_i directory held
    have untouched := makeDirectories_untouched tree (tree.start directory) (directory.splitOn '/')
    split
    · rename_i next made
      rw [made] at untouched
      exact .inl ⟨next,rfl,untouched⟩
    · rename_i next failed
      rw [failed] at untouched
      exact .inr ⟨next,directory,rfl,held,untouched⟩

theorem Spares.after {tree ready next : FileTree} {place : List Text} (spares : Spares place ready next)
    (untouched : Untouched tree ready) : Spares place tree next :=
  ⟨spares.home.trans untouched.home,fun other away => by rw [spares.others other away,untouched.files]⟩

theorem writeFile_ending (tree : FileTree) (path content : Text) :
    Ending tree path content (Output.writeFile tree path content) := by
  unfold Output.writeFile
  rcases prepare_cases tree path with ⟨ready,prepared,untouched⟩ | ⟨next,directory,failed,held,untouched⟩
  · rw [prepared]
    have attempt := write_attempt ready path content
    rw [target_congr untouched.home] at attempt
    dsimp only
    generalize ready.write path content = result at attempt ⊢
    cases attempt with
    | refused => exact .refused untouched
    | done spares there => exact .written (spares.after untouched) there
    | short spares front shorter there => exact .short (spares.after untouched) front shorter there
  · rw [failed]
    exact .noDirectory held untouched

end Files
end ScriptDoc.TreeWrites
