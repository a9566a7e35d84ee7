import Mathlib.Data.List.Nodup
import ScriptDoc.Proofs.PathPlaces
import ScriptDoc.Proofs.PatternNames

-- Which files a pattern leads to, by what its pieces say and by what is there.
namespace ScriptDoc.PatternPaths
open Pattern FileTree TextLines TreeWalks PathPlaces PatternNames
open ScriptDoc.Path (isIdle isName child)

section Paths
variable {tree : FileTree} {path name : Text}

theorem isHere_iff : isHere path = true ↔ Path.components path = [.here] := beq_iff_eq

theorem target_under (filled : path ≠ []) (named : isName name = true) :
    target tree (under path name) = target tree path ++ [name] := by
  unfold under
  split
  · rename_i here
    have home : target tree path = tree.home := by rw [target_eq,isHere_iff.mp here]; rfl
    rw [home,target,start_clean (isName_iff.mp named).2.2,placeFrom_name _ named]
  · exact target_child filled named

theorem isHere_pieces (tree : FileTree) (here : isHere path = true) :
    tree.start path = tree.home ∧ ∀ piece ∈ path.splitOn '/', isIdle piece = true := by
  have parts := isHere_iff.mp here
  cases path with
  | nil => cases parts
  | cons c path =>
    obtain ⟨first,more,found⟩ := splitOn_cases '/' path
    by_cases slash : c = '/'
    · subst c
      rw [Path.components,splitOn_cons_sep,found] at parts
      cases parts
    · refine ⟨by simp [start,slash],?_⟩
      have pieces := splitOn_cons_other slash found
      simp only [Path.components,pieces,reduceCtorEq,if_false] at parts
      rw [pieces,List.forall_mem_cons]
      split at parts
      · rename_i dot
        have nothing := List.map_eq_nil_iff.mp (List.cons.inj parts).2
        exact ⟨by rw [dot]; rfl,by simpa using nothing⟩
      · have first := (List.cons.inj parts).1
        rw [Path.ofPiece] at first
        split at first <;> cases first

theorem located_under (filled : path ≠ []) (clean : '/' ∉ name) {found : List Text × Node}
    (there : tree.locate (under path name) = .ok found) : tree.isDirectory path = true := by
  unfold under at there
  split at there
  · rename_i here
    obtain ⟨some,walked,_⟩ := locate_ok_iff.mp (show tree.locate name = .ok (found.1, found.2) from there)
    rw [start_clean clean,splitOn_clean clean] at walked
    obtain ⟨_,stepped,_⟩ := walk_cons_iff.mp walked
    have entered : Entered tree tree.home := by
      cases stepped with
      | stay => exact absurd rfl some
      | idle entered | up entered | name entered => exact entered
    have ⟨access,directory,_⟩ := entered
    obtain ⟨begins,idle⟩ := isHere_pieces tree here
    refine isDirectory_iff.mpr ⟨tree.home,access,locate_ok_iff.mpr ⟨filled,?_,directory⟩⟩
    rw [begins]
    exact walk_idle entered idle
  · exact located_child filled there

end Paths

section Routes

-- One step of a search.
inductive Move where
  -- To a name that the pattern spells.
  | spelled (name : Text)
  -- To a name that a listing shows.
  | seen (name : Text)
  -- To the directory itself or the one above, which no listing shows.
  | dots (name : Text)

namespace Move

def name : Move → Text
  | .spelled name => name
  | .seen name => name
  | .dots name => name

def isSpelled : Move → Bool
  | .spelled _ => true
  | .seen _ => false
  | .dots _ => false

def onto (path : Text) : Move → Text
  | .spelled name => under path name
  | .seen name => under path name
  | .dots name => child path name

end Move

inductive Fit (ts : List PatternToken) : Move → Prop where
  | spelled {name : Text} (plain : literal? ts = some name) : Fit ts (.spelled name)
  | seen {name : Text} (wild : literal? ts = none) (named : isName name = true) (accepted : Accepted ts name) :
      Fit ts (.seen name)
  | dots {name : Text} (wild : literal? ts = none) (begins : ts.head? = some (.literal '.'))
      (dots : name ∈ ([".", ".."] : List Text)) (accepted : Accepted ts name) : Fit ts (.dots name)

-- The moves that the pieces of a pattern allow. Two stars go down by any number of names, and at the
-- end of a pattern they lead to no file.
inductive Fits : List PatternPiece → List Move → Prop where
  | nil : Fits [] []
  | piece {ts : List PatternToken} {rest : List PatternPiece} {move : Move} {moves : List Move} (fit : Fit ts move)
      (more : Fits rest moves) : Fits (.tokens ts :: rest) (move :: moves)
  | again {rest : List PatternPiece} {moves : List Move} (once : Fits (.directories :: rest) moves) :
      Fits (.directories :: .directories :: rest) moves
  | deeper {rest : List PatternPiece} {name : Text} {moves : List Move} (named : isName name = true)
      (more : Fits (.directories :: rest) moves) : Fits (.directories :: rest) (.seen name :: moves)
  | ends {ts : List PatternToken} {rest : List PatternPiece} {name : Text} {moves : List Move}
      (named : isName name = true) (accepted : Accepted ts name) (more : Fits rest moves) :
      Fits (.directories :: .tokens ts :: rest) (.seen name :: moves)

-- What a move needs beside what it leads to: the empty path leads nowhere, and only a directory that
-- can be listed shows its names.
structure Goes (tree : FileTree) (path : Text) (move : Move) : Prop where
  filled : move.onto path ≠ []
  shown : move.isSpelled = false → Listable tree path

inductive Routed (tree : FileTree) : Text → List Move → Text → Prop where
  | nil (path : Text) : Routed tree path [] path
  | cons {path found : Text} {move : Move} {moves : List Move} (goes : Goes tree path move)
      (more : Routed tree (move.onto path) moves found) : Routed tree path (move :: moves) found

variable {tree : FileTree} {path found : Text}

-- What the search does one step at a time, in both directions.

theorem child_filled {name : Text} (some : name ≠ []) : child path name ≠ [] := by
  unfold child
  split
  · exact some
  · split <;> simp [some]

theorem under_filled {name : Text} (some : name ≠ []) : under path name ≠ [] := by
  unfold under
  split
  · exact some
  · exact child_filled some

theorem mem_named {name next : Text} (member : next ∈ named tree path name) : next = under path name ∧ next ≠ [] := by
  unfold named at member
  split at member
  · rename_i special
    split at member
    · cases List.mem_singleton.mp member
      refine ⟨rfl,under_filled ?_⟩
      rintro rfl
      cases special
    · cases member
  · split at member
    · rename_i there
      cases List.mem_singleton.mp member
      refine ⟨rfl,?_⟩
      intro empty
      rw [empty] at there
      cases there
    · cases member

theorem goes_seen {names : List Text} {name : Text} (listed : tree.list path = .ok names) (named : isName name = true) :
    Goes tree path (.seen name) := by
  refine ⟨under_filled ?_,fun _ => ⟨names,listed⟩⟩
  rintro rfl
  cases named

theorem mem_children {name next : Text} : (name, next) ∈ children tree path ↔
    ∃ names, tree.list path = .ok names ∧ name ∈ names ∧ next = under path name := by
  unfold children
  split
  · rename_i names listed
    simp [listed,eq_comm (a := next)]
  · rename_i failed
    simp [failed]

-- Names that lead down from a path, each shown where the one before it leads.
inductive Below (tree : FileTree) : Text → List Text → Text × Text → Prop where
  | child {path : Text} {e : Text × Text} (shown : e ∈ children tree path) : Below tree path [e.1] e
  | deeper {path : Text} {first e : Text × Text} {names : List Text} (shown : first ∈ children tree path)
      (more : Below tree first.2 names e) : Below tree path (first.1 :: names) e

theorem children_key {e : Text × Text} (filled : path ≠ []) (shown : e ∈ children tree path) :
    target tree path ++ [e.1] ∈ tree.entries.map (·.1) ∧ e.2 ≠ [] ∧ target tree e.2 = target tree path ++ [e.1] := by
  obtain ⟨name,next⟩ := e
  obtain ⟨names,listed,inside,rfl⟩ := mem_children.mp shown
  have named := list_named listed inside
  obtain ⟨place,_,here,_,rfl⟩ := list_ok_iff.mp listed
  refine ⟨?_,(goes_seen listed named).filled,target_under filled named⟩
  rw [← locate_target here]
  exact (mem_namesAt.mp inside).2

theorem Below.key {names : List Text} {e : Text × Text} (below : Below tree path names e) (filled : path ≠ [])
    {front : List Text} (some : front ≠ []) (begins : front <+: names) :
    target tree path ++ front ∈ tree.entries.map (·.1) := by
  induction below generalizing front with
  | child shown =>
    rcases List.prefix_cons_iff.mp begins with nothing | ⟨rest,rfl,later⟩
    · exact absurd nothing some
    · rw [List.prefix_nil.mp later]
      exact (children_key filled shown).1
  | deeper shown more ih =>
    obtain ⟨listed,filled,place⟩ := children_key filled shown
    obtain ⟨first,front,rfl⟩ := List.exists_cons_of_ne_nil some
    obtain ⟨rfl,later⟩ := List.cons_prefix_cons.mp begins
    by_cases last : front = []
    · rw [last]
      exact listed
    · have deep := ih filled last later
      rw [place,List.append_assoc] at deep
      exact deep

-- Whatever lies on the way to something that is there is there too.
theorem Routed.before {moves : List Move} (routed : Routed tree path moves found) (filled : path ≠ [])
    (clean : ∀ move ∈ moves, '/' ∉ move.name) {held : List Text × Node} (there : tree.locate found = .ok held) :
    ∃ here, tree.locate path = .ok here := by
  induction routed with
  | nil => exact ⟨held,there⟩
  | @cons path found move moves goes more ih =>
    obtain ⟨here,later⟩ := List.forall_mem_cons.mp clean
    obtain ⟨next,reached⟩ := ih goes.filled later there
    have directory : tree.isDirectory path = true := by
      cases move with
      | spelled | seen => exact located_under filled here reached
      | dots => exact located_child filled reached
    obtain ⟨place,access,located⟩ := isDirectory_iff.mp directory
    exact ⟨_,located⟩

end Routes

end ScriptDoc.PatternPaths
