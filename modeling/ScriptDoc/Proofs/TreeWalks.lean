import ScriptDoc.FileTree
import ScriptDoc.Proofs.TextLines

-- How a path leads to a place, piece by piece.
namespace ScriptDoc.TreeWalks
open ScriptDoc.Path FileTree TextLines

-- A directory from which pieces can be looked up.
def Entered (tree : FileTree) (place : List Text) : Prop :=
  ∃ access, tree.nodeAt place = some (.directory access) ∧ access.enter = true

inductive Stepped (tree : FileTree) (place : List Text) : Text → List Text → Prop where
  | stay {access : Access} (directory : tree.nodeAt place = some (.directory access)) : Stepped tree place [] place
  | idle {piece : Text} (entered : Entered tree place) (idle : isIdle piece = true) : Stepped tree place piece place
  | up {access : Access} (entered : Entered tree place)
      (above : tree.nodeAt place.dropLast = some (.directory access)) : Stepped tree place ".." place.dropLast
  | name {piece : Text} (entered : Entered tree place) (moving : isIdle piece = false) (other : piece ≠ "..")
      (there : (tree.nodeAt (place ++ [piece])).isSome = true) : Stepped tree place piece (place ++ [piece])

section Steps
variable {tree : FileTree} {place next : List Text} {piece : Text}

theorem step_stepped (taken : tree.step place piece = .ok next) : Stepped tree place piece next := by
  unfold step at taken
  split at taken
  · cases taken
  · cases taken
  rename_i access directory
  split at taken
  · cases taken
  rename_i free
  have entered : piece ≠ [] → Entered tree place := by
    intro filled
    refine ⟨access,directory,?_⟩
    simpa [filled] using free
  split at taken
  · rename_i idle
    cases taken
    by_cases empty : piece = []
    · subst piece
      exact .stay directory
    · exact .idle (entered empty) idle
  rename_i moving
  have filled : piece ≠ [] := by
    rintro rfl
    exact moving rfl
  split at taken
  · rename_i above
    subst piece
    split at taken
    · rename_i held
      cases taken
      exact .up (entered filled) held
    · cases taken
  rename_i other
  split at taken
  · rename_i there
    cases taken
    exact .name (entered filled) (Bool.not_eq_true _ ▸ moving) other there
  · cases taken

theorem stepped_step (stepped : Stepped tree place piece next) : tree.step place piece = .ok next := by
  cases stepped with
  | stay directory => simp [step,directory,isIdle]
  | idle entered idle =>
    obtain ⟨access,directory,enter⟩ := entered
    simp [step,directory,enter,idle]
  | up entered above =>
    obtain ⟨access,directory,enter⟩ := entered
    have moving : ¬ isIdle ".." = true := by decide
    simp only [step,directory,enter,above,if_neg moving]
    simp
  | name entered moving other there =>
    obtain ⟨access,directory,enter⟩ := entered
    simp only [step,directory,enter,moving,other,there]
    simp

theorem step_ok_iff : tree.step place piece = .ok next ↔ Stepped tree place piece next :=
  ⟨step_stepped,stepped_step⟩

-- Every piece needs a directory to stand in.
theorem Stepped.directory (stepped : Stepped tree place piece next) :
    ∃ access, tree.nodeAt place = some (.directory access) := by
  cases stepped with
  | stay directory => exact ⟨_,directory⟩
  | idle entered | up entered | name entered =>
    obtain ⟨access,directory,_⟩ := entered
    exact ⟨access,directory⟩

end Steps

section Walks
variable {tree : FileTree} {place next : List Text}

theorem walk_nil_iff : tree.walk place [] = .ok next ↔ next = place := by
  rw [walk,Except.ok.injEq,eq_comm]

theorem walk_cons_iff {piece : Text} {rest : List Text} :
    tree.walk place (piece :: rest) = .ok next ↔
      ∃ middle, Stepped tree place piece middle ∧ tree.walk middle rest = .ok next := by
  simp only [← step_ok_iff]
  rw [walk]
  cases taken : tree.step place piece with
  | error fault => simp
  | ok middle => simp

theorem walk_append_iff {front back : List Text} :
    tree.walk place (front ++ back) = .ok next ↔
      ∃ middle, tree.walk place front = .ok middle ∧ tree.walk middle back = .ok next := by
  induction front generalizing place with
  | nil => simp [walk_nil_iff]
  | cons piece front ih =>
    simp only [List.cons_append,walk_cons_iff,ih]
    constructor
    · rintro ⟨first,stepped,middle,before,after⟩
      exact ⟨middle,⟨first,stepped,before⟩,after⟩
    · rintro ⟨middle,⟨first,stepped,before⟩,after⟩
      exact ⟨first,stepped,middle,before,after⟩

-- Where pieces lead when every directory they go through is there.
def placeFrom (place : List Text) : List Text → List Text
  | [] => place
  | piece :: rest =>
    if isIdle piece then placeFrom place rest
    else if piece = ".." then placeFrom place.dropLast rest
    else placeFrom (place ++ [piece]) rest

theorem placeFrom_append (place : List Text) (first second : List Text) :
    placeFrom place (first ++ second) = placeFrom (placeFrom place first) second := by
  induction first generalizing place with
  | nil => rfl
  | cons piece rest ih =>
    rw [List.cons_append,placeFrom,placeFrom,ih,ih,ih]
    split
    · rfl
    · split <;> rfl

theorem Stepped.placeFrom_eq {piece : Text} (stepped : Stepped tree place piece next) (rest : List Text) :
    placeFrom place (piece :: rest) = placeFrom next rest := by
  rw [placeFrom]
  cases stepped with
  | stay directory => exact if_pos rfl
  | idle entered idle => exact if_pos idle
  | up entered above => exact if_neg (by decide)
  | name entered moving other there => rw [if_neg (by simp [moving]),if_neg other]

theorem walk_place {pieces : List Text} (walked : tree.walk place pieces = .ok next) : placeFrom place pieces = next := by
  induction pieces generalizing place with
  | nil => exact (walk_nil_iff.mp walked).symm
  | cons piece rest ih =>
    obtain ⟨middle,stepped,more⟩ := walk_cons_iff.mp walked
    rw [stepped.placeFrom_eq,ih more]

end Walks

section Paths
variable {tree : FileTree} {path : Text}

-- The place that the pieces of a path spell, whatever the tree holds.
def target (tree : FileTree) (path : Text) : List Text := placeFrom (tree.start path) (path.splitOn '/')

theorem locate_ok_iff {place : List Text} {node : Node} : tree.locate path = .ok (place, node) ↔
    path ≠ [] ∧ tree.walk (tree.start path) (path.splitOn '/') = .ok place ∧ tree.nodeAt place = some node := by
  unfold locate
  by_cases empty : path = []
  · simp [empty]
  · rw [if_neg empty]
    cases walked : tree.walk (tree.start path) (path.splitOn '/') with
    | error fault => simp
    | ok reached =>
      simp only [ne_eq,empty,not_false_eq_true,true_and,Except.ok.injEq]
      cases there : tree.nodeAt reached with
      | none =>
        refine ⟨nofun,?_⟩
        rintro ⟨rfl,found⟩
        cases there.symm.trans found
      | some held =>
        simp only [Except.ok.injEq,Prod.mk.injEq]
        apply and_congr_right
        rintro rfl
        rw [there,Option.some.injEq]

theorem locate_target {place : List Text} {node : Node} (found : tree.locate path = .ok (place, node)) :
    place = target tree path := (walk_place (locate_ok_iff.mp found).2.1).symm

theorem isDirectory_iff : tree.isDirectory path = true ↔
    ∃ place access, tree.locate path = .ok (place, .directory access) := by
  unfold isDirectory
  split
  · rename_i place access found
    simp [found]
  · rename_i other
    refine ⟨nofun,?_⟩
    rintro ⟨place,access,found⟩
    exact absurd found (other place access)

end Paths

section Listings
variable {tree : FileTree} {path : Text}

def Listable (tree : FileTree) (path : Text) : Prop := ∃ names, tree.list path = .ok names

theorem list_ok_iff {names : List Text} : tree.list path = .ok names ↔
    ∃ place access, tree.locate path = .ok (place, .directory access) ∧ access.read = true ∧
      names = tree.namesAt place := by
  unfold FileTree.list
  split
  · rename_i failed
    simp [failed]
  · rename_i here
    simp [here]
  · rename_i place access here
    split
    · rename_i readable
      constructor
      · intro same
        exact ⟨place,access,here,readable,(Except.ok.inj same).symm⟩
      · rintro ⟨_,_,again,_,rfl⟩
        cases here.symm.trans again
        rfl
    · rename_i closed
      refine ⟨nofun,?_⟩
      rintro ⟨_,_,again,readable,_⟩
      cases here.symm.trans again
      exact absurd readable closed

theorem mem_namesAt {place : List Text} {name : Text} :
    name ∈ tree.namesAt place ↔ isName name = true ∧ place ++ [name] ∈ tree.entries.map (·.1) := by
  simp only [namesAt,List.mem_filterMap,List.mem_map,Option.ite_none_right_eq_some,Option.filter_eq_some_iff]
  constructor
  · rintro ⟨e,listed,rfl,last,named⟩
    obtain ⟨front,key⟩ := List.getLast?_eq_some_iff.mp last
    exact ⟨named,e,listed,by simp [key]⟩
  · rintro ⟨named,e,listed,key⟩
    refine ⟨e,listed,?_,?_,named⟩ <;> simp [key]

theorem list_named {names : List Text} {name : Text} (listed : tree.list path = .ok names) (member : name ∈ names) :
    isName name = true := by
  obtain ⟨place,_,_,_,rfl⟩ := list_ok_iff.mp listed
  exact (mem_namesAt.mp member).1

end Listings

end ScriptDoc.TreeWalks
