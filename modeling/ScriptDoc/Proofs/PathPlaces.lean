import ScriptDoc.Proofs.TreeWalks

-- Paths with the same components lead to the same place, wherever they lead at all.
namespace ScriptDoc.PathPlaces
open ScriptDoc.Path FileTree TextLines TreeWalks

def move (place : List Text) : Component → List Text
  | .root => []
  | .here => place
  | .up => place.dropLast
  | .name t => place ++ [t]

theorem move_ofPiece (place : List Text) (piece : Text) :
    move place (ofPiece piece) = if piece = ".." then place.dropLast else place ++ [piece] := by
  rw [ofPiece]
  split <;> rfl

theorem placeFrom_eq (place : List Text) (pieces : List Text) :
    placeFrom place pieces = ((pieces.filter (!isIdle ·)).map ofPiece).foldl move place := by
  induction pieces generalizing place with
  | nil => rfl
  | cons piece rest ih =>
    rw [placeFrom,ih,ih,ih]
    cases idle : isIdle piece with
    | true => rw [if_pos rfl,List.filter_cons_of_neg (by simp [idle])]
    | false =>
      rw [if_neg (by simp),List.filter_cons_of_pos (by simp [idle]),List.map_cons,List.foldl_cons,move_ofPiece]
      split <;> rfl

theorem target_eq (tree : FileTree) (path : Text) : target tree path = (components path).foldl move tree.home := by
  cases path with
  | nil => rfl
  | cons c path =>
    obtain ⟨first,more,found⟩ := splitOn_cases '/' path
    by_cases slash : c = '/'
    · subst c
      have above : tree.start ('/' :: path) = [] := rfl
      rw [target,components,splitOn_cons_sep,found,above,placeFrom_eq]
      rfl
    · have inside : tree.start (c :: path) = tree.home := by simp [start,slash]
      rw [target,components,splitOn_cons_other slash found,inside,placeFrom_eq]
      by_cases here : c :: first = "."
      · rw [here]
        rfl
      · have moving : isIdle (c :: first) = false := by simpa [isIdle] using here
        rw [List.filter_cons_of_pos (by simp [moving])]
        simp only [reduceCtorEq,if_false,if_neg here]
        rfl

section Children
variable {tree : FileTree} {path name : Text}

theorem splitOn_child (filled : path ≠ []) (name : Text) : ∃ front,
    (path.splitOn '/' = front ∨ path.splitOn '/' = front ++ [[]]) ∧
      (child path name).splitOn '/' = front ++ name.splitOn '/' := by
  obtain ⟨before,c,rfl⟩ : ∃ before c, path = before ++ [c] := by
    rcases List.eq_nil_or_concat path with empty | ⟨before,c,ends⟩
    · exact absurd empty filled
    · exact ⟨before,c,by simpa using ends⟩
  rw [child,List.getLast?_concat]
  dsimp only
  by_cases slash : c = '/'
  · subst c
    refine ⟨Text.splitOn '/' before,.inr (splitOn_append_last '/' before),?_⟩
    rw [if_pos rfl,← splitOn_append_sep,List.append_assoc]
    rfl
  · refine ⟨_,.inl rfl,?_⟩
    rw [if_neg slash,← splitOn_append_sep,List.append_assoc]
    rfl

theorem start_child (filled : path ≠ []) (name : Text) : tree.start (child path name) = tree.start path := by
  obtain ⟨c,rest,rfl⟩ := List.exists_cons_of_ne_nil filled
  have head : (child (c :: rest) name).head? = some c := by
    unfold child
    split
    · simp_all
    · split <;> rfl
  rw [start,start,head]
  rfl

theorem isName_iff : isName name = true ↔ isIdle name = false ∧ name ≠ ".." ∧ '/' ∉ name := by
  simp [isName,and_assoc]

theorem placeFrom_name (place : List Text) (named : isName name = true) :
    placeFrom place (name.splitOn '/') = place ++ [name] := by
  obtain ⟨moving,other,clean⟩ := isName_iff.mp named
  rw [splitOn_clean clean,placeFrom,if_neg (by simp [moving]),if_neg other]
  rfl

theorem target_child (filled : path ≠ []) (named : isName name = true) :
    target tree (child path name) = target tree path ++ [name] := by
  obtain ⟨front,pieces,spelled⟩ := splitOn_child filled name
  have before : target tree path = placeFrom (tree.start path) front := by
    unfold target
    rcases pieces with whole | ended
    · rw [whole]
    · rw [ended,placeFrom_append]
      rfl
  rw [target,start_child filled,spelled,placeFrom_append,← before,placeFrom_name _ named]

theorem start_clean (clean : '/' ∉ name) : tree.start name = tree.home := by
  rw [start,if_neg]
  intro slash
  exact clean (List.mem_of_mem_head? slash)

theorem walk_idle {place : List Text} (entered : Entered tree place) {pieces : List Text}
    (idle : ∀ piece ∈ pieces, isIdle piece = true) : tree.walk place pieces = .ok place := by
  induction pieces with
  | nil => exact walk_nil_iff.mpr rfl
  | cons piece rest ih =>
    obtain ⟨here,later⟩ := List.forall_mem_cons.mp idle
    exact walk_cons_iff.mpr ⟨place,.idle entered here,ih later⟩

-- What a path goes through is there, and is a directory.
theorem located_child (filled : path ≠ []) {found : List Text × Node} (there : tree.locate (child path name) = .ok found) :
    tree.isDirectory path = true := by
  obtain ⟨front,pieces,spelled⟩ := splitOn_child filled name
  obtain ⟨_,walked,_⟩ := locate_ok_iff.mp (show tree.locate (child path name) = .ok (found.1, found.2) from there)
  rw [start_child filled,spelled] at walked
  obtain ⟨place,before,after⟩ := walk_append_iff.mp walked
  obtain ⟨first,more,cut⟩ := splitOn_cases '/' name
  rw [cut] at after
  obtain ⟨_,stepped,_⟩ := walk_cons_iff.mp after
  obtain ⟨access,directory⟩ := stepped.directory
  refine isDirectory_iff.mpr ⟨place,access,locate_ok_iff.mpr ⟨filled,?_,directory⟩⟩
  rcases pieces with whole | ended
  · rwa [whole]
  · rw [ended]
    exact walk_append_iff.mpr ⟨place,before,walk_cons_iff.mpr ⟨place,.stay directory,walk_nil_iff.mpr rfl⟩⟩

end Children

end ScriptDoc.PathPlaces
