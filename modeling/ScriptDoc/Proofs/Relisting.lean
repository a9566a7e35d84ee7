import ScriptDoc.FileTree
import ScriptDoc.Proofs.KeyedGroups

-- The order in which a file system lists what it holds.
namespace ScriptDoc.Relisting
open KeyedGroups (lookup_cons)

-- Two listings of one file system: nothing is listed twice, and only the order differs.
structure Relisted (tree other : FileTree) : Prop where
  root : tree.root = other.root
  home : tree.home = other.home
  entries : tree.entries.Perm other.entries
  once : (tree.entries.map (·.1)).Nodup

theorem lookup_eq_some {entries : List (List Text × Node)} (once : (entries.map (·.1)).Nodup) (place : List Text)
    (node : Node) : entries.lookup place = some node ↔ (place, node) ∈ entries := by
  induction entries with
  | nil => simp
  | cons e entries ih =>
    obtain ⟨held,old⟩ := e
    obtain ⟨absent,others⟩ := List.nodup_cons.mp once
    rw [lookup_cons,List.mem_cons,Prod.mk.injEq]
    by_cases here : place = held
    · subst held
      have gone : (place, node) ∉ entries := fun member => absent (List.mem_map.mpr ⟨_,member,rfl⟩)
      simp [gone,eq_comm]
    · simp [here,ih others]

namespace Relisted
variable {tree other : FileTree}

theorem symm (relisted : Relisted tree other) : Relisted other tree :=
  ⟨relisted.root.symm,relisted.home.symm,relisted.entries.symm,(relisted.entries.map _).nodup_iff.mp relisted.once⟩

theorem lookup (relisted : Relisted tree other) (place : List Text) :
    tree.entries.lookup place = other.entries.lookup place := by
  apply Option.ext
  intro node
  rw [lookup_eq_some relisted.once,lookup_eq_some relisted.symm.once,relisted.entries.mem_iff]

theorem nodeAt (relisted : Relisted tree other) : tree.nodeAt = other.nodeAt := by
  funext place
  unfold FileTree.nodeAt
  simp only [relisted.lookup,relisted.root]

theorem start (relisted : Relisted tree other) : tree.start = other.start := by
  funext path
  unfold FileTree.start
  rw [relisted.home]

theorem step (relisted : Relisted tree other) : tree.step = other.step := by
  funext place piece
  unfold FileTree.step
  rw [relisted.nodeAt]

theorem walk (relisted : Relisted tree other) : tree.walk = other.walk := by
  funext place pieces
  induction pieces generalizing place with
  | nil => rfl
  | cons piece rest ih =>
    rw [FileTree.walk,FileTree.walk,relisted.step]
    split
    · exact ih _
    · rfl

theorem locate (relisted : Relisted tree other) : tree.locate = other.locate := by
  funext path
  unfold FileTree.locate
  rw [relisted.start,relisted.walk,relisted.nodeAt]

theorem isFile (relisted : Relisted tree other) : tree.isFile = other.isFile := by
  funext path
  unfold FileTree.isFile
  rw [relisted.locate]

theorem isDirectory (relisted : Relisted tree other) : tree.isDirectory = other.isDirectory := by
  funext path
  unfold FileTree.isDirectory
  rw [relisted.locate]

theorem opened (relisted : Relisted tree other) : tree.opened = other.opened := by
  funext path
  unfold FileTree.opened
  rw [relisted.locate]

theorem readText (relisted : Relisted tree other) : tree.readText = other.readText := by
  funext path
  unfold FileTree.readText FileTree.readBytes
  rw [relisted.opened]

theorem openSource (relisted : Relisted tree other) : tree.openSource = other.openSource := by
  funext path
  unfold FileTree.openSource
  rw [relisted.opened]

end Relisted
end ScriptDoc.Relisting
