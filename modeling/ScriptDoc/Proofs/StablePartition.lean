import Mathlib.Data.List.Induction
import Mathlib.Data.List.Nodup
import ScriptDoc.Proofs.KeyedGroups
import ScriptDoc.Proofs.PathOrder

-- Grouping divides a list by keys. Only the order of the groups is then still to be chosen.
namespace ScriptDoc.StablePartition
open Groups KeyedGroups

section Parts
variable {κ α : Type} [DecidableEq κ] {key : α → κ} {items : List α} {groups others : Groups κ α}

-- A group for each key that is used, with all that has the key and in the order in which it came.
structure Partition (key : α → κ) (items : List α) (groups : Groups κ α) : Prop where
  once : groups.keys.Nodup
  used : ∀ k, k ∈ groups.keys ↔ ∃ a ∈ items, key a = k
  members : ∀ group ∈ groups, group.2 = items.filter (key · = group.1)

theorem ofItems_partition (key : α → κ) (items : List α) : Partition key items (ofItems key items) where
  once := nodup_ofItems key items
  used k := by rw [keys_ofItems,List.mem_eraseDups,List.mem_map]
  members group listed := by
    rw [ofItems_entries] at listed
    obtain ⟨k,_,rfl⟩ := List.mem_map.mp listed
    rfl

theorem Partition.entries (parts : Partition key items groups) :
    groups = groups.keys.map fun k => (k, items.filter (key · = k)) := by
  have each : ∀ group ∈ groups, (group.1, items.filter (key · = group.1)) = group := by
    intro group listed
    rw [← parts.members group listed]
  rw [keys,List.map_map]
  exact ((List.map_congr_left each).trans (List.map_id groups)).symm

theorem Partition.keys_perm (parts : Partition key items groups) (same : Partition key items others) :
    groups.keys.Perm others.keys :=
  (List.perm_ext_iff_of_nodup parts.once same.once).mpr fun k => (parts.used k).trans (same.used k).symm

-- Two of them differ at most in their order.
theorem Partition.perm (parts : Partition key items groups) (same : Partition key items others) : groups.Perm others := by
  rw [parts.entries,same.entries]
  exact (parts.keys_perm same).map _

theorem Partition.of_perm (parts : Partition key items groups) (perm : others.Perm groups) : Partition key items others where
  once := (perm.map _).nodup_iff.mpr parts.once
  used k := (perm.map _).mem_iff.trans (parts.used k)
  members group listed := parts.members group (perm.mem_iff.mp listed)

theorem partition_iff : Partition key items groups ↔ groups.Perm (ofItems key items) :=
  ⟨fun parts => parts.perm (ofItems_partition key items),(ofItems_partition key items).of_perm⟩

theorem Partition.complete (parts : Partition key items groups) : (groups.flatMap (·.2)).Perm items :=
  ((partition_iff.mp parts).flatMap_right _).trans (held_ofItems key items)

-- Any order that tells two keys apart makes the groups the same.
theorem Partition.unique (parts : Partition key items groups) (same : Partition key items others) {before : κ → κ → Prop}
    (asymm : ∀ a b, before a b → ¬ before b a) (one : groups.keys.Pairwise before) (two : others.keys.Pairwise before) :
    groups = others := by
  have keys := (parts.keys_perm same).eq_of_pairwise (fun a b _ _ ab ba => absurd ba (asymm a b ab)) one two
  rw [parts.entries,same.entries,keys]

end Parts

section Appearance
variable {κ α : Type} [DecidableEq κ]

-- Keys in the order in which they are first seen.
def FirstSeen (seen keys : List κ) : Prop := keys.Pairwise fun k l => seen.idxOf k < seen.idxOf l

theorem firstSeen_longer {seen keys : List κ} (known : ∀ k ∈ keys, k ∈ seen) (order : FirstSeen seen keys) (more : List κ) :
    FirstSeen (seen ++ more) keys := by
  apply List.Pairwise.imp_of_mem _ order
  intro k l one two before
  rwa [List.idxOf_append,List.idxOf_append,if_pos (known k one),if_pos (known l two)]

theorem firstSeen_next {seen keys : List κ} (known : ∀ k ∈ keys, k ∈ seen) (order : FirstSeen seen keys) {new : κ}
    (unseen : new ∉ seen) : FirstSeen (seen ++ [new]) (keys ++ [new]) := by
  refine List.pairwise_append.mpr ⟨firstSeen_longer known order [new],List.pairwise_singleton _ _,?_⟩
  intro k listed l last
  rw [List.mem_singleton.mp last,List.idxOf_append,List.idxOf_append,if_pos (known k listed),if_neg unseen]
  have inside := List.idxOf_lt_length_of_mem (known k listed)
  omega

theorem ofItems_snoc (key : α → κ) (items : List α) (a : α) :
    ofItems key (items ++ [a]) = append (key a) [a] (ofItems key items) := List.foldl_append

-- One item more leaves the keys as they are, or puts a new one behind them.
theorem firstSeen_ofItems (key : α → κ) (items : List α) : FirstSeen (items.map key) (ofItems key items).keys := by
  induction items using List.reverseRecOn with
  | nil => exact .nil
  | append_singleton items a ih =>
    have known : ∀ k, k ∈ (ofItems key items).keys ↔ k ∈ items.map key := by
      intro k
      rw [keys_ofItems,List.mem_eraseDups]
    rw [ofItems_snoc,keys_append,List.map_append,List.map_singleton]
    split
    · exact firstSeen_longer (fun k => (known k).mp) ih _
    · rename_i absent
      exact firstSeen_next (fun k => (known k).mp) ih fun seen => absent ((known _).mpr seen)

end Appearance

section Sorting
variable {κ α : Type} {le : κ → κ → Bool}

structure Order (le : κ → κ → Bool) : Prop where
  trans : ∀ a b c, le a b = true → le b c = true → le a c = true
  total : ∀ a b, (le a b || le b a) = true
  antisymm : ∀ a b, le a b = true → le b a = true → a = b

def Rising (le : κ → κ → Bool) (keys : List κ) : Prop := keys.Pairwise fun a b => le a b = true ∧ a ≠ b

theorem textLe_order : Order Text.le where
  trans a b c first second := by
    rw [PathOrder.textLe_iff] at first second ⊢
    exact first.trans second
  total a b := by
    rw [Bool.or_eq_true,PathOrder.textLe_iff,PathOrder.textLe_iff]
    exact le_total _ _
  antisymm a b first second := by
    rw [PathOrder.textLe_iff] at first second
    exact PathOrder.toNat_inj.mp (first.antisymm second)

theorem sortedBy_perm (le : κ → κ → Bool) (groups : Groups κ α) : (groups.sortedBy le).Perm groups := List.mergeSort_perm _ _

theorem sortedBy_rising (order : Order le) {groups : Groups κ α} (distinct : groups.keys.Nodup) :
    Rising le (groups.sortedBy le).keys := by
  have sorted : (groups.sortedBy le).Pairwise fun a b => le a.1 b.1 = true :=
    List.pairwise_mergeSort (fun a b c => order.trans a.1 b.1 c.1) (fun a b => order.total a.1 b.1) groups
  have once : (groups.sortedBy le).keys.Nodup := ((sortedBy_perm le groups).map _).nodup_iff.mpr distinct
  exact List.pairwise_map.mpr (sorted.and (List.pairwise_map.mp once))

end Sorting

theorem grouped_sole {κ α : Type} [DecidableEq κ] {le : κ → κ → Bool} (order : Order le) (key : α → κ) (items : List α)
    (groups : Groups κ α) :
    (Partition key items groups ∧ FirstSeen (items.map key) groups.keys ↔ groups = ofItems key items) ∧
    (Partition key items groups ∧ Rising le groups.keys ↔ groups = (ofItems key items).sortedBy le) ∧
    (Partition key items groups → (groups.flatMap (·.2)).Perm items) := by
  have parts := ofItems_partition key items
  have sorted := parts.of_perm (sortedBy_perm le _)
  have seen := firstSeen_ofItems key items
  have rising := sortedBy_rising order parts.once
  refine ⟨⟨?_,?_⟩,⟨?_,?_⟩,Partition.complete⟩
  · intro ⟨same,first⟩
    exact same.unique parts (fun k l => Nat.lt_asymm) first seen
  · rintro rfl
    exact ⟨parts,seen⟩
  · intro ⟨same,ascending⟩
    exact same.unique sorted (fun a b ab ba => ab.2 (order.antisymm a b ab.1 ba.1)) ascending rising
  · rintro rfl
    exact ⟨sorted,rising⟩

-- Keys that alternate come together, and the sorted groups follow from what is said of them alone.
theorem grouped_sole_alternating :
    let items : List (Text × Nat) := [("b", 1), ("a", 2), ("b", 3)]
    let groups : Groups Text (Text × Nat) := [("a", [("a", 2)]), ("b", [("b", 1), ("b", 3)])]
    Order Text.le ∧ Partition (·.1) items groups ∧ Rising Text.le groups.keys ∧ groups = (ofItems (·.1) items).sorted ∧
      (groups.flatMap (·.2)).Perm items := by
  intro items groups
  have order := textLe_order
  have used : ∀ k, k ∈ groups.keys ↔ ∃ item ∈ items, item.1 = k := by
    intro k
    simp only [groups,items,keys,List.map_cons,List.map_nil,List.mem_cons,List.not_mem_nil,or_false,
      exists_eq_or_imp,exists_eq_left]
    grind
  have parts : Partition (·.1) items groups := ⟨by decide,used,by decide⟩
  have rising : Rising Text.le groups.keys := by
    unfold Rising
    decide
  obtain ⟨_,sorted,complete⟩ := grouped_sole order (·.1) items groups
  exact ⟨order,parts,rising,sorted.mp ⟨parts,rising⟩,complete parts⟩

end ScriptDoc.StablePartition
