import ScriptDoc.Proofs.Encoding
import ScriptDoc.Proofs.StablePartition

-- Texts are compared by code points, and that is the order of their bytes.
namespace ScriptDoc.ByteOrder
open Utf8 Encoding StablePartition

-- Both go on after the first byte in which they differ, so what follows them does not count.
inductive Below : Bytes → Bytes → Prop where
  | here {a b : UInt8} (lt : a.toNat < b.toNat) (r s : Bytes) : Below (a :: r) (b :: s)
  | later {a b : UInt8} (same : a.toNat = b.toNat) {r s : Bytes} (below : Below r s) : Below (a :: r) (b :: s)

theorem below_lt {r s : Bytes} (below : Below r s) (more others : Bytes) : r ++ more < s ++ others := by
  induction below with
  | here lt r s => exact List.cons_lt_cons_iff.mpr (.inl (UInt8.lt_iff_toNat_lt.mpr lt))
  | later same below ih => exact List.cons_lt_cons_iff.mpr (.inr ⟨UInt8.toNat_inj.mp same,ih⟩)

-- The last bytes of two spellings of one length.
theorem below_last {a b : UInt8} (lt : a.toNat < b.toNat) : Below [a] [b] := .here lt [] []

theorem below_next {a b : UInt8} {r s : Bytes} (le : a.toNat ≤ b.toNat) (below : a.toNat = b.toNat → Below r s) :
    Below (a :: r) (b :: s) := by
  by_cases same : a.toNat = b.toNat
  · exact .later same (below same)
  · exact .here (by omega) r s

-- A longer spelling has the larger first byte, and within one length the bytes count from the first.
theorem below_spelled {c d : Char} (lt : c.toNat < d.toNat) {r s : Bytes} (one : Spells c r) (two : Spells d s) :
    Below r s := by
  cases one with
  | one lead value =>
    cases two with
    | one => exact below_last (by omega)
    | _ => exact .here (by omega) _ _
  | two lead second value =>
    simp only [isTail_iff,low] at second value
    cases two with
    | one => omega
    | two lead second value =>
      simp only [isTail_iff,low] at second value
      exact below_next (by omega) fun same => below_last (by omega)
    | _ => exact .here (by omega) _ _
  | three lead second third value =>
    simp only [isTail_iff,secondOfThree_iff,low] at second third value
    cases two with
    | one => omega
    | two lead second value =>
      simp only [low] at value
      omega
    | three lead second third value =>
      simp only [isTail_iff,secondOfThree_iff,low] at second third value
      exact below_next (by omega) fun same => below_next (by omega) fun next => below_last (by omega)
    | four lead => exact .here (by omega) _ _
  | four lead second third fourth value =>
    simp only [isTail_iff,secondOfFour_iff,low] at second third fourth value
    cases two with
    | one => omega
    | two lead second value =>
      simp only [low] at value
      omega
    | three lead second third value =>
      simp only [low] at value
      omega
    | four lead second third fourth value =>
      simp only [isTail_iff,secondOfFour_iff,low] at second third fourth value
      exact below_next (by omega) fun same => below_next (by omega) fun next =>
        below_next (by omega) fun last => below_last (by omega)

theorem encode_lt {a b : Text} (le : Text.le a b = true) (other : a ≠ b) : encode a < encode b := by
  induction a generalizing b with
  | nil =>
    obtain ⟨first,rest,shape⟩ := List.exists_cons_of_ne_nil fun empty => other (encode_eq_nil.mp empty).symm
    rw [shape]
    exact List.nil_lt_cons first rest
  | cons c a ih =>
    cases b with
    | nil => cases le
    | cons d b =>
      simp only [Text.le,Bool.or_eq_true,Bool.and_eq_true,decide_eq_true_eq,beq_iff_eq] at le
      rcases le with below | ⟨same,rest⟩
      · exact below_lt (below_spelled below (spells_encodeChar c) (spells_encodeChar d)) _ _
      · subst d
        have later := ih rest fun equal => other (by rw [equal])
        exact List.append_left_lt later

def Ascending (names : List Text) : Prop := names.Pairwise fun a b => encode a < encode b

theorem ascending_filled {name : Text} {names : List Text} (ascending : Ascending (name :: names)) :
    ∀ other ∈ names, other ≠ [] := by
  intro other listed empty
  have below := (List.pairwise_cons.mp ascending).1 other listed
  rw [empty] at below
  exact List.not_lt_nil _ below

theorem sorted_ascending {α : Type} {groups : Groups Text α} (distinct : groups.keys.Nodup) :
    Ascending groups.sorted.keys :=
  (sortedBy_rising textLe_order distinct).imp fun both => encode_lt both.1 both.2

end ScriptDoc.ByteOrder
