import Mathlib.Data.List.Lex
import Mathlib.Data.List.Sort
import ScriptDoc.Inputs

-- Paths in their order: what is the same path stands together, so that dropping neighbours is enough.
namespace ScriptDoc.PathOrder
open ScriptDoc.Path Inputs

section Dictionary
variable {α : Type} [LinearOrder α]

theorem dictionary_nil (l : List α) : [] ≤ l := by
  cases l with
  | nil => exact le_refl []
  | cons a l => exact le_of_lt (List.nil_lt_cons a l)

theorem dictionary_cons {a b : α} {l m : List α} : a :: l ≤ b :: m ↔ a < b ∨ a = b ∧ l ≤ m := by
  rw [le_iff_lt_or_eq,List.cons_lt_cons_iff,List.cons_eq_cons,le_iff_lt_or_eq]
  tauto

theorem dictionary_short (a : α) (l : List α) : ¬ a :: l ≤ [] := not_le.mpr (List.nil_lt_cons a l)

end Dictionary

-- Numbers in whose dictionary order components, and then lists of them, are compared.
def rankOf : Component → List Nat
  | .name t => 3 :: t.map Char.toNat
  | other => [other.rank]

def key (path : Text) : List (List Nat) := (components path).map rankOf

theorem toNat_inj {a b : Text} : a.map Char.toNat = b.map Char.toNat ↔ a = b :=
  (List.map_injective_iff.mpr fun _ _ => Char.toNat_inj.mp).eq_iff

theorem rankOf_inj {a b : Component} : rankOf a = rankOf b ↔ a = b := by
  cases a <;> cases b <;> simp [rankOf,Component.rank,toNat_inj]

theorem textLe_iff (a b : Text) : Text.le a b = true ↔ a.map Char.toNat ≤ b.map Char.toNat := by
  induction a generalizing b with
  | nil => simp [Text.le,dictionary_nil]
  | cons c a ih =>
    cases b with
    | nil => simp [Text.le,dictionary_short]
    | cons d b => simp [Text.le,dictionary_cons,ih,Char.toNat_inj]

theorem ranks_injective : Function.Injective (List.map rankOf) :=
  List.map_injective_iff.mpr fun _ _ => rankOf_inj.mp

theorem same_iff (a b : Text) : same a b = true ↔ key a = key b := by
  rw [same,beq_iff_eq,key,key,ranks_injective.eq_iff]

section Sorting

end Sorting

end ScriptDoc.PathOrder
