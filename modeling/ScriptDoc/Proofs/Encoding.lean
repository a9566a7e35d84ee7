import ScriptDoc.Proofs.TextLines
import ScriptDoc.Text.Utf8

namespace ScriptDoc.Encoding
open Utf8 TextLines

theorem isTail_iff (b : UInt8) : isTail b = true ↔ 128 ≤ b.toNat ∧ b.toNat ≤ 191 := by
  simp [isTail,UInt8.le_iff_toNat_le]

theorem secondOfThree_iff (a b : UInt8) : secondOfThree a b = true ↔
    (128 ≤ b.toNat ∧ b.toNat ≤ 191) ∧ (a.toNat = 224 → 160 ≤ b.toNat) ∧ (a.toNat = 237 → b.toNat ≤ 159) := by
  simp [secondOfThree,isTail_iff,UInt8.le_iff_toNat_le,← UInt8.toNat_inj,and_assoc]
  omega

theorem secondOfFour_iff (a b : UInt8) : secondOfFour a b = true ↔
    (128 ≤ b.toNat ∧ b.toNat ≤ 191) ∧ (a.toNat = 240 → 144 ≤ b.toNat) ∧ (a.toNat = 244 → b.toNat ≤ 143) := by
  simp [secondOfFour,isTail_iff,UInt8.le_iff_toNat_le,← UInt8.toNat_inj,and_assoc]
  omega

-- The four forms in which a character is spelled; the length of a spelling depends on the first byte.
inductive Spells (ch : Char) : Bytes → Prop where
  | one {a : UInt8} (lead : a.toNat < 128) (value : ch.toNat = a.toNat) : Spells ch [a]
  | two {a b : UInt8} (lead : 194 ≤ a.toNat ∧ a.toNat < 224) (second : isTail b = true)
      (value : ch.toNat = a.toNat % 32 * 64 + low b) : Spells ch [a, b]
  | three {a b c : UInt8} (lead : 224 ≤ a.toNat ∧ a.toNat < 240) (second : secondOfThree a b = true)
      (third : isTail c = true) (value : ch.toNat = a.toNat % 16 * 4096 + low b * 64 + low c) :
      Spells ch [a, b, c]
  | four {a b c d : UInt8} (lead : 240 ≤ a.toNat ∧ a.toNat < 245) (second : secondOfFour a b = true)
      (third : isTail c = true) (fourth : isTail d = true)
      (value : ch.toNat = a.toNat % 8 * 262144 + low b * 4096 + low c * 64 + low d) :
      Spells ch [a, b, c, d]

theorem ofNat_eq {ch : Char} {n : Nat} (value : ch.toNat = n) : Char.ofNat n = ch := by
  rw [← value,Char.ofNat_toNat]

theorem decode_spelled {ch : Char} {spelling : Bytes} (spells : Spells ch spelling) (rest : Bytes) :
    decode (spelling ++ rest) = (decode rest).map (ch :: ·) := by
  cases spells with
  | one lead value =>
    simp only [List.cons_append,List.nil_append]
    rw [decode.eq_def]
    simp only [UInt8.lt_iff_toNat_lt]
    rw [if_pos (by simp; omega),ofNat_eq value]
  | two lead second value =>
    simp only [List.cons_append,List.nil_append]
    rw [decode.eq_def]
    simp only [UInt8.lt_iff_toNat_lt]
    rw [if_neg (by simp; omega),if_neg (by simp; omega),if_pos (by simp; omega),if_pos second,ofNat_eq value]
  | three lead second third value =>
    simp only [List.cons_append,List.nil_append]
    rw [decode.eq_def]
    simp only [UInt8.lt_iff_toNat_lt]
    rw [if_neg (by simp; omega),if_neg (by simp; omega),if_neg (by simp; omega),if_pos (by simp; omega),
      if_pos (by simp [second,third]),ofNat_eq value]
  | four lead second third fourth value =>
    simp only [List.cons_append,List.nil_append]
    rw [decode.eq_def]
    simp only [UInt8.lt_iff_toNat_lt]
    rw [if_neg (by simp; omega),if_neg (by simp; omega),if_neg (by simp; omega),if_neg (by simp; omega),
      if_pos (by simp; omega),if_pos (by simp [second,third,fourth]),ofNat_eq value]

theorem toNat_byte {n : Nat} (small : n < 256) : n.toUInt8.toNat = n := by
  simp [Nat.mod_eq_of_lt small]

theorem toNat_tail (n : Nat) : (tail n).toNat = 128 + n % 64 := by
  unfold tail
  exact toNat_byte (by omega)

theorem tail_isTail (n : Nat) : isTail (tail n) = true := by
  rw [isTail_iff,toNat_tail]
  omega

theorem low_tail (n : Nat) : low (tail n) = n % 64 := by
  rw [low,toNat_tail]
  omega

theorem char_range (ch : Char) : ch.toNat < 55296 ∨ 57343 < ch.toNat ∧ ch.toNat < 1114112 :=
  ch.valid

theorem spells_encodeChar (ch : Char) : Spells ch (encodeChar ch) := by
  have range := char_range ch
  unfold encodeChar
  dsimp only
  split
  · rename_i small
    exact .one (by rw [toNat_byte (by omega)]; omega) (toNat_byte (by omega)).symm
  · split
    · rename_i large small
      have lead : (0xC0 + ch.toNat / 64).toUInt8.toNat = 0xC0 + ch.toNat / 64 := toNat_byte (by omega)
      exact .two (by rw [lead]; omega) (tail_isTail _) (by rw [lead,low_tail]; omega)
    · split
      · rename_i large small
        have lead : (0xE0 + ch.toNat / 4096).toUInt8.toNat = 0xE0 + ch.toNat / 4096 := toNat_byte (by omega)
        refine .three (by rw [lead]; omega) ?_ (tail_isTail _) (by rw [lead,low_tail,low_tail]; omega)
        rw [secondOfThree_iff,lead,toNat_tail]
        omega
      · have lead : (0xF0 + ch.toNat / 262144).toUInt8.toNat = 0xF0 + ch.toNat / 262144 := toNat_byte (by omega)
        refine .four (by rw [lead]; omega) ?_ (tail_isTail _) (tail_isTail _)
          (by rw [lead,low_tail,low_tail,low_tail]; omega)
        rw [secondOfFour_iff,lead,toNat_tail]
        omega

theorem toNat_ofNat {n : Nat} (valid : n < 55296 ∨ 57343 < n ∧ n < 1114112) : (Char.ofNat n).toNat = n := by
  have allowed : n.isValidChar := valid
  rw [Char.ofNat,dif_pos allowed]
  rfl

-- A decoded text begins with a character that the bytes in front spell.
theorem decode_cons {a : UInt8} {bytes : Bytes} {t : Text} (decoded : decode (a :: bytes) = some t) :
    ∃ ch spelling rest u, a :: bytes = spelling ++ rest ∧ Spells ch spelling ∧ decode rest = some u ∧
      t = ch :: u := by
  rw [decode.eq_def] at decoded
  simp only [UInt8.lt_iff_toNat_lt] at decoded
  split at decoded
  · rename_i lead
    obtain ⟨u,rest,rfl⟩ := Option.map_eq_some_iff.mp decoded
    have lead : a.toNat < 128 := by simpa using lead
    exact ⟨_,[a],bytes,u,rfl,.one lead (toNat_ofNat (by omega)),rest,rfl⟩
  · split at decoded
    · cases decoded
    · split at decoded
      · rename_i large small
        have lead : 194 ≤ a.toNat ∧ a.toNat < 224 := by simp at large small; omega
        split at decoded
        · rename_i b more
          split at decoded
          · rename_i second
            obtain ⟨u,rest,rfl⟩ := Option.map_eq_some_iff.mp decoded
            have value : a.toNat % 32 * 64 + low b < 55296 := by unfold low; omega
            exact ⟨_,[a,b],more,u,rfl,.two lead second (toNat_ofNat (.inl value)),rest,rfl⟩
          · cases decoded
        · cases decoded
      · split at decoded
        · rename_i large small
          have lead : 224 ≤ a.toNat ∧ a.toNat < 240 := by simp at large small; omega
          split at decoded
          · rename_i b c more
            split at decoded
            · rename_i checked
              obtain ⟨second,third⟩ := Bool.and_eq_true_iff.mp checked
              obtain ⟨u,rest,rfl⟩ := Option.map_eq_some_iff.mp decoded
              have bounds := (secondOfThree_iff a b).mp second
              have value : (Char.ofNat (a.toNat % 16 * 4096 + low b * 64 + low c)).toNat
                  = a.toNat % 16 * 4096 + low b * 64 + low c :=
                toNat_ofNat (by unfold low; omega)
              exact ⟨_,[a,b,c],more,u,rfl,.three lead second third value,rest,rfl⟩
            · cases decoded
          · cases decoded
        · split at decoded
          · rename_i large small
            have lead : 240 ≤ a.toNat ∧ a.toNat < 245 := by simp at large small; omega
            split at decoded
            · rename_i b c d more
              split at decoded
              · rename_i checked
                obtain ⟨checked,fourth⟩ := Bool.and_eq_true_iff.mp checked
                obtain ⟨second,third⟩ := Bool.and_eq_true_iff.mp checked
                obtain ⟨u,rest,rfl⟩ := Option.map_eq_some_iff.mp decoded
                have bounds := (secondOfFour_iff a b).mp second
                have value : (Char.ofNat (a.toNat % 8 * 262144 + low b * 4096 + low c * 64 + low d)).toNat
                    = a.toNat % 8 * 262144 + low b * 4096 + low c * 64 + low d :=
                  toNat_ofNat (by unfold low; omega)
                exact ⟨_,[a,b,c,d],more,u,rfl,.four lead second third fourth value,rest,rfl⟩
              · cases decoded
            · cases decoded
          · cases decoded

theorem byte_eq {n : Nat} {a : UInt8} (same : n = a.toNat) : n.toUInt8 = a := by
  simp [same]

theorem tail_eq {n : Nat} {b : UInt8} (isTail : isTail b = true) (same : n % 64 = low b) : tail n = b := by
  have bounds := (isTail_iff b).mp isTail
  rw [tail]
  apply byte_eq
  unfold low at same
  omega

-- There is no other spelling than the one that is written.
theorem Spells.encodeChar_eq {ch : Char} {spelling : Bytes} (spells : Spells ch spelling) :
    encodeChar ch = spelling := by
  unfold encodeChar
  dsimp only
  cases spells with
  | one lead value => rw [if_pos (by omega),byte_eq value]
  | @two a b lead second value =>
    have less : low b < 64 := by unfold low; omega
    have first : (0xC0 + ch.toNat / 64).toUInt8 = a := byte_eq (by omega)
    rw [if_neg (by omega),if_pos (by omega),first,tail_eq second (by omega)]
  | @three a b c lead second third value =>
    have bounds := (secondOfThree_iff a b).mp second
    have lessB : low b = b.toNat - 128 := by unfold low; omega
    have lessC : low c < 64 := by unfold low; omega
    have secondTail : isTail b = true := (isTail_iff b).mpr bounds.1
    have first : (0xE0 + ch.toNat / 4096).toUInt8 = a := byte_eq (by omega)
    rw [if_neg (by omega),if_neg (by omega),if_pos (by omega),first,
      tail_eq secondTail (by omega),tail_eq third (by omega)]
  | @four a b c d lead second third fourth value =>
    have bounds := (secondOfFour_iff a b).mp second
    have lessB : low b = b.toNat - 128 := by unfold low; omega
    have lessC : low c < 64 := by unfold low; omega
    have lessD : low d < 64 := by unfold low; omega
    have secondTail : isTail b = true := (isTail_iff b).mpr bounds.1
    have first : (0xF0 + ch.toNat / 262144).toUInt8 = a := byte_eq (by omega)
    rw [if_neg (by omega),if_neg (by omega),if_neg (by omega),first,
      tail_eq secondTail (by omega),tail_eq third (by omega),tail_eq fourth (by omega)]

@[simp] theorem encode_nil : encode [] = [] := rfl
@[simp] theorem encode_cons (ch : Char) (t : Text) : encode (ch :: t) = encodeChar ch ++ encode t := rfl
@[simp] theorem encode_append (t u : Text) : encode (t ++ u) = encode t ++ encode u := List.flatMap_append

theorem decode_encode (t : Text) : decode (encode t) = some t := by
  induction t with
  | nil => rfl
  | cons ch t ih => rw [encode_cons,decode_spelled (spells_encodeChar ch),ih,Option.map_some]

theorem encode_of_decode {bytes : Bytes} {t : Text} (decoded : decode bytes = some t) : encode t = bytes := by
  induction t generalizing bytes with
  | nil =>
    cases bytes with
    | nil => rfl
    | cons a bytes =>
      obtain ⟨_,_,_,_,_,_,_,impossible⟩ := decode_cons decoded
      cases impossible
  | cons ch t ih =>
    cases bytes with
    | nil => cases decoded
    | cons a bytes =>
      obtain ⟨first,spelling,rest,u,shape,spells,others,same⟩ := decode_cons decoded
      cases same
      rw [encode_cons,spells.encodeChar_eq,ih others,shape]

theorem decode_eq_some_iff {bytes : Bytes} {t : Text} : decode bytes = some t ↔ bytes = encode t := by
  constructor
  · exact fun decoded => (encode_of_decode decoded).symm
  · rintro rfl
    exact decode_encode t

-- A byte below 128 stands for itself and is part of nothing else.
theorem low_byte_mem {ch : Char} {a : UInt8} (small : a.toNat < 128) (member : a ∈ encodeChar ch) :
    ch.toNat = a.toNat := by
  have spells := spells_encodeChar ch
  generalize encodeChar ch = spelling at spells member
  cases spells with
  | one lead value =>
    cases List.mem_singleton.mp member
    exact value
  | two lead second value =>
    have bounds := (isTail_iff _).mp second
    simp only [List.mem_cons,List.not_mem_nil,or_false] at member
    rcases member with rfl | rfl <;> omega
  | three lead second third value =>
    have bounds := ((secondOfThree_iff _ _).mp second).1
    have boundsThird := (isTail_iff _).mp third
    simp only [List.mem_cons,List.not_mem_nil,or_false] at member
    rcases member with rfl | rfl | rfl <;> omega
  | four lead second third fourth value =>
    have bounds := ((secondOfFour_iff _ _).mp second).1
    have boundsThird := (isTail_iff _).mp third
    have boundsFourth := (isTail_iff _).mp fourth
    simp only [List.mem_cons,List.not_mem_nil,or_false] at member
    rcases member with rfl | rfl | rfl | rfl <;> omega

theorem encodeChar_ne_nil (ch : Char) : encodeChar ch ≠ [] := by
  have spells := spells_encodeChar ch
  intro empty
  rw [empty] at spells
  cases spells

theorem encode_eq_nil {t : Text} : encode t = [] ↔ t = [] := by
  cases t <;> simp [encodeChar_ne_nil]

-- Bytes are cut where the text is cut: a line feed is one byte, and no other character has that byte.
theorem pieces_encode (t : Text) :
    pieces (· == 10) (encode t) = (pieces (· == '\n') t).map encode := by
  induction t with
  | nil => rfl
  | cons ch t ih =>
    by_cases feed : ch = '\n'
    · subst ch
      have byte : encodeChar '\n' = [10] := by decide
      rw [encode_cons,byte,List.singleton_append,pieces_cons_sep (by rfl),pieces_cons_sep (by rfl),ih]
      rfl
    · obtain ⟨piece,more,found⟩ := pieces_cases (· == '\n') t
      have clean : ∀ b ∈ encodeChar ch, (b == 10) = false := by
        intro b member
        rw [beq_eq_false_iff_ne]
        rintro rfl
        have value := low_byte_mem (by decide) member
        exact feed (Char.toNat_inj.mp value)
      rw [found,List.map_cons] at ih
      rw [encode_cons,pieces_append_clean clean ih,pieces_cons_other (by simpa using feed) found]
      simp

theorem dropFinal_encode (t : Text) : dropFinal 13 (encode t) = encode (dropFinal '\r' t) := by
  unfold dropFinal
  cases shape : t.getLast? with
  | none =>
    have empty : t = [] := List.getLast?_eq_none_iff.mp shape
    subst t
    rfl
  | some ch =>
    obtain ⟨before,rfl⟩ := List.getLast?_eq_some_iff.mp shape
    by_cases ret : ch = '\r'
    · subst ch
      have byte : encodeChar '\r' = [13] := by decide
      simp [byte]
    · have other : (encode (before ++ [ch])).getLast? ≠ some 13 := by
        intro last
        rw [encode_append,encode_cons,encode_nil,List.append_nil,List.getLast?_append,
          List.getLast?_eq_some_getLast (encodeChar_ne_nil ch),Option.some_or] at last
        have value := low_byte_mem (by decide) (Option.some.inj last ▸ List.getLast_mem _)
        exact ret (Char.toNat_inj.mp value)
      rw [if_neg other,if_neg (by simpa using ret)]

theorem closeLines_encode (cut : List Text) :
    closeLines 13 (cut.map encode) = (closeLines '\r' cut).map encode := by
  induction cut with
  | nil => rfl
  | cons line rest ih =>
    cases rest with
    | nil =>
      simp only [List.map_cons,List.map_nil,closeLines,encode_eq_nil]
      split <;> rfl
    | cons next rest =>
      rw [List.map_cons] at ih ⊢
      rw [List.map_cons,closeLines,ih,dropFinal_encode,closeLines,List.map_cons]

theorem byteLines_encode (t : Text) :
    closeLines 13 (pieces (· == 10) (encode t)) = t.lines.map encode := by
  rw [pieces_encode,closeLines_encode]
  rfl

end ScriptDoc.Encoding
