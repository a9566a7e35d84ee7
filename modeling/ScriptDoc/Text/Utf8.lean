import ScriptDoc.Text

-- The strict byte form of texts: shortest sequences only, no surrogates, nothing above U+10FFFF.
namespace ScriptDoc.Utf8

abbrev Bytes := List UInt8

def isTail (b : UInt8) : Bool := 0x80 ≤ b && b ≤ 0xBF

def low (b : UInt8) : Nat := b.toNat % 64

-- The second byte of a three-byte sequence rules out long forms and surrogates.
def secondOfThree (a b : UInt8) : Bool :=
  isTail b && (a ≠ 0xE0 || 0xA0 ≤ b) && (a ≠ 0xED || b ≤ 0x9F)

-- The second byte of a four-byte sequence rules out long forms and too large values.
def secondOfFour (a b : UInt8) : Bool :=
  isTail b && (a ≠ 0xF0 || 0x90 ≤ b) && (a ≠ 0xF4 || b ≤ 0x8F)

def decode : Bytes → Option Text
  | [] => some []
  | a :: rest =>
    if a < 0x80 then (decode rest).map (Char.ofNat a.toNat :: ·)
    else if a < 0xC2 then none
    else if a < 0xE0 then
      match rest with
      | b :: more =>
        if isTail b then (decode more).map (Char.ofNat (a.toNat % 32 * 64 + low b) :: ·) else none
      | [] => none
    else if a < 0xF0 then
      match rest with
      | b :: c :: more =>
        if secondOfThree a b && isTail c then
          (decode more).map (Char.ofNat (a.toNat % 16 * 4096 + low b * 64 + low c) :: ·)
        else none
      | _ => none
    else if a < 0xF5 then
      match rest with
      | b :: c :: d :: more =>
        if secondOfFour a b && isTail c && isTail d then
          (decode more).map
            (Char.ofNat (a.toNat % 8 * 262144 + low b * 4096 + low c * 64 + low d) :: ·)
        else none
      | _ => none
    else none

def tail (n : Nat) : UInt8 := (0x80 + n % 64).toUInt8

def encodeChar (ch : Char) : Bytes :=
  let n := ch.toNat
  if n < 0x80 then [n.toUInt8]
  else if n < 0x800 then [(0xC0 + n / 64).toUInt8, tail n]
  else if n < 0x10000 then [(0xE0 + n / 4096).toUInt8, tail (n / 64), tail n]
  else [(0xF0 + n / 262144).toUInt8, tail (n / 4096), tail (n / 64), tail n]

def encode (t : Text) : Bytes := t.flatMap encodeChar

end ScriptDoc.Utf8
