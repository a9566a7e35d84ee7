namespace ScriptDoc

-- A magnitude of double precision: significand * 2 ^ shift units of 2 ^ (-1074). The significand has
-- at most 53 bits, and exactly 53 where the shift is not zero.
structure Binary64 where
  significand : Nat
  shift : Nat
  deriving Repr, DecidableEq

namespace Binary64

def twoTo (n : Nat) : Nat := Nat.pow 2 n
def tenTo (n : Nat) : Nat := Nat.pow 10 n

def zero : Binary64 := ⟨0, 0⟩

-- The quotient rounded to a whole number, a half going to the even neighbour.
def roundDiv (num den : Nat) : Nat :=
  let whole := num / den
  let twice := 2 * (num % den)
  if twice < den then whole
  else if den < twice then whole + 1
  else if whole % 2 = 0 then whole else whole + 1

def unitsPerOne : Nat := twoTo 1074

def maxShift : Nat := 2045

-- The magnitude nearest to a quotient; none beyond the largest one.
def ofRatio (num den : Nat) : Option Binary64 :=
  let units := num * unitsPerOne
  let shift := (units / den).log2 + 1 - 53
  let rounded := roundDiv units (den * twoTo shift)
  let result : Binary64 := if rounded = twoTo 53 then ⟨twoTo 52, shift + 1⟩ else ⟨rounded, shift⟩
  if result.shift ≤ maxShift then some result else none

def ofNat (n : Nat) : Option Binary64 := ofRatio n 1

-- Numerator over `unitsPerOne`.
def units (x : Binary64) : Nat := x.significand * twoTo x.shift

def mul (x y : Binary64) : Option Binary64 := ofRatio (x.units * y.units) (unitsPerOne * unitsPerOne)

def div (x y : Binary64) : Option Binary64 := ofRatio x.units y.units

-- The power of ten as it is held in double precision; exact up to 10 ^ 22.
def pow10 (n : Nat) : Option Binary64 := ofNat (tenTo n)

end Binary64
end ScriptDoc
