import ScriptDoc.Number.Binary64

-- The decimal with the fewest digits that reads back as a given magnitude.
namespace ScriptDoc

-- digits * 10 ^ exponent
structure Decimal where
  digits : Nat
  exponent : Int
  deriving Repr, DecidableEq

namespace Binary64

-- Everything that reads back as the magnitude lies between these bounds, in quarters of a unit. The
-- bounds themselves do when the significand is even.
structure Bounds where
  low : Nat
  value : Nat
  high : Nat
  closed : Bool
  deriving Repr, DecidableEq

-- Below a power of two the next magnitude is twice as near.
def bounds (x : Binary64) : Bounds :=
  let quarter := twoTo x.shift
  let below := if x.significand = twoTo 52 && x.shift ≠ 0 then 1 else 2
  ⟨4 * x.units - below * quarter, 4 * x.units, 4 * x.units + 2 * quarter, x.significand % 2 = 0⟩

def quarters : Nat := 4 * unitsPerOne

-- Multiples of 10 ^ k are compared after both sides have been cleared of fractions: a count c of them
-- stands against a number of quarters n as c * step against n * scale.
structure Grid where
  scale : Nat
  step : Nat
  deriving Repr, DecidableEq

def grid (k : Int) : Grid :=
  if k < 0 then ⟨tenTo k.natAbs, quarters⟩ else ⟨1, quarters * tenTo k.natAbs⟩

def Bounds.holds (b : Bounds) (g : Grid) (count : Nat) : Bool :=
  if b.closed then b.low * g.scale ≤ count * g.step && count * g.step ≤ b.high * g.scale
  else b.low * g.scale < count * g.step && count * g.step < b.high * g.scale

-- The multiple of 10 ^ k that reads back, if one of the two neighbours of the value does; of two the
-- nearer one, and the even one of two that are equally near.
def Bounds.onGrid (b : Bounds) (g : Grid) : Option Nat :=
  let down := b.value * g.scale / g.step
  let up := down + 1
  let toDown := b.value * g.scale - down * g.step
  let toUp := up * g.step - b.value * g.scale
  match b.holds g down, b.holds g up with
  | true, false => some down
  | false, true => some up
  | true, true =>
    if toDown < toUp then some down
    else if toUp < toDown then some up
    else if down % 2 = 0 then some down else some up
  | false, false => none

-- How often a fraction has to be multiplied by ten to reach one.
def leadingZeros (den : Nat) : Nat → Nat → Nat
  | 0, _ => 0
  | fuel + 1, num => if den ≤ num then 0 else leadingZeros den fuel (10 * num) + 1

-- The exponent of the first decimal digit. No magnitude but zero needs more than 324 steps.
def decimalExponent (x : Binary64) : Int :=
  if unitsPerOne ≤ x.units then ((Nat.toDigits 10 (x.units / unitsPerOne)).length : Int) - 1
  else -(leadingZeros unitsPerOne 400 x.units : Int)

-- Seventeen digits always suffice.
def shortestFrom (b : Bounds) (first : Int) : Nat → Nat → Decimal
  | 0, _ => ⟨0, 0⟩
  | fuel + 1, places =>
    let k := first - places
    match b.onGrid (grid k) with
    | some digits => ⟨digits, k⟩
    | none => shortestFrom b first fuel (places + 1)

def shortest (x : Binary64) : Decimal := shortestFrom x.bounds x.decimalExponent 18 0

end Binary64
end ScriptDoc
