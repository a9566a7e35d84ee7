import ScriptDoc.Number.Shortest
import ScriptDoc.Text

-- Numbers of the data format: how they are read and how they are written.
namespace ScriptDoc

inductive Number where
  | natural (n : Nat)
  -- The number below zero by one more than n.
  | negative (n : Nat)
  | real (isNegative : Bool) (magnitude : Binary64)
  deriving Repr, DecidableEq

namespace Number

-- Whole numbers are kept as they are up to 64 bits, below zero with the sign among them.
def maxNatural : Nat := 18446744073709551615
def maxNegative : Nat := 9223372036854775808
def maxExponent : Nat := 2147483647

-- The parts of a number as it is written. Digits are kept as numbers.
structure Literal where
  isNegative : Bool
  whole : List Nat
  fraction : List Nat
  exponent : Option (Bool × List Nat)
  deriving Repr, DecidableEq

-- Digits are taken up while the significand fits 64 bits; the others are left.
def absorb (significand : Nat) : List Nat → Nat × List Nat
  | [] => (significand, [])
  | d :: rest =>
    if significand * 10 + d ≤ maxNatural then absorb (significand * 10 + d) rest
    else (significand, d :: rest)

-- Division by powers of ten beyond the largest one goes step by step, and stops at zero.
def scaleDown (f : Binary64) (places : Nat) : Option Binary64 :=
  if places ≤ 308 then do (f.div (← Binary64.pow10 places))
  else if f.significand = 0 then some f
  else do scaleDown (← f.div (← Binary64.pow10 308)) (places - 308)
termination_by places

-- The significand times a power of ten, each step rounded. None when it is too large.
def scaled (significand : Nat) (exponent : Int) : Option Binary64 := do
  let f ← Binary64.ofNat significand
  if exponent < 0 then scaleDown f exponent.natAbs
  else if exponent.natAbs ≤ 308 then f.mul (← Binary64.pow10 exponent.natAbs)
  else if f.significand = 0 then some f
  else none

def decimalValue (digits : List Nat) : Nat := digits.foldl (fun n d => n * 10 + d) 0

-- An exponent beyond 32 bits leaves zero, unless it makes a number too large.
def shifted (significand : Nat) (start : Int) : Option (Bool × List Nat) → Option Binary64
  | none => scaled significand start
  | some (isNegative, digits) =>
    let n := decimalValue digits
    if maxExponent < n then
      if significand ≠ 0 && !isNegative then none else some .zero
    else scaled significand (if isNegative then start - n else start + n)

def Literal.value (l : Literal) : Option Number :=
  let (significand, dropped) := absorb 0 l.whole
  if l.fraction.isEmpty && l.exponent.isNone && dropped.isEmpty then
    if !l.isNegative then some (.natural significand)
    else if significand ≠ 0 && significand ≤ maxNegative then some (.negative (significand - 1))
    else (Binary64.ofNat significand).map (.real true)
  else
    let (all, unused) := absorb significand l.fraction
    let taken := l.fraction.length - unused.length
    (shifted all (dropped.length - taken) l.exponent).map (.real l.isNegative)

def digit? (c : Char) : Option Nat := if c.isDigit then some (c.toNat - '0'.toNat) else none

def takeDigits (t : Text) : List Nat × Text :=
  ((t.takeWhile Char.isDigit).filterMap digit?, t.dropWhile Char.isDigit)

def takeSign : Text → Bool × Text
  | '-' :: rest => (true, rest)
  | t => (false, t)

-- A zero in front stands alone.
def takeWhole (t : Text) : Option (List Nat × Text) :=
  match takeDigits t with
  | ([], _) => none
  | ([d], rest) => some ([d], rest)
  | (d :: more, rest) => if d = 0 then none else some (d :: more, rest)

def takeFraction : Text → Option (List Nat × Text)
  | '.' :: rest =>
    match takeDigits rest with
    | ([], _) => none
    | found => some found
  | t => some ([], t)

def takeExponent : Text → Option (Option (Bool × List Nat) × Text)
  | c :: rest =>
    if c = 'e' || c = 'E' then
      let (isNegative, digits) := match rest with
        | '+' :: more => (false, more)
        | '-' :: more => (true, more)
        | more => (false, more)
      match takeDigits digits with
      | ([], _) => none
      | (ds, more) => some (some (isNegative, ds), more)
    else some (none, c :: rest)
  | [] => some (none, [])

-- A number in front of a text and what follows it.
def read (t : Text) : Option (Number × Text) := do
  let (isNegative, t) := takeSign t
  let (whole, t) ← takeWhole t
  let (fraction, t) ← takeFraction t
  let (exponent, t) ← takeExponent t
  let n ← (Literal.mk isNegative whole fraction exponent).value
  some (n, t)

def zeros (n : Nat) : Text := List.replicate n '0'

def dropZeros (digits : Text) : Text := (digits.reverse.dropWhile (· == '0')).reverse

-- Decimal exponents of the first digit from -5 to 15 are written positionally.
def isPositional (first : Int) : Bool := -5 ≤ first && first ≤ 15

def positional (digits : Text) (first : Int) : Text :=
  if first < 0 then "0." ++ zeros (first.natAbs - 1) ++ digits
  else
    let width := first.toNat + 1
    let rest := digits.drop width
    digits.take width ++ zeros (width - digits.length) ++ "." ++ (if rest = [] then ['0'] else rest)

def scientific (digits : Text) (first : Int) : Text :=
  digits.take 1 ++ (if digits.length = 1 then [] else '.' :: digits.drop 1)
    ++ "e" ++ (if first < 0 then "-" else "+") ++ Text.ofNat first.natAbs

-- At least one place follows the point.
def decimalText (d : Decimal) : Text :=
  let all := Text.ofNat d.digits
  let first := d.exponent + all.length - 1
  let digits := dropZeros all
  if isPositional first then positional digits first else scientific digits first

def magnitudeText (x : Binary64) : Text := if x.significand = 0 then "0.0" else decimalText x.shortest

def text : Number → Text
  | .natural n => Text.ofNat n
  | .negative n => "-" ++ Text.ofNat (n + 1)
  | .real isNegative x => (if isNegative then ['-'] else []) ++ magnitudeText x

end Number
end ScriptDoc
