import LessonCheck.Text.Numeral

/-!
# Doubles

The numbers of a JSON text that are no integers are held in binary with 53 significant bits, rounded to the
nearest with ties to even. They occur in messages only, written with the fewest digits that read back as
the same number; very large and very small ones have an exponent, all others a decimal point. A magnitude is
`mantissa * 2 ^ exponent`, all arithmetic is on natural numbers.
-/

namespace LessonCheck.Json

structure Double where
  mantissa : Nat
  exponent : Int
  deriving DecidableEq, Repr

namespace Double

def zero : Double := ⟨0, -1074⟩

/-- The quotient rounded to the nearest natural number, a half to the even one. -/
def roundedQuotient (num den : Nat) : Nat :=
  let q := num / den
  match compare (2 * (num % den)) den with
  | .lt => q
  | .gt => q + 1
  | .eq => q + q % 2

/-- The fraction in units of `2 ^ e`. -/
def inUnits (num den : Nat) (e : Int) : Nat :=
  roundedQuotient (num * Nat.pow 2 (-e).toNat) (den * Nat.pow 2 e.toNat)

/-- The nearest double to a fraction, unless it is too large for any. -/
def ofFraction? (num den : Nat) : Option Double :=
  if num = 0 then some zero
  else
    let estimate : Int := (Nat.log2 num : Int) - Nat.log2 den - 53
    let e := max estimate (-1074)
    let e := if inUnits num den e < Nat.pow 2 53 then e else e + 1
    let m := inUnits num den e
    let d : Double := if m = Nat.pow 2 53 then ⟨Nat.pow 2 52, e + 1⟩ else ⟨m, e⟩
    if 971 < d.exponent then none else some d

def num (d : Double) : Nat := d.mantissa * Nat.pow 2 d.exponent.toNat

def den (d : Double) : Nat := Nat.pow 2 (-d.exponent).toNat

def mul? (a b : Double) : Option Double := ofFraction? (a.num * b.num) (a.den * b.den)

def div? (a b : Double) : Option Double := ofFraction? (a.num * b.den) (a.den * b.num)

def tenTo? (k : Nat) : Option Double := ofFraction? (Nat.pow 10 k) 1

/-- Division by a power of ten in steps of at most `10 ^ 308`, each rounded. -/
def scaleDown (d : Double) (k : Nat) : Option Double :=
  if d.mantissa = 0 then some d
  else if k ≤ 308 then (tenTo? k).bind d.div?
  else ((tenTo? 308).bind d.div?).bind fun q => scaleDown q (k - 308)
termination_by k

/-- The double for decimal digits and an exponent: the digits first, then one multiplication or division. -/
def ofDecimal? (digits : Nat) (exponent : Int) : Option Double := do
  let d ← ofFraction? digits 1
  if exponent < 0 then d.scaleDown exponent.natAbs
  else if d.mantissa = 0 then some d
  else if exponent.natAbs ≤ 308 then (← tenTo? exponent.natAbs) |> d.mul?
  else none

/-- Whether `digits * 10 ^ exponent` lies between the halfway points to the neighbours of the double; the
points themselves count for an even mantissa. -/
def readsBack (d : Double) (digits : Nat) (exponent : Int) : Bool :=
  let scale (n : Nat) (ten two : Int) := n * Nat.pow 10 ten.toNat * Nat.pow 2 two.toNat
  let narrow := d.mantissa == Nat.pow 2 52 && d.exponent > -1074
  let low := if narrow then 4 * d.mantissa - 1 else 4 * d.mantissa - 2
  let high := 4 * d.mantissa + 2
  let value := scale digits exponent (2 - d.exponent)
  let bound (n : Nat) := scale n (-exponent) (d.exponent - 2)
  if d.mantissa % 2 = 0 then bound low ≤ value && value ≤ bound high
  else bound low < value && value < bound high

/-- The decimal in units of `10 ^ exponent` that reads back and is nearest, if the grid has one; of two at the
same distance it is the even one. -/
def onGrid? (d : Double) (exponent : Int) : Option (Nat × Int) :=
  let n := d.num * Nat.pow 10 (-exponent).toNat
  let m := d.den * Nat.pow 10 exponent.toNat
  let below := n / m
  match d.readsBack below exponent, d.readsBack (below + 1) exponent with
  | true, true => some (roundedQuotient n m, exponent)
  | true, false => some (below, exponent)
  | false, true => some (below + 1, exponent)
  | false, false => none

/-- The digits and exponent of the shortest decimal that reads back, from coarse grids to fine ones. -/
def shortest (d : Double) : Nat × Int :=
  let grids := (List.range 700).map fun (i : Nat) => (309 : Int) - i
  (grids.findSome? fun e => (d.onGrid? e).filter (0 < ·.1)).getD (0, 0)

/-! ## The text of a double -/

/-- The least and the greatest power of ten at which the first digit may stand without an exponent. -/
def leastPositional : Int := -5

def greatestPositional : Int := 15

/-- Digits in units of a power of ten with the decimal point in place, which always has a digit on either
side. -/
def positional (ds : Text) (exponent : Int) : Text :=
  if 0 ≤ exponent then ds ++ List.replicate exponent.toNat '0' ++ ".0".toList
  else
    let places := exponent.natAbs
    let padded := List.leftpad (places + 1) '0' ds
    padded.take (padded.length - places) ++ '.' :: padded.drop (padded.length - places)

/-- Digits with the point behind the first one, if there are more, and the power of ten of that digit, which
always has a sign. -/
def scientific (ds : Text) (power : Int) : Text :=
  ds.take 1 ++ (if ds.length = 1 then [] else '.' :: ds.drop 1) ++
    'e' :: (if power < 0 then '-' else '+') :: Text.ofNat power.natAbs

def text (d : Double) : Text :=
  if d.mantissa = 0 then "0.0".toList
  else
    let (digits, exponent) := d.shortest
    let ds := Text.ofNat digits
    let power : Int := exponent + ds.length - 1
    if leastPositional ≤ power ∧ power ≤ greatestPositional then positional ds exponent
    else scientific ds power

end Double
end LessonCheck.Json
