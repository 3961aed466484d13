import LessonCheck.Json.Double
import LessonCheck.Text.Quoted

/-!
# Numbers of a JSON document

A numeral is a number as it stands in a document: sign, digits, digits after the point, exponent. Its value
is an integer where it has neither point nor exponent and fits 64 bits, and a double otherwise; a numeral
beyond all doubles has no value. Digits go into the significand while it fits 64 bits, later ones only count.
-/

namespace LessonCheck.Json

inductive Number
  | natural (n : Nat)
  | negative (magnitude : Nat)
  | float (negative : Bool) (magnitude : Double)
  deriving DecidableEq, Repr

def Number.described : Number → Text
  | natural n => "integer ".toList ++ Text.ticked (Text.ofNat n)
  | negative n => "integer ".toList ++ Text.ticked ('-' :: Text.ofNat n)
  | float below d => "floating point ".toList ++ Text.ticked (if below then '-' :: d.text else d.text)

structure Exponent where
  negative : Bool
  digits : Text
  deriving DecidableEq, Repr

/-- The fraction is the digits after the point, none at all without a point. -/
structure Numeral where
  negative : Bool
  whole : Text
  fraction : Text
  exponent : Option Exponent
  deriving DecidableEq, Repr

namespace Numeral

def significandBound : Nat := Nat.pow 2 64

/-- Exponents from here on are only known to be large. -/
def exponentBound : Nat := Nat.pow 2 31

def negativeBound : Nat := Nat.pow 2 63

/-- Appends digits to the significand while it fits, and counts the digits from the first that does not. -/
def absorb : Nat → Text → Nat × Nat
  | s, [] => (s, 0)
  | s, c :: ds =>
    let next := Nat.ofDigitChars 10 [c] s
    if next < significandBound then absorb next ds else (s, (c :: ds).length)

/-- Zero with a minus sign is a double, as are negative integers that are too large. -/
def integer (negative : Bool) (n : Nat) : Option Number :=
  if !negative then some (.natural n)
  else if n = 0 ∨ negativeBound < n then (Double.ofFraction? n 1).map (.float true)
  else some (.negative n)

/-- The significand times ten to the shift and to the written exponent. -/
def scaled? (significand : Nat) (shift : Int) : Option Exponent → Option Double
  | none => Double.ofDecimal? significand shift
  | some e =>
    let size := Nat.ofDigitChars 10 e.digits 0
    if size < exponentBound then
      Double.ofDecimal? significand (if e.negative then shift - size else shift + size)
    else if significand = 0 ∨ e.negative then some .zero
    else none

def value? (n : Numeral) : Option Number :=
  let (whole, dropped) := absorb 0 n.whole
  if n.fraction = [] ∧ n.exponent = none ∧ dropped = 0 then integer n.negative whole
  else
    let (significand, ignored) := absorb whole n.fraction
    let shift : Int := dropped - ((n.fraction.length - ignored : Nat) : Int)
    (scaled? significand shift n.exponent).map (.float n.negative)

end Numeral
end LessonCheck.Json
