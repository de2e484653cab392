-- SUMMARY: Numbers as they are written: whole part, fraction, exponent.
import Quarry.Number.Decimal
import Quarry.Number.Scaling

/-!
# Written numbers

A `Numeral` is a number as it stands in a text. It is read through a significand of 64 bits, which is
then scaled by a power of ten. Two layouts write a decimal as a numeral: positional and scientific.
-/

namespace Quarry

/-- A number as written: a whole part without leading zeros, the digits after the point (none when
    there is no point), and the exponent of ten, if one is written. -/
structure Numeral where
  negative : Bool
  whole : Nat
  fraction : List (Fin 10)
  exponent : Option Int
  deriving DecidableEq

namespace Numeral

/-! ## Text -/

def digitChar (d : Fin 10) : Char :=
  Char.ofNat ('0'.toNat + d)

def digitOf? (c : Char) : Option (Fin 10) :=
  if h : c.isDigit then some ⟨(c.toNat - '0'.toNat) % 10, by omega⟩ else none

/-- The exponent part, with a sign always written. -/
def exponentText (e : Int) : List Char :=
  ['e', if e < 0 then '-' else '+'] ++ Nat.toDigits 10 e.natAbs

/-- The characters of the numeral. -/
def chars (n : Numeral) : List Char :=
  (if n.negative then ['-'] else []) ++ Nat.toDigits 10 n.whole
    ++ (if n.fraction.isEmpty then [] else '.' :: n.fraction.map digitChar)
    ++ (n.exponent.map exponentText).getD []

def text (n : Numeral) : String :=
  String.ofList n.chars

/-! ## Value -/

/-- The integer that is written, if the numeral has neither fraction nor exponent. A zero with a
    sign is not the numeral of an integer. -/
def toInt? (n : Numeral) : Option Int :=
  if n.fraction.isEmpty && n.exponent.isNone then
    if n.negative then (if n.whole = 0 then none else some (-(n.whole : Int)))
    else some n.whole
  else none

/-- The decimal that the numeral is read as, up to its sign. Digits are left out from the first that
    a significand has no room for; those of the whole part still count as places. -/
def toDecimal (n : Numeral) : Decimal :=
  let d := (Decimal.clip ⟨n.whole, 0⟩).extend n.fraction
  ⟨d.digits, d.exponent + n.exponent.getD 0⟩

/-- The double that the numeral is read as: the one nearest to its significand, scaled. It is within
    a few steps of the nearest double, and infinite where scaling exceeds the doubles. -/
def toBinary64 (n : Numeral) : Binary64 :=
  let d := n.toDecimal
  Binary64.ofMagnitude n.negative ((Binary64.ofInt d.digits).scaleTen d.exponent).magnitude

/-! ## Layouts -/

def ofInt (n : Int) : Numeral :=
  ⟨n < 0, n.natAbs, [], none⟩

/-- The last `count` digits of a number, zeros in front where it has fewer. -/
def lastDigits : Nat → Nat → List (Fin 10)
  | 0, _ => []
  | count + 1, n => lastDigits count (n / 10) ++ [⟨n % 10, by omega⟩]

/-- A decimal without an exponent. An integer gets the fraction `ending`. -/
def positional (negative : Bool) (d : Decimal) (ending : List (Fin 10)) : Numeral :=
  if 0 ≤ d.exponent then ⟨negative, d.digits * 10 ^ d.exponent.toNat, ending, none⟩
  else
    let places := (-d.exponent).toNat
    ⟨negative, d.digits / 10 ^ places, lastDigits places d.digits, none⟩

/-- A decimal with one digit before the point and an exponent. -/
def scientific (negative : Bool) (d : Decimal) : Numeral :=
  let places := Decimal.digitCount d.digits - 1
  ⟨negative, d.digits / 10 ^ places, lastDigits places d.digits, some (places + d.exponent)⟩

end Numeral

end Quarry
