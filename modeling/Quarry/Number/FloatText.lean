-- SUMMARY: The two ways in which doubles are written, for readers and for documents.
import Quarry.Number.Numeral

/-!
# Doubles in text

Both ways write the fewest digits to which the number is the nearest double. They differ in layout
and in the choice between two decimals that are equally near.
-/

namespace Quarry

/-- How finite doubles are written. -/
structure FloatStyle where
  /-- Which decimal is written for a number midway between two of them. -/
  midway : Binary64.MidwayRule
  /-- The exponents, of the leading digit, that are written without an exponent part. -/
  positionalExponent : Int → Bool
  /-- The fraction of a number that is an integer. -/
  ending : List (Fin 10)

namespace FloatStyle

/-- The style of messages and displays: never an exponent, and an integer has no point. -/
def display : FloatStyle := ⟨.up, fun _ => true, []⟩

/-- The style of JSON documents: an exponent from `1e16` on and below `1e-5`, and an integer ends
    in `.0`. -/
def document : FloatStyle := ⟨.even, fun e => -5 ≤ e && e ≤ 15, [⟨0, by decide⟩]⟩

/-- The numeral of a finite double. -/
def numeral (style : FloatStyle) (x : Binary64) : Numeral :=
  let d := x.shortest style.midway
  if style.positionalExponent (Decimal.digitCount d.digits - 1 + d.exponent) then
    .positional x.negative d style.ending
  else .scientific x.negative d

end FloatStyle

/-- A double as shown to a reader. -/
def Binary64.display (x : Binary64) : String :=
  if x.isNaN then "NaN"
  else if x.isFinite then (FloatStyle.display.numeral x).text
  else if x.negative then "-inf" else "inf"

end Quarry
