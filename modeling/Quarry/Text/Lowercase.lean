-- SUMMARY: The full lowercase form of a text, with the final form of sigma.
import Quarry.Text.CodePoints
import Quarry.Text.Cased
import Quarry.Text.CaseIgnorable
import Quarry.Text.LowercaseMap

/-!
# Lowercase text

Two texts that differ in case only are compared by their lowercase forms. The form of a character
does not depend on its neighbours, with one exception: a capital sigma that ends a word becomes the
final sigma.
-/

namespace Quarry.Text

/-! ## Single characters -/

/-- The lowercase form of one character on its own. -/
def lowerChar (c : Char) : List Char :=
  if c = '\u0130' then ['i', '\u0307']
  else
    match lowercaseRuns.find? (·.covers c.toNat) with
    | some run => [Char.ofNat (c.toNat + run.offset).toNat]
    | none => [c]

/-! ## Sigma -/

/-- Whether the first character that is not case-ignorable is cased. -/
def startsCased (cs : List Char) : Bool :=
  match cs.dropWhile (inRanges caseIgnorableRanges) with
  | c :: _ => inRanges casedRanges c
  | [] => false

/-- The form of a capital sigma between the reversed text `before` and the text `after`: final when
    a cased letter comes before it and none comes after it. -/
def lowerSigma (before after : List Char) : Char :=
  if startsCased before && !startsCased after then 'ς' else 'σ'

/-! ## Texts -/

/-- The lowercase form of the characters that follow the reversed text `before`. -/
def lowerAfter (before : List Char) : List Char → List Char
  | [] => []
  | c :: rest =>
    (if c = 'Σ' then [lowerSigma before rest] else lowerChar c) ++ lowerAfter (c :: before) rest

/-- The full lowercase form of a text. -/
def lowercase (s : String) : String :=
  String.ofList (lowerAfter [] s.toList)

end Quarry.Text
