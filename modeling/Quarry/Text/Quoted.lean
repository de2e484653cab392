-- SUMMARY: Text between double quotes, every character of it visible.
import Quarry.Text.CodePoints
import Quarry.Text.GraphemeExtend
import Quarry.Text.Unprintable

/-!
# Quoted text

The form in which texts are shown to a reader: between double quotes, with the usual escapes, and
with the code point in place of a character that could not be seen.
-/

namespace Quarry.Text

/-- Whether the character shows itself when it is written as it is. -/
def isVisible (c : Char) : Bool :=
  if c.toNat < 0x7f then 0x20 ≤ c.toNat
  else !combines c && !inRanges unprintableRanges c

/-- One character between quotes. -/
def quoteChar (c : Char) : List Char :=
  match c with
  | '"' => ['\\', '"']
  | '\\' => ['\\', '\\']
  | '\n' => ['\\', 'n']
  | '\r' => ['\\', 'r']
  | '\t' => ['\\', 't']
  | '\x00' => ['\\', '0']
  | c =>
    if isVisible c then [c]
    else ['\\', 'u', '\x7b'] ++ Nat.toDigits 16 c.toNat ++ ['\x7d']

/-- The text between double quotes. -/
def quoted (s : String) : String :=
  String.ofList ('"' :: s.toList.flatMap quoteChar ++ ['"'])

end Quarry.Text
