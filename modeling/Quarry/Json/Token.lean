-- SUMMARY: The tokens of a JSON text.
import Quarry.Json.Basic
import Quarry.Json.StringLiteral

/-!
# Tokens

A text is cut into punctuation, string literals and other literals. Where it cannot be cut further
the list ends with `Token.bad`.
-/

namespace Quarry.Json

inductive Token where
  | openArray
  | closeArray
  | openObject
  | closeObject
  | comma
  | colon
  /-- A string literal. -/
  | text (content : Option String)
  /-- A number, a truth value or null. -/
  | literal (value : Json)
  /-- No token begins here. -/
  | bad

/-! ## Numbers -/

/-- A run of digits and the text after it. -/
def takeDigits : List Char → List (Fin 10) × List Char
  | [] => ([], [])
  | c :: rest =>
    match Numeral.digitOf? c with
    | some d => let r := takeDigits rest; (d :: r.1, r.2)
    | none => ([], c :: rest)

def digitsValue (ds : List (Fin 10)) : Nat :=
  ds.foldl (fun (acc : Nat) (d : Fin 10) => 10 * acc + d) 0

/-- The exponent at the end of a number: none for no text, and otherwise a letter, a sign if one
    is wanted, and at least one digit. -/
def exponentOf? : List Char → Option (Option Int)
  | [] => some none
  | e :: rest =>
    if e = 'e' ∨ e = 'E' then
      let (negative, rest) := match rest with
        | '-' :: r => (true, r)
        | '+' :: r => (false, r)
        | r => (false, r)
      match takeDigits rest with
      | (d :: ds, []) =>
        let n := digitsValue (d :: ds)
        some (some (if negative then -(n : Int) else n))
      | _ => none
    else none

/-- The number that the characters write after its sign, all of them. The whole part has at least one
    digit and no leading zero, and a point is followed by a digit. -/
def unsignedOf? (negative : Bool) (cs : List Char) : Option Numeral := do
  let (whole, cs) := takeDigits cs
  if whole.isEmpty || (whole.head? == some 0 && whole.length != 1) then none
  let (fraction, cs) ← match cs with
    | '.' :: r =>
      match takeDigits r with
      | ([], _) => none
      | r => some r
    | r => some ([], r)
  return ⟨negative, digitsValue whole, fraction, ← exponentOf? cs⟩

/-- The number that the characters write, all of them. Only a minus can stand in front of it. -/
def numeralOf? : List Char → Option Numeral
  | '-' :: cs => unsignedOf? true cs
  | cs => unsignedOf? false cs

/-! ## Cutting a text -/

def isSpace (c : Char) : Bool :=
  c == ' ' || c == '\t' || c == '\n' || c == '\r'

/-- The characters that numbers are made of. -/
def isNumberChar (c : Char) : Bool :=
  c.isDigit || c == '-' || c == '+' || c == '.' || c == 'e' || c == 'E'

def wordOf? (cs : List Char) : Option Json :=
  if cs = ['n', 'u', 'l', 'l'] then some .null
  else if cs = ['t', 'r', 'u', 'e'] then some (.bool true)
  else if cs = ['f', 'a', 'l', 's', 'e'] then some (.bool false)
  else none

def punctuation? : Char → Option Token
  | '[' => some .openArray
  | ']' => some .closeArray
  | '\x7b' => some .openObject
  | '\x7d' => some .closeObject
  | ',' => some .comma
  | ':' => some .colon
  | _ => none

theorem length_dropWhile_le (p : Char → Bool) (cs : List Char) :
    (cs.dropWhile p).length ≤ cs.length :=
  (List.dropWhile_sublist p).length_le

/-- The tokens of a text. A number extends as far as number characters go and a word as far as
    lowercase letters go. -/
def tokens : List Char → List Token
  | [] => []
  | c :: cs =>
    if isSpace c then tokens cs
    else match punctuation? c with
      | some t => t :: tokens cs
      | none =>
        if c = '"' then
          match _h : pieces? cs with
          | some r => .text ((joinPieces? r.1).map String.ofList) :: tokens r.2
          | none => [.bad]
        else if c.isDigit || c == '-' then
          match numeralOf? (c :: cs.takeWhile isNumberChar) with
          | some n => .literal (.number n) :: tokens (cs.dropWhile isNumberChar)
          | none => [.bad]
        else
          match wordOf? (c :: cs.takeWhile Char.isLower) with
          | some j => .literal j :: tokens (cs.dropWhile Char.isLower)
          | none => [.bad]
termination_by cs => cs.length
decreasing_by
  · simp
  · simp
  · have := length_lt_of_pieces? _h; simp only [List.length_cons]; omega
  · have := length_dropWhile_le isNumberChar cs; simp only [List.length_cons]; omega
  · have := length_dropWhile_le Char.isLower cs; simp only [List.length_cons]; omega

end Quarry.Json
