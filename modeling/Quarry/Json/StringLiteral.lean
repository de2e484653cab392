-- SUMMARY: JSON string literals: reading their escapes, and writing a text as a literal.

/-!
# String literals

A literal is read in two steps: the characters between its quotes become pieces, each a character
or an escaped UTF-16 unit, and the pieces are then joined to a text, which fails where a half of a
surrogate pair stands alone. Writing escapes quotes, backslashes and control characters only.
-/

namespace Quarry.Json

/-! ## Reading -/

/-- A part of a string literal. -/
inductive Piece where
  | char (c : Char)
  | unit (code : Nat)

def hexValue? (c : Char) : Option Nat :=
  if '0' ≤ c ∧ c ≤ '9' then some (c.toNat - '0'.toNat)
  else if 'a' ≤ c ∧ c ≤ 'f' then some (c.toNat - 'a'.toNat + 10)
  else if 'A' ≤ c ∧ c ≤ 'F' then some (c.toNat - 'A'.toNat + 10)
  else none

/-- The UTF-16 unit with the given four hexadecimal digits. -/
def unitOf? (a b c d : Char) : Option Nat := do
  return (((← hexValue? a) * 16 + (← hexValue? b)) * 16 + (← hexValue? c)) * 16 + (← hexValue? d)

/-- The character that a letter stands for after a backslash. -/
def escaped? : Char → Option Char
  | '"' => some '"'
  | '\\' => some '\\'
  | '/' => some '/'
  | 'b' => some '\x08'
  | 'f' => some '\x0c'
  | 'n' => some '\n'
  | 'r' => some '\r'
  | 't' => some '\t'
  | _ => none

/-- The pieces up to the closing quote and the text after it, or nothing if the literal does not
    end, holds a control character or an escape that does not exist. -/
def pieces? : List Char → Option (List Piece × List Char)
  | [] => none
  | '"' :: rest => some ([], rest)
  | '\\' :: 'u' :: a :: b :: c :: d :: rest =>
    match unitOf? a b c d with
    | some code => (pieces? rest).map fun r => (.unit code :: r.1, r.2)
    | none => none
  | '\\' :: e :: rest =>
    match escaped? e with
    | some c => (pieces? rest).map fun r => (.char c :: r.1, r.2)
    | none => none
  | c :: rest =>
    if c < ' ' then none else (pieces? rest).map fun r => (.char c :: r.1, r.2)

def isHighSurrogate (code : Nat) : Bool :=
  0xd800 ≤ code && code < 0xdc00

def isLowSurrogate (code : Nat) : Bool :=
  0xdc00 ≤ code && code < 0xe000

/-- The characters that the pieces denote. -/
def joinPieces? : List Piece → Option (List Char)
  | [] => some []
  | .char c :: rest => (joinPieces? rest).map (c :: ·)
  | .unit high :: .unit low :: rest =>
    if isHighSurrogate high then
      if isLowSurrogate low then
        (joinPieces? rest).map
          (Char.ofNat (0x10000 + (high - 0xd800) * 0x400 + (low - 0xdc00)) :: ·)
      else none
    else if isLowSurrogate high then none
    else (joinPieces? (.unit low :: rest)).map (Char.ofNat high :: ·)
  | .unit code :: rest =>
    if isHighSurrogate code || isLowSurrogate code then none
    else (joinPieces? rest).map (Char.ofNat code :: ·)

/-- What follows a literal is shorter than what its opening quote precedes. -/
theorem length_lt_of_pieces? {cs : List Char} {r : List Piece × List Char}
    (h : pieces? cs = some r) : r.2.length < cs.length := by
  fun_induction pieces? cs generalizing r with
  | case1 => simp at h
  | case2 => cases h; simp
  | case3 a b c d rest code _ ih =>
    obtain ⟨r', h', rfl⟩ := Option.map_eq_some_iff.1 h
    have := ih h'
    simp only [List.length_cons]; omega
  | case4 => simp at h
  | case5 e rest _ c _ ih =>
    obtain ⟨r', h', rfl⟩ := Option.map_eq_some_iff.1 h
    have := ih h'
    simp only [List.length_cons]; omega
  | case6 => simp at h
  | case7 => simp at h
  | case8 c rest _ _ _ _ ih =>
    obtain ⟨r', h', rfl⟩ := Option.map_eq_some_iff.1 h
    have := ih h'
    simp only [List.length_cons]; omega

/-! ## Writing -/

def hexDigit (n : Nat) : Char :=
  if n < 10 then Char.ofNat ('0'.toNat + n) else Char.ofNat ('a'.toNat + (n - 10))

/-- One character inside a literal. -/
def escapeChar (c : Char) : List Char :=
  match c with
  | '"' => ['\\', '"']
  | '\\' => ['\\', '\\']
  | '\x08' => ['\\', 'b']
  | '\t' => ['\\', 't']
  | '\n' => ['\\', 'n']
  | '\x0c' => ['\\', 'f']
  | '\r' => ['\\', 'r']
  | c => if c < ' ' then ['\\', 'u', '0', '0', hexDigit (c.toNat / 16), hexDigit (c.toNat % 16)]
    else [c]

/-- The literal of a text, quotes included. -/
def literalChars (s : String) : List Char :=
  '"' :: s.toList.flatMap escapeChar ++ ['"']

end Quarry.Json
