-- SUMMARY: The text of a JSON document, without spaces.
import Quarry.Json.Basic
import Quarry.Json.StringLiteral

/-!
# Writing JSON

Members are written in their order and nothing is written between tokens.
-/

namespace Quarry.Json

mutual

/-- The characters of a document. -/
def chars : Json → List Char
  | .null | .broken => ['n', 'u', 'l', 'l']
  | .bool true => ['t', 'r', 'u', 'e']
  | .bool false => ['f', 'a', 'l', 's', 'e']
  | .number n => n.chars
  | .string s => literalChars (s.getD "")
  | .array items => '[' :: itemsChars items ++ [']']
  | .object members => '\x7b' :: membersChars members ++ ['\x7d']

def itemsChars : List Json → List Char
  | [] => []
  | [j] => j.chars
  | j :: rest => j.chars ++ ',' :: itemsChars rest

def membersChars : List (Option String × Json) → List Char
  | [] => []
  | [(key, j)] => literalChars (key.getD "") ++ ':' :: j.chars
  | (key, j) :: rest => literalChars (key.getD "") ++ ':' :: j.chars ++ ',' :: membersChars rest

end

/-- The text of a document. -/
def render (j : Json) : String :=
  String.ofList j.chars

end Quarry.Json
