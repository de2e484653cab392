-- SUMMARY: JSON documents, with a mark where a text stops being one.
import Quarry.Number.Numeral

/-!
# JSON documents

Reading never fails as a whole. A text that stops being JSON at some place is read up to there, and
`Json.broken` stands in its tree where the fault is, so that whoever takes the tree apart from left
to right meets faults in the order of the text.

String literals may escape halves of surrogate pairs that pair with nothing. Such a literal is good
JSON but denotes no text; it is read as `none`.
-/

namespace Quarry

inductive Json where
  | null
  | bool (b : Bool)
  | number (n : Numeral)
  | string (text : Option String)
  | array (items : List Json)
  | object (members : List (Option String × Json))
  /-- What stands here, or should stand here, is not JSON. -/
  | broken

namespace Json

/-! ## Construction -/

def ofString (s : String) : Json :=
  .string (some s)

def ofInt (n : Int) : Json :=
  .number (.ofInt n)

/-- An object with the given members in order. -/
def ofMembers (members : List (String × Json)) : Json :=
  .object (members.map fun m => (some m.1, m.2))

/-- An object with one member. -/
def tagged (tag : String) (content : Json) : Json :=
  .object [(some tag, content)]

/-! ## Soundness of a tree -/

mutual

/-- Whether the tree is JSON throughout. -/
def intact : Json → Bool
  | .broken => false
  | .array items => intactItems items
  | .object members => intactMembers members
  | _ => true

def intactItems : List Json → Bool
  | [] => true
  | j :: rest => j.intact && intactItems rest

def intactMembers : List (Option String × Json) → Bool
  | [] => true
  | (_, j) :: rest => j.intact && intactMembers rest

end

end Json

end Quarry
