-- SUMMARY: Taking a JSON document apart by expected type.
import Quarry.Json.Basic
import Quarry.Number.FloatText

/-!
# Typed access

Each function accepts a document of one shape. A structure may be written as an object, members in
any order and unknown ones ignored, or as an array of its fields in order. The number that bounds
nesting is how many further arrays and objects may be opened.
-/

namespace Quarry.Json

/-- How many arrays and objects may be open at once. -/
def nestingLimit : Nat := 127

/-! ## Scalars -/

def string? : Json → Option String
  | .string s => s
  | _ => none

def bool? : Json → Option Bool
  | .bool b => some b
  | _ => none

/-- A number written without fraction and exponent. -/
def int? : Json → Option Int
  | .number n => n.toInt?
  | _ => none

def int64? (j : Json) : Option Int64 := do
  let n ← j.int?
  if -(2 ^ 63) ≤ n ∧ n < 2 ^ 63 then some (Int64.ofInt n) else none

def uint32? (j : Json) : Option UInt32 := do
  let n ← j.int?
  if 0 ≤ n ∧ n < 2 ^ 32 then some (UInt32.ofNat n.toNat) else none

def uint64? (j : Json) : Option UInt64 := do
  let n ← j.int?
  if 0 ≤ n ∧ n < 2 ^ 64 then some (UInt64.ofNat n.toNat) else none

/-- Any number that does not exceed the doubles. -/
def float? : Json → Option Binary64
  | .number n => if n.toBinary64.isFinite then some n.toBinary64 else none
  | _ => none

/-- Null for an absent value, and otherwise what `read?` accepts. -/
def optional? {α : Type} (read? : Json → Option α) : Json → Option (Option α)
  | .null => some none
  | j => (read? j).map some

/-- A finite double as a number, and null for the others. -/
def ofFloat (x : Binary64) : Json :=
  if x.isFinite then .number (FloatStyle.document.numeral x) else .null

/-! ## Arrays -/

/-- The items of an array. -/
def items? (depth : Nat) (j : Json) : Option (List Json) :=
  match depth, j with
  | _ + 1, .array items => some items
  | _, _ => none

/-! ## Structures -/

/-- The place of a known field among the fields seen so far gets its value. A known field may not
    be repeated, and an unknown one has to be JSON. -/
def placeMembers? (names : List String) :
    List (Option String × Json) → List (Option Json) → Option (List (Option Json))
  | [], seen => some seen
  | (key, j) :: rest, seen => do
    let i := names.idxOf (← key)
    match seen[i]? with
    | some none => placeMembers? names rest (seen.set i (some j))
    | some (some _) => none
    | none => if j.intact then placeMembers? names rest seen else none

/-- The fields of a structure in the order of `names`, absent ones as `none`. -/
def fields? (depth : Nat) (names : List String) (j : Json) : Option (List (Option Json)) :=
  match depth, j with
  | _ + 1, .object members => placeMembers? names members (names.map fun _ => none)
  | _ + 1, .array items =>
    if items.length ≤ names.length then
      some (items.map some ++ List.replicate (names.length - items.length) none)
    else none
  | _, _ => none

/-- A field that must be there. -/
def required? {α : Type} (read? : Json → Option α) : Option Json → Option α
  | some j => read? j
  | none => none

/-- A field that takes a default when it is absent. -/
def defaulted? {α : Type} (default : α) (read? : Json → Option α) : Option Json → Option α
  | some j => read? j
  | none => some default

/-! ## Names -/

/-- One of finitely many names, written as a string or as an object whose one member is null. -/
def name? (depth : Nat) (j : Json) : Option String :=
  match depth, j with
  | _, .string s => s
  | _ + 1, .object [(some s, .null)] => some s
  | _, _ => none

end Quarry.Json
