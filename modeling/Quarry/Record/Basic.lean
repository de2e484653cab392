-- SUMMARY: Records and the paths that lead into them.
import Quarry.Predicate.Basic
import Quarry.SortedMap

/-!
# Records

A record has a key, named bins, a counter of its writes and perhaps a time at which it expires. A
field of a record is given by a path: the name of a bin, or the name of a bin and steps into its
value, joined by dots.
-/

namespace Quarry

structure Record where
  key : String
  bins : SortedMap String Value
  generation : UInt32
  expiration : Option Int64

/-! ## Paths -/

namespace Path

/-- The parts of a text between its dots. There is one at least. -/
def segments : List Char → List (List Char)
  | [] => [[]]
  | c :: rest =>
    if c = '.' then [] :: segments rest
    else
      match segments rest with
      | s :: ss => (c :: s) :: ss
      | [] => [[c]]

/-- The position in a list that a segment names: decimal digits, zeros in front allowed, a plus sign
    allowed before them, below `2 ^ 64`. -/
def index? (segment : List Char) : Option Nat :=
  let digits := match segment with
    | '+' :: rest => rest
    | cs => cs
  if !digits.isEmpty && digits.all Char.isDigit then
    let n := Nat.ofDigitChars 10 digits 0
    if n < 2 ^ 64 then some n else none
  else none

/-- One step into a value: to the entry of a map with a text as its key, or to an item of a list. -/
def step? (segment : List Char) (v : Value) : Option Value :=
  match v with
  | .map _ => v.get? (String.ofList segment)
  | .list items => do items[← index? segment]?
  | _ => none

/-- Several steps into a value. -/
def walk? : List (List Char) → Value → Option Value
  | [], v => some v
  | s :: rest, v => do walk? rest (← step? s v)

end Path

namespace Record

def bin? (r : Record) (name : String) : Option Value :=
  r.bins.get? name

/-- The value at a path. A bin whose name is the whole path comes before a path into a bin. -/
def atPath? (r : Record) (path : String) : Option Value :=
  match r.bin? path with
  | some v => some v
  | none =>
    match Path.segments path.toList with
    | name :: steps => do Path.walk? steps (← r.bin? (String.ofList name))
    | [] => none

/-- The value of a field, which may be a metadata field. -/
def resolve? (r : Record) (field : String) : Option Value :=
  if field = generationField then some (.int (Int64.ofInt r.generation.toNat))
  else if field = expirationField then r.expiration.map .int
  else r.atPath? field

end Record

end Quarry
