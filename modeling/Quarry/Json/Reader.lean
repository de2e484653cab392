-- SUMMARY: The document that a JSON text holds.
import Quarry.Json.Token

/-!
# Reading JSON

Recursive descent over tokens. Each function gives what it read and the tokens after it, or no
tokens if what it read ends with a fault.
-/

namespace Quarry.Json

mutual

/-- One value. -/
def readValue : Nat → List Token → Json × Option (List Token)
  | _ + 1, .literal j :: rest => (j, some rest)
  | _ + 1, .text s :: rest => (.string s, some rest)
  | _ + 1, .openArray :: .closeArray :: rest => (.array [], some rest)
  | fuel + 1, .openArray :: rest =>
    let r := readItems fuel rest
    (.array r.1, r.2)
  | _ + 1, .openObject :: .closeObject :: rest => (.object [], some rest)
  | fuel + 1, .openObject :: rest =>
    let r := readMembers fuel rest
    (.object r.1, r.2)
  | _, _ => (.broken, none)

/-- One or more items of an array and its closing bracket. -/
def readItems : Nat → List Token → List Json × Option (List Token)
  | 0, _ => ([.broken], none)
  | fuel + 1, ts =>
    match readValue fuel ts with
    | (j, some (.comma :: rest)) =>
      let r := readItems fuel rest
      (j :: r.1, r.2)
    | (j, some (.closeArray :: rest)) => ([j], some rest)
    | (j, some _) => ([j, .broken], none)
    | (j, none) => ([j], none)

/-- One or more members of an object and its closing brace. -/
def readMembers : Nat → List Token → List (Option String × Json) × Option (List Token)
  | fuel + 1, .text key :: .colon :: ts =>
    match readValue fuel ts with
    | (j, some (.comma :: rest)) =>
      let r := readMembers fuel rest
      ((key, j) :: r.1, r.2)
    | (j, some (.closeObject :: rest)) => ([(key, j)], some rest)
    | (j, some _) => ([(key, j), (none, .broken)], none)
    | (j, none) => ([(key, j)], none)
  | _, .text key :: _ => ([(key, .broken)], none)
  | _, _ => ([(none, .broken)], none)

end

/-- What a text holds: a value, and whether the text ends with it. -/
structure Reading where
  value : Json
  complete : Bool

/-- The value at the start of a text. -/
def read (text : String) : Reading :=
  let ts := tokens text.toList
  match readValue (2 * ts.length + 2) ts with
  | (j, some []) => ⟨j, true⟩
  | (j, _) => ⟨j, false⟩

end Quarry.Json
