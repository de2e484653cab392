-- SUMMARY: Predicate trees as documents.
import Quarry.Json.Printer
import Quarry.Json.Reader
import Quarry.Predicate.Encoding
import Quarry.PredicateTree.Basic

/-!
# Encoding of predicate trees

Reading validates every predicate where it ends and normalises every branch where it ends, so the
first fault in the order of the text is the one that is reported.
-/

namespace Quarry

/-- Why a text does not encode what was expected. -/
inductive DecodeError where
  | malformed
  | predicate (e : PredicateError)
  | tree (e : TreeError)
  deriving DecidableEq

/-- What the library has to say about the fault, if it is one of its own. -/
def DecodeError.message? : DecodeError → Option String
  | .malformed => none
  | .predicate e => some e.message
  | .tree e => some e.message

/-- A document that is either taken or malformed. -/
def orMalformed {α : Type} : Option α → Except DecodeError α
  | some a => .ok a
  | none => .error .malformed

/-- The predicate that a document encodes. -/
def Predicate.ofJson (depth : Nat) (j : Json) : Except DecodeError Predicate := do
  let c ← orMalformed (Condition.ofJson? depth j)
  c.build.mapError .predicate

namespace PredicateTree

def tag : Connective → String
  | .and => "and"
  | .or => "or"

def connectiveOf? (tag : String) : Option Connective :=
  if tag = "and" then some .and else if tag = "or" then some .or else none

mutual

/-- The document of a tree. -/
def toJson : PredicateTree → Json
  | .leaf p => .tagged "leaf" p.toJson
  | .branch c ts => .tagged (tag c) (.array (listToJson ts))

def listToJson : List PredicateTree → List Json
  | [] => []
  | t :: rest => t.toJson :: listToJson rest

end

/-- The tree that a document encodes, if it opens at most `depth` arrays and objects at once. -/
def ofJson : Nat → Json → Except DecodeError PredicateTree
  | depth + 1, .object ((some tag, body) :: rest) =>
    if tag = "leaf" then do
      let p ← Predicate.ofJson depth body
      if rest.isEmpty then return .leaf p else throw .malformed
    else
      match connectiveOf? tag, depth, body with
      | some c, depth + 1, .array items => do
        let ts ← items.mapM (ofJson depth)
        if rest.isEmpty then (join c ts).mapError .tree else throw .malformed
      | _, _, _ => throw .malformed
  | _, _ => throw .malformed

end PredicateTree

/-! ## Texts -/

/-- What a text encodes, if nothing follows it. -/
def decodeText {α : Type} (decode : Json → Except DecodeError α) (text : String) :
    Except DecodeError α := do
  let r := Json.read text
  let a ← decode r.value
  if r.complete then return a else throw .malformed

end Quarry
