-- SUMMARY: Conjunctions and disjunctions of predicates.
import Quarry.Predicate.Basic

/-!
# Predicate trees

A tree may be put together by hand, in which case nothing is checked, or by `PredicateTree.combine`,
which keeps it in a normal form: every branch has two children at least, and none of its own
connective.
-/

namespace Quarry

inductive Connective where
  | and
  | or
  deriving DecidableEq

def Connective.name : Connective → String
  | .and => "AND"
  | .or => "OR"

inductive PredicateTree where
  | leaf (p : Predicate)
  | branch (connective : Connective) (children : List PredicateTree)

/-- Induction over trees, with the claim for every child of a branch. -/
@[elab_as_elim]
theorem PredicateTree.induction {motive : PredicateTree → Prop} (leaf : ∀ p, motive (.leaf p))
    (branch : ∀ c ts, (∀ t ∈ ts, motive t) → motive (.branch c ts)) : ∀ t, motive t
  | .leaf p => leaf p
  | .branch c ts => branch c ts fun t _ => t.induction leaf branch

/-- Why children cannot be put together, or a tree cannot be used. -/
inductive TreeError where
  | absentChild (connective : Connective) (index : Nat)
  | noChildren (connective : Connective)
  | fewChildren (connective : Connective) (count : Nat)
  deriving DecidableEq

def TreeError.reason : TreeError → String
  | .absentChild c index => c.name ++ " child " ++ (Numeral.ofInt index).text ++ " is absent"
  | .noChildren c => c.name ++ " needs at least one child"
  | .fewChildren c count =>
    c.name ++ " needs at least two children, got " ++ (Numeral.ofInt count).text

def TreeError.message (e : TreeError) : String :=
  "invalid predicate tree: " ++ e.reason

namespace PredicateTree

/-! ## Parts -/

def leaf? : PredicateTree → Option Predicate
  | .leaf p => some p
  | .branch _ _ => none

def connective? : PredicateTree → Option Connective
  | .leaf _ => none
  | .branch c _ => some c

def children : PredicateTree → List PredicateTree
  | .leaf _ => []
  | .branch _ ts => ts

mutual

/-- The predicates of a tree from left to right. -/
def leaves : PredicateTree → List Predicate
  | .leaf p => [p]
  | .branch _ ts => leavesOf ts

def leavesOf : List PredicateTree → List Predicate
  | [] => []
  | t :: rest => t.leaves ++ leavesOf rest

end

/-! ## Construction -/

/-- The children that a tree contributes to a branch: its own if it has the same connective, and
    otherwise the tree itself. -/
def spread (c : Connective) (t : PredicateTree) : List PredicateTree :=
  match t with
  | .branch d ts => if d = c then ts else [t]
  | .leaf _ => [t]

/-- The tree that joins the children, which may be absent. A single child stands for itself. -/
def combine (c : Connective) (children : List (Option PredicateTree)) :
    Except TreeError PredicateTree :=
  match children.findIdx? (·.isNone) with
  | some index => .error (.absentChild c index)
  | none =>
    match (children.filterMap id).flatMap (spread c) with
    | [] => .error (.noChildren c)
    | [t] => .ok t
    | ts => .ok (.branch c ts)

/-- The tree that joins the children. -/
def join (c : Connective) (children : List PredicateTree) : Except TreeError PredicateTree :=
  combine c (children.map some)

def and : List PredicateTree → Except TreeError PredicateTree := join .and
def or : List PredicateTree → Except TreeError PredicateTree := join .or

/-! ## Validation -/

mutual

/-- The first branch, from the root down and from left to right, with fewer than two children. -/
def fault? : PredicateTree → Option TreeError
  | .leaf _ => none
  | .branch c ts => if ts.length < 2 then some (.fewChildren c ts.length) else faultAmong? ts

def faultAmong? : List PredicateTree → Option TreeError
  | [] => none
  | t :: rest => t.fault? <|> faultAmong? rest

end

/-! ## Equality and display -/

mutual

/-- Equality of shape and predicates. -/
def equals : PredicateTree → PredicateTree → Bool
  | .leaf p, .leaf q => p.equals q
  | .branch c ts, .branch d us => c == d && equalLists ts us
  | _, _ => false

def equalLists : List PredicateTree → List PredicateTree → Bool
  | [], [] => true
  | t :: ts, u :: us => t.equals u && equalLists ts us
  | _, _ => false

end

mutual

/-- The tree as shown to a reader, branches in parentheses. -/
def display : PredicateTree → String
  | .leaf p => p.display
  | .branch c ts => "(" ++ displayList c ts ++ ")"

def displayList (c : Connective) : List PredicateTree → String
  | [] => ""
  | [t] => t.display
  | t :: rest => t.display ++ " " ++ c.name ++ " " ++ displayList c rest

end

end PredicateTree

end Quarry
