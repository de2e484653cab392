-- SUMMARY: Sums of doubles that keep the errors of rounding.

/-!
# Expansions

A double operation loses what does not fit into a double. As long as nothing overflows or underflows
the loss is a double itself, and double operations find it. An expansion is a list of such numbers
that stands for their exact sum.
-/

namespace Quarry

/-- A rounded result and what rounding has taken from it. -/
structure Rounded where
  value : Float
  lost : Float

namespace Rounded

/-! ## Single operations -/

def sum (a b : Float) : Rounded :=
  let value := a + b
  let ofB := value - a
  let ofA := value - ofB
  ⟨value, (a - ofA) + (b - ofB)⟩

def difference (a b : Float) : Rounded :=
  let value := a - b
  let ofB := a - value
  let ofA := value + ofB
  ⟨value, (a - ofA) + (ofB - b)⟩

/-- A number as the sum of two with half the significant bits each, the larger one as the value. It
    is not a number when it is so large that the factor takes it beyond the doubles. -/
def halves (a : Float) : Rounded :=
  let wide := 134217729 * a
  let value := wide - (wide - a)
  ⟨value, a - value⟩

def product (a b : Float) : Rounded :=
  let value := a * b
  let a := halves a
  let b := halves b
  let rest := value - a.value * b.value - a.lost * b.value - a.value * b.lost
  ⟨value, a.lost * b.lost - rest⟩

/-- A sum of two terms less a number: the two larger terms of the result, and the smallest one. -/
def minus (a : Rounded) (b : Float) : Rounded × Float :=
  let low := difference a.lost b
  let high := sum a.value low.value
  (high, low.lost)

end Rounded

/-! ## Expansions -/

/-- Terms of ascending size. The last one that is not zero has the sign of the sum. -/
abbrev Expansion := List Float

namespace Expansion

/-- `a * b - c * d`. -/
def ofProducts (a b c d : Float) : Expansion :=
  let taken := Rounded.product c d
  let (high, first) := (Rounded.product a b).minus taken.lost
  let (high, second) := high.minus taken.value
  [first, second, high.lost, high.value]

/-- The sum as one double. -/
def estimate (e : Expansion) : Float :=
  e.foldl (· + ·) 0

/-- Whether `x` goes before `y` when terms are put in ascending order of size. -/
def goesBefore (x y : Float) : Bool :=
  decide (x < y) == decide (-x < y)

/-- Adds up terms from the smallest: what each addition loses, and the sum of all at the end. Zeros
    are left out. -/
def gather (total : Float) : List Float → Expansion
  | [] => if total == 0 then [] else [total]
  | x :: rest =>
    let s := Rounded.sum total x
    if s.lost == 0 then gather s.value rest else s.lost :: gather s.value rest

def add (e f : Expansion) : Expansion :=
  gather 0 (e.merge f goesBefore)

/-- The largest term, zero if there is none. -/
def leading (e : Expansion) : Float :=
  e.getLastD 0

end Expansion

end Quarry
