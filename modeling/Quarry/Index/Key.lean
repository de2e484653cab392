-- SUMMARY: Index keys, their order, and ranges of them.
import Quarry.Index.Basic

/-!
# Index keys

Integers and doubles are ordered on one axis. A double that denotes a 64-bit integer has the key of
that integer, so equal numbers share a key. The other doubles are compared with integers as doubles.
-/

namespace Quarry

/-! ## Numbers -/

inductive NumberKey where
  | integer (n : Int64)
  | float (x : Binary64)
  deriving DecidableEq

namespace NumberKey

/-- The key of a double. -/
def ofFloat (x : Binary64) : NumberKey :=
  match x.toInt? with
  | some n => if -(2 ^ 63) ≤ n ∧ n < 2 ^ 63 then .integer (Int64.ofInt n) else .float x
  | none => .float x

/-- Integers come before doubles when the two tie as doubles. -/
def order : NumberKey → NumberKey → Ordering
  | .integer m, .integer n => compare m.toInt n.toInt
  | .float x, .float y => x.totalCompare y
  | .integer m, .float y => ((Binary64.ofInt64 m).totalCompare y).then .lt
  | .float x, .integer n => (x.totalCompare (.ofInt64 n)).then .gt

instance : Ord NumberKey := ⟨order⟩

/-- The key as a double. -/
def toBinary64 : NumberKey → Binary64
  | .integer n => .ofInt64 n
  | .float x => x

/-- The place of a key among those with the same double: integers in their order, then the double. -/
def tie : NumberKey → Int
  | .integer n => n.toInt
  | .float _ => 2 ^ 63

/-- Comparing the images under a monotone map first makes no difference. -/
theorem compare_eq_then_of_monotone {f : Int → Int} (hf : ∀ {m n : Int}, m ≤ n → f m ≤ f n)
    (m n : Int) : compare m n = (compare (f m) (f n)).then (compare m n) := by
  rcases Int.lt_trichotomy m n with h | rfl | h
  · rw [Int.compare_eq_lt.2 h]
    rcases Int.lt_or_eq_of_le (hf (Int.le_of_lt h)) with hlt | heq
    · rw [Int.compare_eq_lt.2 hlt, Ordering.lt_then]
    · rw [Int.compare_eq_eq.2 heq, Ordering.eq_then]
  · rw [Int.compare_eq_eq.2 rfl, Int.compare_eq_eq.2 rfl, Ordering.eq_then]
  · rw [Int.compare_eq_gt.2 h]
    rcases Int.lt_or_eq_of_le (hf (Int.le_of_lt h)) with hlt | heq
    · rw [Int.compare_eq_gt.2 hlt, Ordering.gt_then]
    · rw [Int.compare_eq_eq.2 heq.symm, Ordering.eq_then]

theorem compareLex_on {α : Type} (f g : α → Int) (a b : α) :
    compareLex (compareOn f) (compareOn g) a b
      = (compare (f a) (f b)).then (compare (g a) (g b)) := rfl

/-- The order is that of the doubles, and then of the places among those with one double. -/
theorem order_eq_lex (a b : NumberKey) :
    order a b = compareLex (compareOn (·.toBinary64.rank)) (compareOn tie) a b := by
  rw [compareLex_on]
  cases a with
  | integer m =>
    cases b with
    | integer n =>
      exact compare_eq_then_of_monotone (f := fun k => (Binary64.ofInt k).rank)
        Binary64.rank_ofInt_mono m.toInt n.toInt
    | float y =>
      have hlt : compare (tie (.integer m)) (tie (.float y)) = .lt :=
        Int.compare_eq_lt.2 m.toInt_lt
      rw [hlt]
      rfl
  | float x =>
    cases b with
    | integer n =>
      have hgt : compare (tie (.float x)) (tie (.integer n)) = .gt :=
        Int.compare_eq_gt.2 n.toInt_lt
      rw [hgt]
      rfl
    | float y =>
      have heq : compare (tie (.float x)) (tie (.float y)) = .eq := Int.compare_eq_eq.2 rfl
      rw [heq, Ordering.then_eq]
      rfl

instance : Std.TransOrd NumberKey := by
  have h : (compare : NumberKey → NumberKey → Ordering)
      = compareLex (compareOn (·.toBinary64.rank)) (compareOn tie) :=
    funext fun a => funext fun b => order_eq_lex a b
  unfold Std.TransOrd
  rw [h]
  infer_instance

instance : Std.LawfulEqOrd NumberKey where
  eq_of_compare {a b} h := match a, b with
    | .integer m, .integer n => by rw [Int64.toInt_inj.1 (Int.compare_eq_eq.1 h)]
    | .float x, .float y => by rw [Binary64.rank_injective (Int.compare_eq_eq.1 h)]
    | .integer m, .float y => by
      have hne := (Ordering.then_eq_eq.1 h).2
      contradiction
    | .float x, .integer n => by
      have hne := (Ordering.then_eq_eq.1 h).2
      contradiction

end NumberKey

/-! ## Keys -/

inductive IndexKey where
  | number (k : NumberKey)
  | string (s : String)
  deriving DecidableEq

namespace IndexKey

/-- The key of a value in an index of the given type, if the value is of that type. -/
def ofValue? : IndexType → Value → Option IndexKey
  | .numeric, .int n => some (.number (.integer n))
  | .numeric, .float x => some (.number (.ofFloat x))
  | .string, .string s => some (.string s)
  | _, _ => none

/-- Numbers come before strings. -/
def order : IndexKey → IndexKey → Ordering
  | .number a, .number b => compare a b
  | .number _, .string _ => .lt
  | .string _, .number _ => .gt
  | .string a, .string b => compare a b

instance : Ord IndexKey := ⟨order⟩

instance : Std.TransOrd IndexKey where
  eq_swap {a b} := match a, b with
    | .number a, .number b => @Std.OrientedCmp.eq_swap NumberKey compare _ a b
    | .string a, .string b => @Std.OrientedCmp.eq_swap String compare _ a b
    | .number _, .string _ => rfl
    | .string _, .number _ => rfl
  isLE_trans {a b c} := match a, b, c with
    | .number a, .number b, .number c => @Std.TransCmp.isLE_trans NumberKey compare _ a b c
    | .string a, .string b, .string c => @Std.TransCmp.isLE_trans String compare _ a b c
    | .number _, _, .string _ => fun _ _ => rfl
    | .string _, .number _, _ => fun h => absurd h Bool.false_ne_true
    | _, .string _, .number _ => fun _ h => absurd h Bool.false_ne_true

instance : Std.LawfulEqOrd IndexKey where
  compare_self {a} := match a with
    | .number a => @Std.ReflCmp.compare_self NumberKey compare _ a
    | .string a => @Std.ReflCmp.compare_self String compare _ a
  eq_of_compare {a b} h := match a, b with
    | .number a, .number b => by rw [@Std.LawfulEqCmp.eq_of_compare NumberKey compare _ a b h]
    | .string a, .string b => by rw [@Std.LawfulEqCmp.eq_of_compare String compare _ a b h]
    | .number _, .string _ => nomatch h
    | .string _, .number _ => nomatch h

end IndexKey

/-! ## Ranges -/

/-- One end of a range of keys. -/
inductive Bound where
  | unbounded
  | included (k : IndexKey)
  | excluded (k : IndexKey)

/-- The keys from a lower to an upper bound. -/
structure KeyRange where
  lower : Bound
  upper : Bound

namespace KeyRange

/-- Whether the bounds leave no room between them. -/
def isEmpty (r : KeyRange) : Bool :=
  match r.lower, r.upper with
  | .included l, .included u => compare l u == .gt
  | .included l, .excluded u | .excluded l, .included u | .excluded l, .excluded u =>
    (compare l u).isGE
  | _, _ => false

def contains (r : KeyRange) (k : IndexKey) : Bool :=
  (match r.lower with
    | .unbounded => true
    | .included l => (compare l k).isLE
    | .excluded l => compare l k == .lt)
    && match r.upper with
      | .unbounded => true
      | .included u => (compare k u).isLE
      | .excluded u => compare k u == .lt

/-- Bounds that an ordered map can search between. It refuses inverted bounds, and bounds that both
    exclude one key. -/
def Searchable (r : KeyRange) : Prop :=
  match r.lower, r.upper with
  | .included l, .included u | .included l, .excluded u | .excluded l, .included u =>
    compare l u ≠ .gt
  | .excluded l, .excluded u => compare l u = .lt
  | _, _ => True

theorem searchable_of_not_isEmpty {r : KeyRange} (hempty : ¬ r.isEmpty = true) : r.Searchable := by
  have h : r.isEmpty = false := eq_false_of_ne_true hempty
  obtain ⟨lower, upper⟩ := r
  have hlt {o : Ordering} (ho : o.isGE = false) : o = .lt := by
    cases o with
    | lt => rfl
    | _ => contradiction
  have hne {o : Ordering} (ho : o.isGE = false) : o ≠ .gt := by
    rw [hlt ho]
    decide
  cases lower with
  | unbounded => trivial
  | included l =>
    cases upper with
    | unbounded => trivial
    | included u => exact ne_of_beq_false h
    | excluded u => exact hne h
  | excluded l =>
    cases upper with
    | unbounded => trivial
    | included u => exact hne h
    | excluded u => exact hlt h

end KeyRange

end Quarry
