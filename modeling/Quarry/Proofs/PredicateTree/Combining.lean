-- SUMMARY: Combining trees fails only for want of children, and keeps what the children mean.
import Quarry.Proofs.PredicateTree.Joining

/-!
# Combining trees

Children that may be absent are combined as they are joined once all of them are there. Joining fails if
nothing is left after splicing, which is so just if every child is a branch of the same connective that has
no children itself. What is joined evaluates as the branch over the children, and a branch over two copies of
a tree evaluates as the tree: the second copy is evaluated only if the first leaves the outcome open, and
then gives that same outcome again.
-/

namespace Quarry

namespace Evaluator

variable (ev : Evaluator) (r : Record)

/-- A branch over two copies of a tree evaluates as the tree. -/
theorem evaluate_branch_pair (c : Connective) (t : PredicateTree) :
    ev.evaluate r (.branch c [t, t]) = ev.evaluate r t := by
  rw [evaluate_branch_cons, evaluate_branch_singleton]
  cases ev.evaluate r t with
  | error e => rfl
  | ok b => exact ite_self _

end Evaluator

namespace PredicateTree

variable {c : Connective}

/-! ## Failure -/

/-- Only a branch of the connective that has no children contributes nothing. -/
theorem spread_eq_nil_iff {t : PredicateTree} : t.spread c = [] ↔ t = .branch c [] := by
  cases t with
  | leaf p => simp [spread]
  | branch d ts =>
    by_cases h : d = c
    · simp [spread, h]
    · simp [spread, h]

/-- Children cannot be joined just if none of them contributes anything. -/
theorem join_eq_error_iff {ts : List PredicateTree} :
    (∃ e, join c ts = .error e) ↔ ∀ t ∈ ts, t = .branch c [] := by
  have hnil : ts.flatMap (spread c) = [] ↔ ∀ t ∈ ts, t = .branch c [] := by
    simp only [List.flatMap_eq_nil_iff, spread_eq_nil_iff]
  rw [← hnil]
  obtain ⟨hspread, herror⟩ | ⟨t, hspread, hok⟩ | ⟨hlength, hok⟩ := join_cases c ts
  · simp [hspread, herror]
  · simp [hspread, hok]
  · have hne : ts.flatMap (spread c) ≠ [] := List.ne_nil_of_length_pos (by omega)
    simp [hne, hok]

/-! ## Absent children -/

theorem combine_map_some (ts : List PredicateTree) : combine c (ts.map some) = join c ts := rfl

/-- An absent child is an error. -/
theorem combine_of_none_mem {children : List (Option PredicateTree)} (h : none ∈ children) :
    ∃ e, combine c children = .error e := by
  have hfound : (children.findIdx? (·.isNone)).isSome = true :=
    List.findIdx?_isSome.trans (List.any_eq_true.2 ⟨none, h, rfl⟩)
  obtain ⟨index, hindex⟩ := Option.isSome_iff_exists.1 hfound
  exact ⟨.absentChild c index, by rw [combine, hindex]⟩

/-- Some child is absent, or the children are those of a list of trees. -/
theorem none_mem_or_exists_map_some (children : List (Option PredicateTree)) :
    none ∈ children ∨ ∃ ts : List PredicateTree, children = ts.map some := by
  induction children with
  | nil => exact .inr ⟨[], rfl⟩
  | cons child rest ih =>
    cases child with
    | none => exact .inl List.mem_cons_self
    | some t =>
      obtain h | ⟨ts, rfl⟩ := ih
      · exact .inl (List.mem_cons_of_mem _ h)
      · exact .inr ⟨t :: ts, rfl⟩

/-- Only children that are all there can be combined. -/
theorem exists_map_some_of_combine {children : List (Option PredicateTree)} {n : PredicateTree}
    (h : combine c children = .ok n) :
    ∃ ts : List PredicateTree, children = ts.map some ∧ join c ts = .ok n := by
  obtain hnone | ⟨ts, rfl⟩ := none_mem_or_exists_map_some children
  · obtain ⟨e, he⟩ := combine_of_none_mem hnone
    rw [he] at h
    contradiction
  · exact ⟨ts, rfl, h⟩

/-! ## Meaning -/

theorem leavesOf_eq_flatMap (ts : List PredicateTree) : leavesOf ts = ts.flatMap leaves := by
  induction ts with
  | nil => rfl
  | cons t ts ih => rw [leavesOf, ih, List.flatMap_cons]

/-- Combining fails just if a child is absent or every child is a branch of the connective without children.
    Otherwise the combined tree has the leaves of the children, in order, and evaluates as the branch over
    them, errors included. So two copies of a tree, combined, evaluate as the tree. -/
theorem combine_preserves_meaning (c : Connective) (children : List (Option PredicateTree)) :
    ((∃ e, combine c children = .error e) ↔
      none ∈ children ∨ ∀ child ∈ children, child = some (.branch c [])) ∧
    (∀ n, combine c children = .ok n →
      ∃ ts : List PredicateTree, children = ts.map some ∧ n.leaves = ts.flatMap leaves ∧
        ∀ (ev : Evaluator) (r : Record), ev.evaluate r n = ev.evaluate r (.branch c ts)) ∧
    ∀ t n, join c [t, t] = .ok n →
      ∀ (ev : Evaluator) (r : Record), ev.evaluate r n = ev.evaluate r t := by
  refine ⟨?_, fun n h => ?_, fun t n h ev r => ?_⟩
  · obtain hnone | ⟨ts, rfl⟩ := none_mem_or_exists_map_some children
    · exact ⟨fun _ => .inl hnone, fun _ => combine_of_none_mem hnone⟩
    · rw [combine_map_some, join_eq_error_iff]
      simp
  · obtain ⟨ts, rfl, hjoin⟩ := exists_map_some_of_combine h
    refine ⟨ts, rfl, ?_, evaluate_join hjoin⟩
    rw [leaves_join hjoin, leavesOf_eq_flatMap]
  · rw [evaluate_join h, Evaluator.evaluate_branch_pair]

/-- A leaf to build trees from. -/
def initial : PredicateTree :=
  .leaf ⟨"name", .startsWith, .string "J", none, false, none, rfl⟩

/-- A child that is spliced, one that is dropped and one that is kept. -/
def assorted : List PredicateTree :=
  [.branch .or [initial], .branch .or [], .branch .and [initial]]

theorem combine_preserves_meaning_assorted :
    (∃ n, combine .or (assorted.map some) = .ok n ∧ n.leaves = initial.leaves ++ initial.leaves ∧
      ∀ (ev : Evaluator) (r : Record), ev.evaluate r n = ev.evaluate r (.branch .or assorted)) ∧
    (∃ e, combine .or [some (.branch .or []), some (.branch .or [])] = .error e) ∧
    ∃ n, join .or [initial, initial] = .ok n ∧
      ∀ (ev : Evaluator) (r : Record), ev.evaluate r n = ev.evaluate r initial := by
  refine ⟨⟨_, rfl, rfl, ?_⟩, ?_, _, rfl, ?_⟩
  · obtain ⟨-, hmeaning, -⟩ := combine_preserves_meaning .or (assorted.map some)
    obtain ⟨ts, hts, -, hevaluate⟩ := hmeaning _ rfl
    obtain rfl : assorted = ts := (List.map_inj_right fun _ _ => Option.some.inj).1 hts
    exact hevaluate
  · exact (combine_preserves_meaning .or _).1.2 (.inr (by simp))
  · exact (combine_preserves_meaning .or []).2.2 initial _ rfl

end PredicateTree

end Quarry
