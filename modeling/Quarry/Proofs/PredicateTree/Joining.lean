-- SUMMARY: Joining trees keeps their leaves and what they mean, and a rebuilt tree is in normal form.
import Quarry.Proofs.Evaluation.Branches

/-!
# Joining trees

A branch is evaluated child by child until one of them decides. Nothing changes, then, when a child of the
same connective gives way to its own children, and a branch with a single child is that child. This is all
that joining does, so a joined tree evaluates as the branch over the same children would, errors included.

Rebuilding a tree joins every branch, the innermost first. A child that is in normal form contributes one
child to a branch, or two at least if it has the connective of the branch, and none of those it contributes
has that connective. So nothing is left to splice afterwards, and only a branch without children fails.
-/

namespace Quarry

/-- The outcome of a child with which the evaluation of a branch ends. -/
def Connective.decisive : Connective → Bool
  | .and => false
  | .or => true

/-! ## Evaluation -/

namespace Evaluator

variable (ev : Evaluator) (r : Record) (c : Connective)

theorem evaluate_branch_nil : ev.evaluate r (.branch c []) = .ok !c.decisive := by
  cases c <;> rfl

theorem evaluate_branch_cons (t : PredicateTree) (ts : List PredicateTree) :
    ev.evaluate r (.branch c (t :: ts)) = (do
      let b ← ev.evaluate r t
      if b = c.decisive then return b else ev.evaluate r (.branch c ts)) := by
  cases c with
  | and =>
    rw [evaluate, evaluateAll, evaluate]
    cases ev.evaluate r t with
    | error e => rfl
    | ok b => cases b <;> rfl
  | or =>
    rw [evaluate, evaluateAny, evaluate]
    cases ev.evaluate r t with
    | error e => rfl
    | ok b => cases b <;> rfl

theorem evaluate_branch_singleton (t : PredicateTree) :
    ev.evaluate r (.branch c [t]) = ev.evaluate r t := by
  rw [evaluate_branch_cons, evaluate_branch_nil]
  cases ev.evaluate r t with
  | error e => rfl
  | ok b => cases b <;> cases c <;> rfl

theorem evaluate_branch_append (us vs : List PredicateTree) :
    ev.evaluate r (.branch c (us ++ vs)) = (do
      let b ← ev.evaluate r (.branch c us)
      if b = c.decisive then return b else ev.evaluate r (.branch c vs)) := by
  induction us with
  | nil =>
    rw [evaluate_branch_nil]
    cases c <;> rfl
  | cons u us ih =>
    rw [List.cons_append, evaluate_branch_cons, evaluate_branch_cons, ih]
    cases ev.evaluate r u with
    | error e => rfl
    | ok b =>
      by_cases h : b = c.decisive
      · simp [bind, Except.bind, pure, Except.pure, h]
      · simp [bind, Except.bind, h]

theorem evaluate_branch_spread (t : PredicateTree) :
    ev.evaluate r (.branch c (t.spread c)) = ev.evaluate r t := by
  cases t with
  | leaf p => exact evaluate_branch_singleton ev r c (.leaf p)
  | branch d ts =>
    by_cases h : d = c
    · rw [PredicateTree.spread, if_pos h, h]
    · rw [PredicateTree.spread, if_neg h]
      exact evaluate_branch_singleton ev r c (.branch d ts)

/-- Splicing the children of the same connective does not change what a branch evaluates to. -/
theorem evaluate_branch_flatMap_spread (ts : List PredicateTree) :
    ev.evaluate r (.branch c (ts.flatMap (PredicateTree.spread c))) = ev.evaluate r (.branch c ts) := by
  induction ts with
  | nil => rfl
  | cons t ts ih =>
    rw [List.flatMap_cons, evaluate_branch_append, evaluate_branch_spread, ih, evaluate_branch_cons]

end Evaluator

namespace PredicateTree

/-! ## Leaves -/

theorem leavesOf_append (us vs : List PredicateTree) :
    leavesOf (us ++ vs) = leavesOf us ++ leavesOf vs := by
  induction us with
  | nil => rfl
  | cons u us ih => simp [leavesOf, ih]

theorem leavesOf_singleton (t : PredicateTree) : leavesOf [t] = t.leaves := by
  simp [leavesOf]

theorem leavesOf_spread (c : Connective) (t : PredicateTree) : leavesOf (t.spread c) = t.leaves := by
  cases t with
  | leaf p => rfl
  | branch d ts =>
    by_cases h : d = c
    · rw [spread, if_pos h, leaves]
    · rw [spread, if_neg h, leavesOf_singleton]

theorem leavesOf_flatMap_spread (c : Connective) (ts : List PredicateTree) :
    leavesOf (ts.flatMap (spread c)) = leavesOf ts := by
  induction ts with
  | nil => rfl
  | cons t ts ih => rw [List.flatMap_cons, leavesOf_append, leavesOf_spread, ih, leavesOf]

/-! ## Joining -/

/-- All that joining can lead to. -/
theorem join_cases (c : Connective) (ts : List PredicateTree) :
    (ts.flatMap (spread c) = [] ∧ join c ts = .error (.noChildren c)) ∨
    (∃ t, ts.flatMap (spread c) = [t] ∧ join c ts = .ok t) ∨
    (2 ≤ (ts.flatMap (spread c)).length ∧ join c ts = .ok (.branch c (ts.flatMap (spread c)))) := by
  have hpresent : (ts.map some).findIdx? (·.isNone) = none := by simp
  have hall : (ts.map some).filterMap id = ts := by simp
  unfold join combine
  rw [hpresent, hall]
  cases ts.flatMap (spread c) with
  | nil => exact .inl ⟨rfl, rfl⟩
  | cons t us =>
    cases us with
    | nil => exact .inr (.inl ⟨t, rfl, rfl⟩)
    | cons u us => exact .inr (.inr ⟨by simp, rfl⟩)

/-- A joined tree has the leaves of the children, in order. -/
theorem leaves_join {c : Connective} {ts : List PredicateTree} {n : PredicateTree}
    (h : join c ts = .ok n) : n.leaves = leavesOf ts := by
  obtain ⟨-, herror⟩ | ⟨t, hspread, hok⟩ | ⟨-, hok⟩ := join_cases c ts
  · rw [herror] at h
    contradiction
  · rw [hok] at h
    cases h
    rw [← leavesOf_flatMap_spread c, hspread, leavesOf_singleton]
  · rw [hok] at h
    cases h
    rw [leaves, leavesOf_flatMap_spread]

/-- A joined tree evaluates as the branch over the same children. -/
theorem evaluate_join {c : Connective} {ts : List PredicateTree} {n : PredicateTree}
    (h : join c ts = .ok n) (ev : Evaluator) (r : Record) :
    ev.evaluate r n = ev.evaluate r (.branch c ts) := by
  rw [← Evaluator.evaluate_branch_flatMap_spread]
  obtain ⟨-, herror⟩ | ⟨t, hspread, hok⟩ | ⟨-, hok⟩ := join_cases c ts
  · rw [herror] at h
    contradiction
  · rw [hok] at h
    cases h
    rw [hspread, Evaluator.evaluate_branch_singleton]
  · rw [hok] at h
    cases h
    rfl

/-! ## Normal form -/

mutual

/-- Whether every branch has two children at least, and none of its own connective. -/
def isNormal : PredicateTree → Bool
  | .leaf _ => true
  | .branch c ts => 2 ≤ ts.length && ts.all (·.connective? != some c) && areNormal ts

def areNormal : List PredicateTree → Bool
  | [] => true
  | t :: rest => t.isNormal && areNormal rest

end

theorem areNormal_iff {ts : List PredicateTree} :
    areNormal ts = true ↔ ∀ t ∈ ts, t.isNormal = true := by
  induction ts with
  | nil => simp [areNormal]
  | cons t ts ih => rw [areNormal, Bool.and_eq_true, ih, List.forall_mem_cons]

theorem isNormal_branch_iff {c : Connective} {ts : List PredicateTree} :
    (branch c ts).isNormal = true ↔
      2 ≤ ts.length ∧ ∀ t ∈ ts, t.connective? ≠ some c ∧ t.isNormal = true := by
  rw [isNormal, Bool.and_eq_true, Bool.and_eq_true, areNormal_iff]
  simp [and_assoc, forall_and]

/-- A tree in normal form contributes something to a branch, and nothing of the branch's connective. -/
theorem spread_of_isNormal (c : Connective) {t : PredicateTree} (h : t.isNormal = true) :
    t.spread c ≠ [] ∧ ∀ u ∈ t.spread c, u.connective? ≠ some c ∧ u.isNormal = true := by
  cases t with
  | leaf p => simp [spread, connective?, isNormal]
  | branch d ts =>
    by_cases hd : d = c
    · obtain ⟨hlength, hts⟩ := isNormal_branch_iff.1 h
      rw [spread, if_pos hd]
      refine ⟨?_, fun u hu => hd ▸ hts u hu⟩
      rintro rfl
      contradiction
    · rw [spread, if_neg hd]
      simp [connective?, hd, h]

/-- Children in normal form are joined into a tree in normal form, unless there are none. -/
theorem join_of_isNormal (c : Connective) {ts : List PredicateTree} (hne : ts ≠ [])
    (hts : ∀ t ∈ ts, t.isNormal = true) : ∃ n, join c ts = .ok n ∧ n.isNormal = true := by
  have hspread : ∀ u ∈ ts.flatMap (spread c), u.connective? ≠ some c ∧ u.isNormal = true := by
    intro u hu
    obtain ⟨t, ht, hu⟩ := List.mem_flatMap.1 hu
    exact (spread_of_isNormal c (hts t ht)).2 u hu
  obtain ⟨hnil, -⟩ | ⟨t, hone, hok⟩ | ⟨hlength, hok⟩ := join_cases c ts
  · obtain ⟨t, ht⟩ := List.exists_mem_of_ne_nil ts hne
    exact absurd (List.flatMap_eq_nil_iff.1 hnil t ht) (spread_of_isNormal c (hts t ht)).1
  · exact ⟨t, hok, (hspread t (by simp [hone])).2⟩
  · exact ⟨_, hok, isNormal_branch_iff.2 ⟨hlength, hspread⟩⟩

/-- The children of a branch in normal form are joined into that branch. -/
theorem join_children {c : Connective} {ts : List PredicateTree}
    (h : (branch c ts).isNormal = true) : join c ts = .ok (.branch c ts) := by
  obtain ⟨hlength, hts⟩ := isNormal_branch_iff.1 h
  have hspread : ts.flatMap (spread c) = ts := by
    have hself : ∀ t ∈ ts, t.spread c = [t] := by
      intro t ht
      cases t with
      | leaf p => rfl
      | branch d us =>
        have hd : d ≠ c := fun hd => (hts _ ht).1 (congrArg some hd)
        rw [spread, if_neg hd]
    rw [List.flatMap_def, List.map_congr_left hself, ← List.flatMap_def, List.flatMap_singleton']
  obtain ⟨hnil, -⟩ | ⟨t, hone, -⟩ | ⟨-, hok⟩ := join_cases c ts
  · rw [hspread] at hnil
    simp [hnil] at hlength
  · rw [hspread] at hone
    simp [hone] at hlength
  · rw [hok, hspread]

/-! ## Rebuilding -/

mutual

/-- The tree with every branch joined anew, the innermost first. -/
def rebuild : PredicateTree → Except TreeError PredicateTree
  | .leaf p => .ok (.leaf p)
  | .branch c ts => do join c (← rebuildAll ts)

def rebuildAll : List PredicateTree → Except TreeError (List PredicateTree)
  | [] => .ok []
  | t :: rest => do return (← t.rebuild) :: (← rebuildAll rest)

end

mutual

/-- Whether some branch, at any depth, has no children. -/
def hasEmptyBranch : PredicateTree → Bool
  | .leaf _ => false
  | .branch _ ts => ts.isEmpty || haveEmptyBranch ts

def haveEmptyBranch : List PredicateTree → Bool
  | [] => false
  | t :: rest => t.hasEmptyBranch || haveEmptyBranch rest

end

/-- A tree in normal form with the leaves and the meaning of another. -/
structure Normalises (n t : PredicateTree) : Prop where
  isNormal : n.isNormal = true
  leaves : n.leaves = t.leaves
  evaluate : ∀ ev r, Evaluator.evaluate ev r n = Evaluator.evaluate ev r t

mutual

/-- A tree without empty branches is rebuilt in normal form. -/
theorem rebuild_of_occupied (t : PredicateTree) (h : t.hasEmptyBranch = false) :
    ∃ n, t.rebuild = .ok n ∧ n.Normalises t := by
  cases t with
  | leaf p => exact ⟨.leaf p, rfl, rfl, rfl, fun _ _ => rfl⟩
  | branch c ts =>
    obtain ⟨hoccupied, hchildren⟩ := Bool.or_eq_false_iff.1 h
    obtain ⟨ns, hns, hempty, hnormal, hleaves, hevaluate⟩ := rebuildAll_of_occupied ts hchildren
    have hne : ns ≠ [] := by
      rintro rfl
      simp [hempty.1 rfl] at hoccupied
    obtain ⟨n, hn, hnnormal⟩ := join_of_isNormal c hne hnormal
    refine ⟨n, by rw [rebuild, hns]; exact hn, hnnormal, ?_, fun ev r => ?_⟩
    · rw [leaves_join hn, hleaves, leaves]
    · rw [evaluate_join hn, hevaluate]

theorem rebuildAll_of_occupied (ts : List PredicateTree) (h : haveEmptyBranch ts = false) :
    ∃ ns, rebuildAll ts = .ok ns ∧ (ns = [] ↔ ts = []) ∧ (∀ n ∈ ns, n.isNormal = true) ∧
      leavesOf ns = leavesOf ts ∧
      ∀ c ev r, Evaluator.evaluate ev r (.branch c ns) = Evaluator.evaluate ev r (.branch c ts) := by
  match ts with
  | [] => exact ⟨[], rfl, Iff.rfl, by simp, rfl, fun _ _ _ => rfl⟩
  | t :: rest =>
    obtain ⟨ht, hrest⟩ := Bool.or_eq_false_iff.1 h
    obtain ⟨n, hn, hnormalises⟩ := rebuild_of_occupied t ht
    obtain ⟨ns, hns, -, hnormal, hleaves, hevaluate⟩ := rebuildAll_of_occupied rest hrest
    refine ⟨n :: ns, by rw [rebuildAll, hn, hns]; rfl, by simp, ?_, ?_, fun c ev r => ?_⟩
    · exact List.forall_mem_cons.2 ⟨hnormalises.isNormal, hnormal⟩
    · rw [leavesOf, hnormalises.leaves, hleaves, leavesOf]
    · rw [Evaluator.evaluate_branch_cons, hnormalises.evaluate, hevaluate,
        Evaluator.evaluate_branch_cons]

end

mutual

/-- A tree in normal form is rebuilt as it is. -/
theorem rebuild_of_isNormal (t : PredicateTree) (h : t.isNormal = true) : t.rebuild = .ok t := by
  cases t with
  | leaf p => rfl
  | branch c ts =>
    have hts : areNormal ts = true := areNormal_iff.2 fun t ht => ((isNormal_branch_iff.1 h).2 t ht).2
    rw [rebuild, rebuildAll_of_areNormal ts hts]
    exact join_children h

theorem rebuildAll_of_areNormal (ts : List PredicateTree) (h : areNormal ts = true) :
    rebuildAll ts = .ok ts := by
  match ts with
  | [] => rfl
  | t :: rest =>
    obtain ⟨ht, hrest⟩ := Bool.and_eq_true_iff.1 h
    rw [rebuildAll, rebuild_of_isNormal t ht, rebuildAll_of_areNormal rest hrest]
    rfl

end

mutual

/-- A tree with an empty branch cannot be rebuilt. -/
theorem rebuild_of_hasEmptyBranch (t : PredicateTree) (h : t.hasEmptyBranch = true) :
    ∃ c, t.rebuild = .error (.noChildren c) := by
  cases t with
  | leaf p => contradiction
  | branch c ts =>
    rw [rebuild]
    rcases Bool.or_eq_true_iff.1 h with hempty | hchildren
    · obtain rfl := List.isEmpty_iff.1 hempty
      exact ⟨c, rfl⟩
    · obtain ⟨d, hd⟩ := rebuildAll_of_haveEmptyBranch ts hchildren
      exact ⟨d, by rw [hd]; rfl⟩

theorem rebuildAll_of_haveEmptyBranch (ts : List PredicateTree) (h : haveEmptyBranch ts = true) :
    ∃ c, rebuildAll ts = .error (.noChildren c) := by
  match ts with
  | [] => contradiction
  | t :: rest =>
    rw [rebuildAll]
    cases ht : t.hasEmptyBranch with
    | true =>
      obtain ⟨c, hc⟩ := rebuild_of_hasEmptyBranch t ht
      exact ⟨c, by rw [hc]; rfl⟩
    | false =>
      -- the children before the faulty one are rebuilt
      obtain ⟨n, hn, -⟩ := rebuild_of_occupied t ht
      have hrest : haveEmptyBranch rest = true := by simpa [haveEmptyBranch, ht] using h
      obtain ⟨c, hc⟩ := rebuildAll_of_haveEmptyBranch rest hrest
      exact ⟨c, by rw [hn, hc]; rfl⟩

end

end PredicateTree

end Quarry
