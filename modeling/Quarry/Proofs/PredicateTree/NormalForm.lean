-- SUMMARY: Every tree that construction leads to is in normal form, and so passes validation.
import Quarry.Proofs.PredicateTree.Combining
import Quarry.Proofs.PredicateTree.Encoding
import Quarry.Scan.Plan

/-!
# Constructed trees

Combining looks at the children of its children and no deeper, and hands out a single child as it is. That
this is enough for a normal form rests on what goes into it: leaves have that form, reading combines every
branch where it ends, and so the trees that are combined have it already.

Validation asks for less than the normal form does, namely two children at every branch.
-/

namespace Quarry

namespace PredicateTree

/-! ## Trees in trees -/

/-- The tree occurs in another: it is the tree itself, or occurs in one of its children. -/
inductive Occurs (u : PredicateTree) : PredicateTree → Prop
  | here : Occurs u u
  | child {c : Connective} {ts : List PredicateTree} {t : PredicateTree} (ht : t ∈ ts)
      (hu : Occurs u t) : Occurs u (.branch c ts)

/-- The claim holds of every branch in the tree, at any depth. -/
def EveryBranch (claim : Connective → List PredicateTree → Prop) (t : PredicateTree) : Prop :=
  ∀ c ts, Occurs (.branch c ts) t → claim c ts

variable {claim : Connective → List PredicateTree → Prop}

theorem everyBranch_leaf (p : Predicate) : EveryBranch claim (.leaf p) := by
  intro c ts h
  cases h

theorem everyBranch_branch_iff {c : Connective} {ts : List PredicateTree} :
    EveryBranch claim (.branch c ts) ↔ claim c ts ∧ ∀ t ∈ ts, EveryBranch claim t := by
  constructor
  · intro h
    exact ⟨h c ts .here, fun t ht d us hu => h d us (.child ht hu)⟩
  · rintro ⟨hbranch, hchildren⟩ d us hu
    cases hu with
    | here => exact hbranch
    | child ht hu => exact hchildren _ ht d us hu

/-! ## Validation -/

theorem faultAmong?_eq_none_iff {ts : List PredicateTree} :
    faultAmong? ts = none ↔ ∀ t ∈ ts, t.fault? = none := by
  induction ts with
  | nil => simp [faultAmong?]
  | cons t ts ih =>
    rw [faultAmong?, Option.orElse_eq_orElse, Option.orElse_eq_or, Option.or_eq_none_iff, ih,
      List.forall_mem_cons]

/-- A tree is valid just if every branch has two children at least. -/
theorem fault?_eq_none_iff {t : PredicateTree} :
    t.fault? = none ↔ t.EveryBranch fun _ ts => 2 ≤ ts.length := by
  induction t using PredicateTree.induction with
  | leaf p => exact iff_of_true rfl (everyBranch_leaf p)
  | branch c ts ih =>
    rw [everyBranch_branch_iff, fault?]
    split
    · next hfew => simp [Nat.not_le.2 hfew]
    · next hmany =>
      rw [faultAmong?_eq_none_iff, forall₂_congr ih]
      exact (and_iff_right (Nat.not_lt.1 hmany)).symm

/-- A tree is in normal form just if every branch has two children at least and none of its own
    connective. -/
theorem isNormal_iff {t : PredicateTree} :
    t.isNormal = true ↔
      t.EveryBranch fun c ts => 2 ≤ ts.length ∧ ∀ u ∈ ts, u.connective? ≠ some c := by
  induction t using PredicateTree.induction with
  | leaf p => exact iff_of_true rfl (everyBranch_leaf p)
  | branch c ts ih =>
    rw [everyBranch_branch_iff, isNormal_branch_iff, ← forall₂_congr ih]
    simp only [and_assoc, forall_and]

/-- A tree in normal form is valid. -/
theorem fault?_of_isNormal {t : PredicateTree} (h : t.isNormal = true) : t.fault? = none :=
  fault?_eq_none_iff.2 fun c ts hts => (isNormal_iff.1 h c ts hts).1

end PredicateTree

/-- Planning refuses a tree just if the tree is not valid. -/
theorem Plan.ofRequest_eq_invalidTree_iff {catalog : Catalog} {config : Config} {collection : String}
    {tree : Option PredicateTree} {hint : Option IndexQuery} {e : TreeError} :
    ofRequest catalog config collection tree hint = .error (.invalidTree e) ↔
      tree.bind PredicateTree.fault? = some e := by
  unfold ofRequest
  split
  · next hfault => simp [hfault]
  · next hvalid =>
    -- whichever plan it is, only policy can refuse it
    dsimp only
    rw [hvalid]
    split
    all_goals split <;> simp

namespace PredicateTree

/-! ## Construction -/

theorem isNormal_of_join {c : Connective} {ts : List PredicateTree} {n : PredicateTree}
    (hts : ∀ t ∈ ts, t.isNormal = true) (h : join c ts = .ok n) : n.isNormal = true := by
  have hne : ts ≠ [] := by
    rintro rfl
    contradiction
  obtain ⟨n', hn', hnormal⟩ := join_of_isNormal c hne hts
  obtain rfl : n' = n := Except.ok.inj (hn'.symm.trans h)
  exact hnormal

/-- All that reading a tree can lead to. -/
theorem ofJson_cases {depth : Nat} {j : Json} {t : PredicateTree} (h : ofJson depth j = .ok t) :
    (∃ p, t = .leaf p) ∨
      ∃ d < depth, ∃ c ts, ∃ items : List Json, items.mapM (ofJson d) = .ok ts ∧ join c ts = .ok t := by
  unfold ofJson at h
  split at h
  · split at h
    · next depth tag body rest _ =>
      obtain ⟨p, -, hleaf⟩ := bind_eq_ok_iff.1 h
      split at hleaf
      · exact .inl ⟨p, (Except.ok.inj hleaf).symm⟩
      · contradiction
    · split at h
      · next c d items _ =>
        obtain ⟨ts, hts, hbranch⟩ := bind_eq_ok_iff.1 h
        split at hbranch
        · exact .inr ⟨d, by omega, c, ts, items, hts, mapError_eq_ok_iff.1 hbranch⟩
        · contradiction
      · contradiction
  · contradiction

/-- What is read from a document is in normal form. -/
theorem isNormal_of_ofJson {depth : Nat} {j : Json} {t : PredicateTree}
    (h : ofJson depth j = .ok t) : t.isNormal = true := by
  induction depth using Nat.strongRecOn generalizing j t with
  | ind depth ih =>
    obtain ⟨p, rfl⟩ | ⟨d, hd, c, ts, items, hread, hjoin⟩ := ofJson_cases h
    · rfl
    · refine isNormal_of_join (fun u hu => ?_) hjoin
      obtain ⟨item, -, hitem⟩ := exists_of_mem_mapM hread hu
      exact ih d hd hitem

/-- The trees that construction leads to: predicates, trees that were read, and combinations of such
    trees. -/
inductive Constructed : PredicateTree → Prop
  | leaf (p : Predicate) : Constructed (.leaf p)
  | read {depth : Nat} {j : Json} {t : PredicateTree} (ht : ofJson depth j = .ok t) : Constructed t
  | combine {c : Connective} {children : List (Option PredicateTree)} {t : PredicateTree}
      (hchildren : ∀ child, some child ∈ children → Constructed child)
      (ht : PredicateTree.combine c children = .ok t) : Constructed t

/-- A tree that was read from a text was read from a document. -/
theorem Constructed.ofText {depth : Nat} {text : String} {t : PredicateTree}
    (h : decodeText (ofJson depth) text = .ok t) : t.Constructed := by
  unfold decodeText at h
  obtain ⟨u, hread, htext⟩ := bind_eq_ok_iff.1 h
  split at htext
  · obtain rfl : u = t := Except.ok.inj htext
    exact .read hread
  · contradiction

theorem Constructed.isNormal {t : PredicateTree} (h : t.Constructed) : t.isNormal = true := by
  induction h with
  | leaf p => rfl
  | read ht => exact isNormal_of_ofJson ht
  | combine _ ht ih =>
    obtain ⟨ts, rfl, hjoin⟩ := exists_map_some_of_combine ht
    exact isNormal_of_join (fun u hu => ih u (List.mem_map_of_mem hu)) hjoin

/-- In a constructed tree every branch has two children at least and none of its own connective. So it is
    valid, planning does not refuse it, and joining its children gives it back. And a tree, constructed or
    not, fails validation just if some branch in it has fewer than two children. -/
theorem constructed_normal_valid (t : PredicateTree) :
    (t.Constructed →
      (∀ c ts, Occurs (.branch c ts) t → 2 ≤ ts.length ∧ ∀ u ∈ ts, u.connective? ≠ some c) ∧
      t.fault? = none ∧
      (∀ catalog config collection hint e,
        Plan.ofRequest catalog config collection (some t) hint ≠ .error (.invalidTree e)) ∧
      ∀ c, t.connective? = some c → join c t.children = .ok t) ∧
    ((∃ e, t.fault? = some e) ↔ ∃ c ts, Occurs (.branch c ts) t ∧ ts.length < 2) := by
  refine ⟨fun h => ?_, ?_⟩
  · have hnormal : t.isNormal = true := h.isNormal
    have hvalid : t.fault? = none := fault?_of_isNormal hnormal
    refine ⟨isNormal_iff.1 hnormal, hvalid, fun catalog config collection hint e hplan => ?_,
      fun c hc => ?_⟩
    · have hfault : t.fault? = some e := Plan.ofRequest_eq_invalidTree_iff.1 hplan
      rw [hvalid] at hfault
      contradiction
    · cases t with
      | leaf p => contradiction
      | branch d ts =>
        obtain rfl : d = c := Option.some.inj hc
        exact join_children hnormal
  · have hsome : (∃ e, t.fault? = some e) ↔ ¬ t.fault? = none := by
      rw [← ne_eq, Option.ne_none_iff_exists']
    rw [hsome, fault?_eq_none_iff, EveryBranch]
    simp only [Classical.not_forall, Nat.not_le, exists_prop]

/-- A predicate to build trees from. -/
def small : PredicateTree :=
  .leaf ⟨"n", .lt, .int 3, none, false, none, rfl⟩

/-- A conjunction with a single child, which is a disjunction with a single child. -/
def singly : PredicateTree :=
  .branch .and [.branch .or [small]]

theorem constructed_normal_valid_singly :
    decodeText (ofJson Json.nestingLimit) singly.toJson.render = .ok small ∧
    combine .or [some small, some initial] = .ok (.branch .or [small, initial]) ∧
    (branch .or [small, initial]).fault? = none ∧
    join .or [small, initial] = .ok (.branch .or [small, initial]) := by
  have htext : decodeText (ofJson Json.nestingLimit) singly.toJson.render = .ok small := by
    rw [decodeText_render _ singly.textual_toJson, ofJson_toJson singly (by decide +kernel) (by decide +kernel)]
    rfl
  have hcombined : combine .or [some small, some initial] = .ok (.branch .or [small, initial]) := rfl
  have hconstructed : (branch .or [small, initial]).Constructed := by
    refine .combine (fun child hchild => ?_) hcombined
    obtain rfl | rfl : child = small ∨ child = initial := by simpa using hchild
    · exact .ofText htext
    · exact .leaf _
  obtain ⟨-, hvalid, -, hjoin⟩ := (constructed_normal_valid _).1 hconstructed
  exact ⟨htext, hcombined, hvalid, hjoin .or rfl⟩

end PredicateTree

end Quarry
