-- SUMMARY: Reading the document of a tree rebuilds the tree.
import Quarry.Proofs.Documents
import Quarry.Proofs.PredicateTree.Joining

/-!
# Reading back trees

A tree is written as it is, branches with few children and nested branches of one connective included. It is
read from the innermost branch out, and every branch is joined anew where it ends. What is read is therefore
the rebuilt tree: it fails if there is an empty branch, and otherwise has the leaves and the meaning of the
tree that was written.
-/

namespace Quarry.PredicateTree

/-! ## Texts -/

mutual

theorem textual_toJson (t : PredicateTree) : t.toJson.textual = true := by
  cases t with
  | leaf p => exact Json.textual_tagged _ p.textual_toJson
  | branch c ts => exact Json.textual_tagged _ (textualItems_listToJson ts)

theorem textualItems_listToJson (ts : List PredicateTree) :
    Json.textualItems (listToJson ts) = true := by
  match ts with
  | [] => rfl
  | t :: rest => simp [listToJson, Json.textualItems, textual_toJson t, textualItems_listToJson rest]

end

/-! ## Reading -/

theorem connectiveOf?_tag (c : Connective) : connectiveOf? (tag c) = some c := by
  cases c <;> rfl

theorem tag_ne_leaf (c : Connective) : tag c ≠ "leaf" := by
  cases c <;> decide

theorem ofJson_leaf (d : Nat) (body : Json) :
    ofJson (d + 1) (.tagged "leaf" body) = (Predicate.ofJson d body).map leaf := by
  unfold ofJson Json.tagged
  simp only [if_true]
  cases Predicate.ofJson d body <;> rfl

theorem ofJson_branch (c : Connective) (d : Nat) (items : List Json) :
    ofJson (d + 2) (.tagged (tag c) (.array items)) = (do
      let ts ← items.mapM (ofJson d)
      (join c ts).mapError .tree) := by
  unfold ofJson Json.tagged
  simp only [if_neg (tag_ne_leaf c), connectiveOf?_tag]
  cases items.mapM (ofJson d) <;> rfl

mutual

/-- Reading the document of a tree rebuilds the tree. -/
theorem ofJson_toJson (t : PredicateTree) {d : Nat} (hd : t.toJson.depth ≤ d)
    (hfloats : ∀ p ∈ t.leaves, ∀ x ∈ p.floats, x.Legible) :
    ofJson d t.toJson = t.rebuild.mapError .tree := by
  cases t with
  | leaf p =>
    obtain ⟨d, rfl, hbody⟩ := Json.exists_of_depth_tagged_le hd
    have hp : Predicate.ofJson d p.toJson = .ok p :=
      Predicate.ofJson_toJson hbody (hfloats p (by simp [leaves]))
    rw [toJson, ofJson_leaf, hp]
    rfl
  | branch c ts =>
    obtain ⟨d, rfl, hbody⟩ := Json.exists_of_depth_tagged_le hd
    obtain ⟨d, rfl, hdepths⟩ := Json.exists_of_depth_array_le hbody
    rw [toJson, ofJson_branch, mapM_listToJson ts hdepths hfloats, rebuild]
    cases rebuildAll ts <;> rfl

theorem mapM_listToJson (ts : List PredicateTree) {d : Nat}
    (hdepths : ∀ j ∈ listToJson ts, j.depth ≤ d)
    (hfloats : ∀ p ∈ leavesOf ts, ∀ x ∈ p.floats, x.Legible) :
    (listToJson ts).mapM (ofJson d) = (rebuildAll ts).mapError .tree := by
  match ts with
  | [] => rfl
  | t :: rest =>
    obtain ⟨ht, hrest⟩ := List.forall_mem_cons.1 hdepths
    obtain ⟨htfloats, hrestfloats⟩ := List.forall_mem_append.1 hfloats
    rw [listToJson, List.mapM_cons, ofJson_toJson t ht htfloats, mapM_listToJson rest hrest hrestfloats,
      rebuildAll]
    cases t.rebuild with
    | error e => rfl
    | ok n => cases rebuildAll rest <;> rfl

end

/-- A tree without empty branches is read in normal form, with its leaves and its meaning, and as it was if
    it had that form. A tree with an empty branch is refused. -/
theorem decodeText_render_normalises {t : PredicateTree} (hd : t.toJson.depth ≤ Json.nestingLimit)
    (hfloats : ∀ p ∈ t.leaves, ∀ x ∈ p.floats, x.Legible) :
    (t.hasEmptyBranch = false →
      ∃ n, decodeText (ofJson Json.nestingLimit) t.toJson.render = .ok n ∧ n.isNormal = true ∧
        n.leaves = t.leaves ∧ (∀ ev r, Evaluator.evaluate ev r n = Evaluator.evaluate ev r t) ∧
        (t.isNormal = true → n = t)) ∧
    (t.hasEmptyBranch = true →
      ∃ c, decodeText (ofJson Json.nestingLimit) t.toJson.render = .error (.tree (.noChildren c))) := by
  rw [decodeText_render _ t.textual_toJson, ofJson_toJson t hd hfloats]
  constructor
  · intro hoccupied
    obtain ⟨n, hn, hnormalises⟩ := t.rebuild_of_occupied hoccupied
    refine ⟨n, by rw [hn]; rfl, hnormalises.isNormal, hnormalises.leaves, hnormalises.evaluate, ?_⟩
    intro hnormal
    have hsame : Except.ok n = Except.ok t := hn.symm.trans (t.rebuild_of_isNormal hnormal)
    exact Except.ok.inj hsame
  · intro hempty
    obtain ⟨c, hc⟩ := t.rebuild_of_hasEmptyBranch hempty
    exact ⟨c, by rw [hc]; rfl⟩

/-- Branches with a single child and branches of one connective in each other. -/
def nested : PredicateTree :=
  .branch .and [.branch .and [.leaf .sample, .branch .or [.leaf .sample]],
    .branch .or [.branch .or [.leaf .sample, .branch .and [.leaf .sample]], .leaf .sample]]

/-- A branch without children in another one. -/
def hollow : PredicateTree :=
  .branch .or [.leaf .sample, .branch .and []]

theorem decodeText_render_normalises_nested :
    (∃ n, decodeText (ofJson Json.nestingLimit) nested.toJson.render = .ok n ∧ n.isNormal = true ∧
      n.leaves = nested.leaves ∧
      (∀ ev r, Evaluator.evaluate ev r n = Evaluator.evaluate ev r nested) ∧
      (nested.isNormal = true → n = nested)) ∧
    ∃ c, decodeText (ofJson Json.nestingLimit) hollow.toJson.render = .error (.tree (.noChildren c)) := by
  have hnested := decodeText_render_normalises (t := nested) (by decide +kernel) (by decide +kernel)
  have hhollow := decodeText_render_normalises (t := hollow) (by decide +kernel) (by decide +kernel)
  exact ⟨hnested.1 rfl, hhollow.2 rfl⟩

end Quarry.PredicateTree
