-- SUMMARY: Predicates on metadata compare integers, cannot fail, and are never pushed.
import Quarry.Proofs.Evaluation.Trichotomy
import Quarry.Proofs.Scan.Pushing
import Quarry.Proofs.Scan.Splitting

/-!
# Predicates on metadata

Validation lets a metadata field be compared only by equality or order, and only with integers. What the
field stands for is an integer too, if the record has it, so that every such comparison has an outcome, and
the bins are never looked at. An index is over the bins, and so planning leaves these predicates to
evaluation, whatever index a catalog reports.
-/

namespace Quarry

/-! ## Integers -/

/-- How an integer stands to the operands of a comparison. -/
def Operator.RelatesInt (op : Operator) (n lower : Int) (upper : Option Int) : Prop :=
  match op with
  | .eq => n = lower
  | .notEq => n ≠ lower
  | .lt => n < lower
  | .ltEq => n ≤ lower
  | .gt => lower < n
  | .gtEq => lower ≤ n
  | .between => lower ≤ n ∧ ∃ u, upper = some u ∧ n ≤ u
  | _ => False

/-- A comparison with one integer holds as the order of the two says. -/
theorem Operator.relates_compare_iff {op : Operator} (hop : op.isRelational = true) (n lower : Int)
    (upper : Option Int) : op.relates (compare n lower) = true ↔ op.RelatesInt n lower upper := by
  rcases Int.lt_trichotomy n lower with hlt | rfl | hgt
  · rw [Int.compare_eq_lt.2 hlt]
    cases op <;> first | contradiction | (simp [relates, holds, RelatesInt]; omega)
  · rw [Int.compare_eq_eq.2 rfl]
    cases op <;> first | contradiction | simp [relates, holds, RelatesInt]
  · rw [Int.compare_eq_gt.2 hgt]
    cases op <;> first | contradiction | (simp [relates, holds, RelatesInt]; omega)

/-- Scalar comparisons have one operand, or they are ranges. -/
theorem Operator.isRelational_or_between {op : Operator} (h : op.isScalarComparison = true) :
    op.isRelational = true ∨ op = .between := by
  cases op <;> first | exact .inl rfl | exact .inr rfl | contradiction

/-! ## Metadata fields -/

theorem eq_of_isMetadataField {field : String} (h : isMetadataField field = true) :
    field = generationField ∨ field = expirationField := by
  unfold isMetadataField at h
  rw [Bool.or_eq_true, beq_iff_eq, beq_iff_eq] at h
  exact h

/-- The integer that a metadata field of a record stands for. A record without an expiration has no such
    integer there. -/
inductive Record.Metadata (r : Record) : String → Int → Prop
  | generation : Metadata r generationField r.generation.toNat
  | expiration {t : Int64} (h : r.expiration = some t) : Metadata r expirationField t.toInt

theorem toInt_ofInt_toNat (g : UInt32) : (Int64.ofInt g.toNat).toInt = g.toNat := by
  have hlt := g.toNat_lt
  exact Int64.toInt_ofInt_of_le (by omega) (by omega)

namespace Record

variable {r : Record} {field : String}

theorem resolve?_generationField (r : Record) :
    r.resolve? generationField = some (.int (Int64.ofInt r.generation.toNat)) :=
  if_pos rfl

theorem resolve?_expirationField (r : Record) :
    r.resolve? expirationField = r.expiration.map .int := by
  have hne : expirationField ≠ generationField := by decide
  unfold resolve?
  rw [if_neg hne, if_pos rfl]

theorem metadata_generationField_iff {n : Int} :
    r.Metadata generationField n ↔ n = r.generation.toNat := by
  constructor
  · intro h
    generalize hfield : generationField = field at h
    cases h with
    | generation => rfl
    | expiration => exact absurd hfield (by decide)
  · rintro rfl
    exact .generation

theorem metadata_expirationField_iff {n : Int} :
    r.Metadata expirationField n ↔ ∃ t, r.expiration = some t ∧ n = t.toInt := by
  constructor
  · intro h
    generalize hfield : expirationField = field at h
    cases h with
    | generation => exact absurd hfield (by decide)
    | expiration ht => exact ⟨_, ht, rfl⟩
  · rintro ⟨t, ht, rfl⟩
    exact .expiration ht

/-- A metadata field resolves to the integer that it stands for, if there is one. -/
theorem resolve?_of_metadata (h : isMetadataField field = true) (r : Record) :
    (∃ m : Int64, r.resolve? field = some (.int m) ∧ ∀ n, r.Metadata field n ↔ n = m.toInt) ∨
      (r.resolve? field = none ∧ ∀ n, ¬ r.Metadata field n) := by
  rcases eq_of_isMetadataField h with rfl | rfl
  · refine .inl ⟨_, resolve?_generationField r, fun n => ?_⟩
    rw [metadata_generationField_iff, toInt_ofInt_toNat]
  · rw [resolve?_expirationField]
    simp only [metadata_expirationField_iff]
    cases r.expiration with
    | none => exact .inr ⟨rfl, fun n ⟨t, ht, _⟩ => by contradiction⟩
    | some t => exact .inl ⟨t, rfl, fun n => by simp⟩

/-- What a metadata field stands for is a matter of the metadata alone. -/
theorem Metadata.congr {r' : Record} {n : Int} (h : r.Metadata field n)
    (hgeneration : r.generation = r'.generation) (hexpiration : r.expiration = r'.expiration) :
    r'.Metadata field n := by
  cases h with
  | generation =>
    rw [hgeneration]
    exact .generation
  | expiration ht =>
    rw [hexpiration] at ht
    exact .expiration ht

end Record

/-! ## Operands -/

namespace Predicate

variable {p : Predicate}

/-- The operands of a predicate on metadata are integers. -/
theorem operands_of_isMetadata (h : p.isMetadata = true) :
    ∃ (lower : Int64) (upper : Option Int64), p.value1 = .int lower ∧ p.value2 = upper.map .int := by
  obtain ⟨-, hlower, hupper⟩ := metadataFault?_eq_none_iff.1 (p.meets.metadata h)
  obtain ⟨lower, hvalue1⟩ := Plan.exists_int_of_kind (beq_iff_eq.2 hlower)
  cases hvalue2 : p.value2 with
  | none => exact ⟨lower, none, hvalue1, rfl⟩
  | some v =>
    obtain ⟨upper, rfl⟩ := Plan.exists_int_of_kind (beq_iff_eq.2 (hupper v hvalue2))
    exact ⟨lower, some upper, hvalue1, rfl⟩

theorem isScalarComparison_of_isMetadata (h : p.isMetadata = true) :
    p.operator.isScalarComparison = true :=
  (metadataFault?_eq_none_iff.1 (p.meets.metadata h)).1

end Predicate

/-! ## Evaluation -/

namespace Evaluator

variable (ev : Evaluator) {r : Record} {p : Predicate} {m lower : Int64} {upper : Option Int64}

/-- A comparison of an integer with one integer. -/
theorem evaluate_relational_int (hop : p.operator.isRelational = true) (hlower : p.value1 = .int lower)
    (hr : r.resolve? p.field = some (.int m)) (upper : Option Int) :
    ∃ b, ev.evaluate r (.leaf p) = .ok b ∧
      (b = true ↔ p.operator.RelatesInt m.toInt lower.toInt upper) := by
  have hordered : p.value1.kind.isOrdered = true := by
    rw [hlower]
    rfl
  have horder : Comparison.order p.ignoreCase (.int m) p.value1 =
      .ok (compare m.toInt lower.toInt) := by
    rw [hlower]
    exact order_int _ m lower
  refine ⟨_, ?_, Operator.relates_compare_iff hop _ _ upper⟩
  rw [accepts_of_resolve ev hr, test_relational ev hop hordered horder]
  rfl

/-- A range of integers has both its bounds in it. -/
theorem evaluate_between_int {hi : Int64} (hop : p.operator = .between) (hlower : p.value1 = .int lower)
    (hupper : p.value2 = some (.int hi)) (hr : r.resolve? p.field = some (.int m)) :
    ∃ b, ev.evaluate r (.leaf p) = .ok b ∧
      (b = true ↔ p.operator.RelatesInt m.toInt lower.toInt (some hi.toInt)) := by
  refine ⟨_, evaluate_between ev hop hlower hupper hr (order_int _ m lower) (order_int _ m hi), ?_⟩
  rw [hop, Bool.and_eq_true, bne_iff_ne, bne_iff_ne, Int.compare_ne_lt, Int.compare_ne_gt]
  simp [Operator.RelatesInt]

/-- A predicate on metadata has an outcome on every record: whether the record has the integer that the
    field stands for, and it stands to the operands as the operator asks. -/
theorem evaluate_metadata (h : p.isMetadata = true) (hlower : p.value1 = .int lower)
    (hupper : p.value2 = upper.map .int) (r : Record) :
    ∃ b, ev.evaluate r (.leaf p) = .ok b ∧
      (b = true ↔ ∃ n, r.Metadata p.field n ∧
        p.operator.RelatesInt n lower.toInt (upper.map (·.toInt))) := by
  rcases Record.resolve?_of_metadata h r with ⟨m, hr, hmetadata⟩ | ⟨hr, hmissing⟩
  · simp only [hmetadata, exists_eq_left]
    rcases Operator.isRelational_or_between (Predicate.isScalarComparison_of_isMetadata h) with hop | hop
    · exact evaluate_relational_int ev hop hlower hr _
    · obtain ⟨v, hv, -⟩ := bounds_of_between hop
      cases upper with
      | none =>
        rw [hupper] at hv
        contradiction
      | some hi => exact evaluate_between_int ev hop hlower hupper hr
  · refine ⟨false, evaluate_of_missing ev hr, iff_of_false Bool.false_ne_true ?_⟩
    rintro ⟨n, hn, -⟩
    exact hmissing n hn

/-- Records with the same metadata are alike to a predicate on metadata, and so are evaluators. -/
theorem evaluate_metadata_congr (ev ev' : Evaluator) {r r' : Record} (h : p.isMetadata = true)
    (hgeneration : r.generation = r'.generation) (hexpiration : r.expiration = r'.expiration) :
    ev.evaluate r (.leaf p) = ev'.evaluate r' (.leaf p) := by
  obtain ⟨lower, upper, hlower, hupper⟩ := Predicate.operands_of_isMetadata h
  obtain ⟨b, hb, hiff⟩ := evaluate_metadata ev h hlower hupper r
  obtain ⟨b', hb', hiff'⟩ := evaluate_metadata ev' h hlower hupper r'
  have hsame (n : Int) : r.Metadata p.field n ↔ r'.Metadata p.field n :=
    ⟨fun hn => hn.congr hgeneration hexpiration, fun hn => hn.congr hgeneration.symm hexpiration.symm⟩
  simp only [hsame] at hiff
  rw [hb, hb', Bool.eq_iff_iff.2 (hiff.trans hiff'.symm)]

end Evaluator

/-! ## Planning -/

namespace Plan

variable {catalog : Catalog} {collection : String} {p : Predicate} {t : PredicateTree}

/-- No index answers a predicate on metadata. -/
theorem pushdown?_of_isMetadata (h : p.isMetadata = true) : pushdown? catalog collection p = none := by
  cases hd : pushdown? catalog collection p with
  | none => rfl
  | some d =>
    obtain ⟨-, hmetadata, -⟩ := pushesTo_of_pushdown? hd
    rw [h] at hmetadata
    contradiction

/-- What is pushed is a query on bins. -/
theorem isMetadataField_of_pushed {query : IndexQuery}
    (h : (ofTree catalog collection t).pushed = some query) : isMetadataField query.field = false := by
  rcases ofTree_cases catalog collection t with hscan | ⟨p, d, hsplits⟩
  · rw [hscan] at h
    contradiction
  · obtain ⟨-, hmetadata, ix, -, hpushes⟩ := pushesTo_of_pushdown? hsplits.pushdown
    obtain rfl : d.query = query := Option.some.inj (hsplits.pushed.symm.trans h)
    rw [hpushes.field_eq]
    exact hmetadata

theorem isConjunct_conjunction {ts : List PredicateTree} (h : .leaf p ∈ ts) :
    ∃ u, conjunction ts = some u ∧ p.IsConjunct u := by
  cases ts with
  | nil => contradiction
  | cons t us =>
    cases us with
    | nil =>
      obtain rfl := List.mem_singleton.1 h
      exact ⟨_, rfl, .itself⟩
    | cons u us => exact ⟨_, rfl, .child h⟩

/-- A predicate that no index answers is left for evaluation. -/
theorem exists_residual_of_isConjunct (hp : pushdown? catalog collection p = none)
    (h : p.IsConjunct t) :
    ∃ u, (ofTree catalog collection t).residual = some u ∧ p.IsConjunct u := by
  cases h with
  | itself =>
    refine ⟨_, ?_, .itself⟩
    simp only [ofTree, hp]
  | @child ts hmem =>
    cases htake : takePushable? catalog collection ts with
    | none =>
      refine ⟨_, ?_, .child hmem⟩
      simp only [ofTree, htake]
    | some taken =>
      obtain ⟨d, others⟩ := taken
      obtain ⟨before, p', after, rfl, rfl, hd, -⟩ := takePushable?_eq_some htake
      cases hexact : d.exact with
      | false =>
        refine ⟨_, ?_, .child hmem⟩
        simp only [ofTree, htake, hexact]
        rfl
      | true =>
        have hne : PredicateTree.leaf p ≠ .leaf p' := by
          intro heq
          rw [PredicateTree.leaf.inj heq, hd] at hp
          contradiction
        have hothers : PredicateTree.leaf p ∈ before ++ after := by
          simpa [hne] using hmem
        obtain ⟨u, hu, hconjunct⟩ := isConjunct_conjunction hothers
        refine ⟨u, ?_, hconjunct⟩
        simp only [ofTree, htake, hexact]
        exact hu

end Plan

/-! ## Predicates on metadata -/

namespace Predicate

/-- A predicate on metadata has integers as its operands. It has an outcome on every record, which accepts
    the record just if the generation, or the expiration if there is one, stands to the operands as the
    operator asks: a record without an expiration is rejected. Neither the bins nor the evaluator matter.
    It becomes no query, whatever the catalog reports, no tree leads to a query on metadata, and such a
    predicate is left for evaluation. -/
theorem metadata_exact {p : Predicate} (h : p.isMetadata = true) :
    ∃ (lower : Int64) (upper : Option Int64), p.value1 = .int lower ∧ p.value2 = upper.map .int ∧
      (∀ (ev : Evaluator) (r : Record), ∃ b, ev.evaluate r (.leaf p) = .ok b ∧
        (b = true ↔ ∃ n, r.Metadata p.field n ∧
          p.operator.RelatesInt n lower.toInt (upper.map (·.toInt)))) ∧
      (∀ (ev : Evaluator) (r : Record), p.field = expirationField → r.expiration = none →
        ev.evaluate r (.leaf p) = .ok false) ∧
      (∀ (ev ev' : Evaluator) (r r' : Record), r.generation = r'.generation →
        r.expiration = r'.expiration → ev.evaluate r (.leaf p) = ev'.evaluate r' (.leaf p)) ∧
      ∀ (catalog : Catalog) (collection : String), Plan.pushdown? catalog collection p = none ∧
        ∀ t : PredicateTree,
          (∀ query, (Plan.ofTree catalog collection t).pushed = some query →
            isMetadataField query.field = false) ∧
          (p.IsConjunct t →
            ∃ u, (Plan.ofTree catalog collection t).residual = some u ∧ p.IsConjunct u) := by
  obtain ⟨lower, upper, hlower, hupper⟩ := operands_of_isMetadata h
  refine ⟨lower, upper, hlower, hupper, fun ev r => ?_, fun ev r hfield hnone => ?_,
    fun ev ev' r r' => ?_, fun catalog collection => ?_⟩
  · exact Evaluator.evaluate_metadata ev h hlower hupper r
  · apply Evaluator.evaluate_of_missing ev
    rw [hfield, Record.resolve?_expirationField, hnone]
    rfl
  · exact Evaluator.evaluate_metadata_congr ev ev' h
  · have hnone : Plan.pushdown? catalog collection p = none := Plan.pushdown?_of_isMetadata h
    exact ⟨hnone, fun t => ⟨fun query => Plan.isMetadataField_of_pushed,
      Plan.exists_residual_of_isConjunct hnone⟩⟩

/-- From two to five writes. -/
def writtenSomeTimes : Predicate :=
  ⟨generationField, .between, .int 2, some (.int 5), false, none, by rfl⟩

/-- Some expiration other than 0. -/
def expiringLater : Predicate :=
  ⟨expirationField, .notEq, .int 0, none, false, none, by rfl⟩

/-- A record of five writes without an expiration, with bins that are named like metadata. -/
def disguised : Record :=
  ⟨"k", .ofList [("@generation", .string "x"), ("@expiration", .int 1)], 5, none⟩

theorem metadata_exact_disguised :
    (∀ ev : Evaluator, ev.evaluate disguised (.leaf writtenSomeTimes) = .ok true) ∧
    (∀ ev : Evaluator, ev.evaluate disguised (.leaf expiringLater) = .ok false) ∧
    ∀ (catalog : Catalog) (p : Predicate), ∃ u,
      (Plan.ofTree catalog "c" (.branch .and [.leaf writtenSomeTimes, .leaf p])).residual = some u ∧
        writtenSomeTimes.IsConjunct u := by
  obtain ⟨lower, upper, hlower, hupper, hexact, -, -, hplans⟩ := metadata_exact (p := writtenSomeTimes) rfl
  obtain ⟨-, -, -, -, -, hmissing, -⟩ := metadata_exact (p := expiringLater) rfl
  refine ⟨fun ev => ?_, fun ev => hmissing ev disguised rfl rfl, fun catalog p => ?_⟩
  · obtain rfl : 2 = lower := Value.int.inj hlower
    obtain rfl : some 5 = upper := by
      cases upper with
      | none => contradiction
      | some hi => exact congrArg some (Value.int.inj (Option.some.inj hupper))
    obtain ⟨b, hb, hiff⟩ := hexact ev disguised
    have hholds : b = true := hiff.2 ⟨5, .generation, by decide, 5, rfl, by decide⟩
    rw [hb, hholds]
  · exact ((hplans catalog "c").2 _).2 (.child List.mem_cons_self)

end Predicate

end Quarry
