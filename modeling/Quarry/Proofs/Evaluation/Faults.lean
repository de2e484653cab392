-- SUMMARY: What evaluation can report of a well-formed predicate, and of a tree of them.
import Quarry.Proofs.Evaluation.Rules
import Quarry.Proofs.PredicateTree.Joining

/-!
# Errors of evaluation

Validation leaves evaluation little to complain about. Operands are where they are needed and of the kinds
that the operator compares with, so an error says that the stored value, or something in it, is of another
kind. Only the test of geometries has limits of its own. A tree reports nothing but what one of its leaves
reports.
-/

namespace Quarry

open Comparison

/-- The items of a list, or the keys and values of a map. -/
def Value.parts : Value → List Value
  | .list items => items
  | .map entries => entries.map (·.1) ++ entries.map (·.2)
  | _ => []

namespace Predicate

/-- What a test of a stored value can report: that the value or a part of it is not of an expected kind, or
    that geometries cannot be tested. It is never the operand that is not a list or not a region. -/
inductive Reports (p : Predicate) (stored : Value) : ComparisonFault → Prop
  | mismatch (expected : Expectation) {v : Value} (hv : v = stored ∨ v ∈ stored.parts)
      (hlist : p.operator = .isIn → expected ≠ .kind .list)
      (hregion : p.operator = .geoWithin → stored.kind ≠ .geo) :
    Reports p stored (.mismatch expected v.kind)
  | unsupported (hop : p.operator = .geoWithin) {obstacle : Obstacle}
      (hobstacle : obstacle ≠ .missingOperand) : Reports p stored (.unsupported obstacle)

/-- An error that is about the predicate and about the value that a record has at its field. -/
structure Explains (p : Predicate) (r : Record) (e : EvaluationError) : Prop where
  field : e.field = p.field
  operator : e.operator = p.operator
  fault : ∃ stored, r.resolve? p.field = some stored ∧ p.Reports stored e.fault

end Predicate

namespace Evaluator

variable {ev : Evaluator} {p : Predicate} {stored : Value} {fault : ComparisonFault}

/-! ## Predicates -/

/-- An operator on scalars or ordered values reports only what it looks at. -/
theorem reports_mismatch (hdomain : p.operator.domain = .scalar ∨ p.operator.domain = .ordered)
    (expected : Expectation) {v : Value} (hv : v = stored ∨ v ∈ stored.parts) :
    p.Reports stored (.mismatch expected v.kind) := by
  refine .mismatch expected hv (fun hop => ?_) (fun hop => ?_)
  all_goals simp [hop, Operator.domain] at hdomain

theorem reports_of_discerns (hdomain : p.operator.domain = .scalar ∨ p.operator.domain = .ordered)
    {test : Value → Compared Bool} {k : Kind} (htest : Discerns test k) {v : Value}
    (hv : v = stored ∨ v ∈ stored.parts) (h : test v = .error fault) : p.Reports stored fault := by
  obtain rfl := htest.of_error h
  exact reports_mismatch hdomain _ hv

theorem reports_of_isScalarComparison (hp : p.operator.isScalarComparison = true)
    (h : ev.test p stored = .error fault) : p.Reports stored fault := by
  have hdomain := domain_of_isScalarComparison hp
  rw [test_of_isScalarComparison ev hp] at h
  exact reports_of_discerns hdomain (discerns_rule hdomain) (.inl rfl) h

theorem reports_of_looksInside (hp : p.looksInside = true) (h : ev.test p stored = .error fault) :
    p.Reports stored fault := by
  have hdomain := domain_of_looksInside hp
  cases hreaches : p.reaches stored with
  | false =>
    obtain ⟨expected, htest⟩ | ⟨s, rfl, htest⟩ := test_of_not_reaches ev hp hreaches
    · rw [htest] at h
      obtain rfl := Except.error.inj h
      exact reports_mismatch hdomain expected (.inl rfl)
    · rw [htest] at h
      obtain rfl := text_of_error h
      exact reports_mismatch hdomain _ (.inl rfl)
  | true =>
    cases stored with
    | list items =>
      rw [test_list ev hreaches] at h
      obtain ⟨v, hv, hrule⟩ := exists_of_any_eq_error h
      exact reports_of_discerns hdomain (discerns_rule hdomain) (.inr hv) hrule
    | map entries =>
      have hkey {e : Value × Value} (he : e ∈ entries) : e.1 ∈ (Value.map entries).parts :=
        List.mem_append_left _ (List.mem_map_of_mem he)
      have hvalue {e : Value × Value} (he : e ∈ entries) : e.2 ∈ (Value.map entries).parts :=
        List.mem_append_right _ (List.mem_map_of_mem he)
      obtain ⟨part, hpart⟩ := Option.isSome_iff_exists.1 hreaches
      cases part with
      | keys =>
        rw [test_keys ev hpart] at h
        obtain ⟨e, he, hrule⟩ := exists_of_any_eq_error h
        exact reports_of_discerns hdomain (discerns_rule hdomain) (.inr (hkey he)) hrule
      | values =>
        rw [test_values ev hpart] at h
        obtain ⟨e, he, hrule⟩ := exists_of_any_eq_error h
        exact reports_of_discerns hdomain (discerns_rule hdomain) (.inr (hvalue he)) hrule
      | entry =>
        obtain ⟨expected, hexpected, htest⟩ := test_entry ev hpart
        rw [htest] at h
        obtain ⟨e, he, hequal⟩ | ⟨e, he, hequal⟩ := exists_of_atKey_eq_error h
        · exact reports_of_discerns hdomain (discerns_key hpart) (.inr (hkey he)) hequal
        · exact reports_of_discerns hdomain (discerns_expected hpart hexpected) (.inr (hvalue he)) hequal
    | _ => contradiction

/-- A text test reports the stored value. -/
theorem reports_of_text (hdomain : p.operator.domain = .text) (h : ev.test p stored = .error fault) :
    p.Reports stored fault := by
  have hfault : fault = .mismatch (.kind p.value1.kind) stored.kind := by
    unfold test at h
    cases hop : p.operator with
    | startsWith | endsWith =>
      simp only [hop] at h
      exact text_of_error h
    | _ => simp [hop, Operator.domain] at hdomain
  rw [hfault]
  refine .mismatch _ (.inl rfl) (fun hop => ?_) (fun hop => ?_)
  all_goals simp [hop, Operator.domain] at hdomain

/-- `IN` reports the stored value, compared with a candidate, which is a scalar. -/
theorem reports_of_isIn (hop : p.operator = .isIn) (h : ev.test p stored = .error fault) :
    p.Reports stored fault := by
  obtain ⟨candidates, hvalue, -⟩ := Predicate.exists_list_of_isIn hop
  rw [test_isIn ev hop hvalue] at h
  obtain ⟨v, hv, hequal⟩ := exists_of_any_eq_error h
  obtain ⟨hscalar, hdiscerns⟩ := discerns_candidate hop hvalue hv
  obtain rfl := hdiscerns.of_error hequal
  refine .mismatch _ (.inl rfl) (fun _ hlist => ?_) (fun hregion => ?_)
  · have hkind : v.kind = .list := Expectation.kind.inj hlist
    simp [Value.isScalar, hkind, Kind.isScalar] at hscalar
  · rw [hop] at hregion
    contradiction

/-- `GEO_WITHIN` reports a stored value that is no geometry, or that geometries cannot be tested. -/
theorem reports_of_geoWithin (hop : p.operator = .geoWithin) (h : ev.test p stored = .error fault) :
    p.Reports stored fault := by
  obtain ⟨region, hregion⟩ := Predicate.exists_geo_of_geoWithin hop
  have htest : ev.test p stored = geoWithin ev p stored := by simp only [test, hop]
  rw [htest, geoWithin] at h
  cases hgeometry : ev.geometryTest with
  | none =>
    simp only [hgeometry] at h
    obtain rfl := Except.error.inj h
    exact .unsupported hop (by decide)
  | some within =>
    simp only [hgeometry, hregion] at h
    cases stored with
    | geo value =>
      dsimp only at h
      split at h
      · contradiction
      · obtain rfl := Except.error.inj h
        exact .unsupported hop (by decide)
    | _ =>
      obtain rfl := Except.error.inj h
      refine .mismatch _ (.inl rfl) (fun hlist => ?_) (fun _ hkind => ?_)
      · rw [hop] at hlist
        contradiction
      · contradiction

theorem looksInside_of_containing (hop : p.operator = .containing) : p.looksInside = true := by
  cases hselector : p.selector with
  | none => simp [Predicate.looksInside, Predicate.looksAtItems, hop, hselector]
  | some selector =>
    cases selector <;>
      simp [Predicate.looksInside, Predicate.looksAtItems, Predicate.mapPart?, hop, hselector]

/-- Whatever a test reports is about the stored value, or about the test of geometries. -/
theorem reports_of_test (h : ev.test p stored = .error fault) : p.Reports stored fault := by
  cases hop : p.operator with
  | eq | notEq | lt | ltEq | gt | gtEq | between =>
    exact reports_of_isScalarComparison (by rw [hop]; rfl) h
  | startsWith | endsWith => exact reports_of_text (by rw [hop]; rfl) h
  | isIn => exact reports_of_isIn hop h
  | geoWithin => exact reports_of_geoWithin hop h
  | containing => exact reports_of_looksInside (looksInside_of_containing hop) h
  | _ =>
    have hp : p.looksInside = true := by
      simp [Predicate.looksInside, Predicate.looksAtItems, Predicate.mapPart?, hop]
    exact reports_of_looksInside hp h

/-- Only the test of geometries reports anything but kinds. -/
theorem isMismatch_of_test (hop : p.operator ≠ .geoWithin) (h : ev.test p stored = .error fault) :
    fault.IsMismatch := by
  cases reports_of_test h with
  | mismatch expected => exact ⟨expected, _, rfl⟩
  | unsupported hgeo => exact absurd hgeo hop

theorem explains_of_evaluate {r : Record} {e : EvaluationError}
    (h : ev.evaluate r (.leaf p) = .error e) : p.Explains r e := by
  obtain ⟨v, fault, hv, htest, rfl⟩ := evaluate_leaf_eq_error_iff.1 h
  exact ⟨rfl, rfl, v, hv, reports_of_test htest⟩

/-! ## Trees -/

/-- An error of a tree is the error of one of its leaves. -/
theorem exists_leaf_of_evaluate_eq_error {r : Record} {t : PredicateTree} {e : EvaluationError}
    (h : ev.evaluate r t = .error e) : ∃ p ∈ t.leaves, ev.evaluate r (.leaf p) = .error e := by
  induction t using PredicateTree.induction with
  | leaf p => exact ⟨p, List.mem_singleton_self p, h⟩
  | branch c ts ih =>
    rw [PredicateTree.leaves]
    induction ts with
    | nil =>
      rw [evaluate_branch_nil] at h
      contradiction
    | cons t ts ihts =>
      obtain ⟨iht, ihrest⟩ := List.forall_mem_cons.1 ih
      rw [evaluate_branch_cons] at h
      rw [PredicateTree.leavesOf]
      obtain hfirst | ⟨b, -, hothers⟩ := bind_eq_error_iff.1 h
      · obtain ⟨p, hp, hleaf⟩ := iht hfirst
        exact ⟨p, List.mem_append_left _ hp, hleaf⟩
      · split at hothers
        · contradiction
        · obtain ⟨p, hp, hleaf⟩ := ihts ihrest hothers
          exact ⟨p, List.mem_append_right _ hp, hleaf⟩

/-- A predicate has two operands just if its operator takes two, that of `IN` is a list and that of
    `GEO_WITHIN` a region. Every error of evaluating it carries its field and its operator, and says of the
    stored value or of a part of it that it is not of an expected kind, or that geometries cannot be
    tested. Every error of a tree is such an error of one of its leaves. -/
theorem evaluate_error_explained (ev : Evaluator) (r : Record) :
    (∀ p : Predicate,
      (p.value2.isSome = true ↔ p.arity = 2) ∧
      (p.operator = .isIn → ∃ candidates, p.value1 = .list candidates) ∧
      (p.operator = .geoWithin → ∃ region, p.value1 = .geo region) ∧
      ∀ e, ev.evaluate r (.leaf p) = .error e → p.Explains r e) ∧
    ∀ t e, ev.evaluate r t = .error e →
      ∃ p ∈ t.leaves, ev.evaluate r (.leaf p) = .error e ∧ p.Explains r e := by
  constructor
  · intro p
    refine ⟨p.isSome_value2_iff, fun hop => ?_, Predicate.exists_geo_of_geoWithin,
      fun e => explains_of_evaluate⟩
    obtain ⟨candidates, hvalue, -⟩ := Predicate.exists_list_of_isIn hop
    exact ⟨candidates, hvalue⟩
  · intro t e h
    obtain ⟨p, hp, hleaf⟩ := exists_leaf_of_evaluate_eq_error h
    exact ⟨p, hp, hleaf, explains_of_evaluate hleaf⟩

/-- A predicate on the items of a list of numbers. -/
def scoresAbove : Predicate :=
  ⟨"scores", .listValGt, .int 5, none, false, none, rfl⟩

/-- A record with a list of a number, which matches, and a text. -/
def scored : Record :=
  ⟨"k", .ofList [("scores", .list [.int 7, .string "high"])], 1, none⟩

theorem evaluate_error_explained_scored :
    containment.evaluate scored (.branch .or [.leaf scoresAbove]) =
      .error ⟨"scores", .listValGt, .mismatch (.kind .integer) .string⟩ ∧
    ∃ p ∈ [scoresAbove], p.Explains scored ⟨"scores", .listValGt, .mismatch (.kind .integer) .string⟩ := by
  have herror : containment.evaluate scored (.branch .or [.leaf scoresAbove]) =
      .error ⟨"scores", .listValGt, .mismatch (.kind .integer) .string⟩ := by rfl
  obtain ⟨p, hp, -, hexplains⟩ := (evaluate_error_explained containment scored).2 _ _ herror
  exact ⟨herror, p, hp, hexplains⟩

end Evaluator

end Quarry
