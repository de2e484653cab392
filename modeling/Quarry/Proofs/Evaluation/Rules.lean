-- SUMMARY: Every container operator applies the rule for one value to what it looks at.
import Quarry.Evaluation.Basic
import Quarry.Proofs.Evaluation.Comparing

/-!
# Rules for values and for containers

Most operators have a rule for a single value. A scalar operator applies it to the stored value itself, and a
container operator to every item, key or value of the container. The exception is the search for an entry,
which compares every key and then one value. Which part of a container counts is settled by the operator
together with the selector.
-/

namespace Quarry

open Comparison

/-- What a predicate looks at in a map. -/
inductive MapPart where
  | keys
  | values
  /-- The value under a given key. -/
  | entry
  deriving DecidableEq

namespace Predicate

/-- Whether a predicate looks at the items of a list. -/
def looksAtItems (p : Predicate) : Bool :=
  match p.operator, p.selector with
  | .listValContaining, _ | .listValBetween, _ | .listValGt, _ | .listValLtEq, _ => true
  | .containing, none | .containing, some .value => true
  | _, _ => false

/-- What a predicate looks at in a map, if anything. -/
def mapPart? (p : Predicate) : Option MapPart :=
  match p.operator, p.selector with
  | .mapKeysContain, _ | .mapKeysBetween, _ | .containing, some .key => some .keys
  | .mapValuesContain, _ | .mapValBetween, _ | .mapValGt, _ | .containing, some .value => some .values
  | .mapValEqByKey, _ | .containing, some .keyValue => some .entry
  | _, _ => none

/-- Whether a predicate looks inside lists or maps. -/
def looksInside (p : Predicate) : Bool :=
  p.looksAtItems || p.mapPart?.isSome

/-- Whether a predicate looks inside a given value. -/
def reaches (p : Predicate) : Value → Bool
  | .list _ => p.looksAtItems
  | .map _ => p.mapPart?.isSome
  | _ => false

end Predicate

namespace Evaluator

/-- The rule of a predicate for a single value. -/
def rule (p : Predicate) (v : Value) : Compared Bool :=
  match p.operator with
  | .notEq => do return !(← equal p.ignoreCase v p.value1)
  | .lt => do return (← order p.ignoreCase v p.value1).isLT
  | .ltEq | .listValLtEq => do return (← order p.ignoreCase v p.value1).isLE
  | .gt | .listValGt | .mapValGt => do return (← order p.ignoreCase v p.value1).isGT
  | .gtEq => do return (← order p.ignoreCase v p.value1).isGE
  | .between | .listValBetween | .mapKeysBetween | .mapValBetween => do
    between p.ignoreCase v p.value1 (← second p)
  | _ => equal p.ignoreCase v p.value1

variable (ev : Evaluator) {p : Predicate}

/-- A predicate that takes two operands has them. -/
theorem second_eq_ok (h : p.arity = 2) : ∃ w, p.value2 = some w ∧ second p = .ok w := by
  obtain ⟨w, hw⟩ := Option.isSome_iff_exists.1 (p.isSome_value2_iff.2 h)
  exact ⟨w, hw, by rw [second, hw]⟩

theorem arity_of_operator (h : p.operator.arity = 2) : p.arity = 2 := by
  unfold Predicate.arity effectiveArity
  split
  · rfl
  · exact h

/-! ## What is put to the rule -/

/-- A scalar comparison puts the stored value to the rule. -/
theorem test_of_isScalarComparison (h : p.operator.isScalarComparison = true) (v : Value) :
    ev.test p v = rule p v := by
  unfold test rule
  cases hop : p.operator with
  | eq | notEq | lt | ltEq | gt | gtEq | between => rfl
  | _ => simp [hop, Operator.isScalarComparison] at h

theorem test_list (h : p.looksAtItems = true) (items : List Value) :
    ev.test p (.list items) = any (fun v => rule p v) items := by
  unfold Predicate.looksAtItems at h
  split at h
  · next hop => simp only [test, rule, hop, Comparison.list, bind, Except.bind]
  · next hop =>
    obtain ⟨upper, -, hsecond⟩ := second_eq_ok (arity_of_operator (p := p) (by rw [hop]; rfl))
    simp only [test, rule, hop, hsecond, Comparison.list, bind, Except.bind]
  · next hop => simp only [test, rule, hop, Comparison.list, bind, Except.bind]
  · next hop => simp only [test, rule, hop, Comparison.list, bind, Except.bind]
  · next hop hselector => simp only [test, rule, hop, containing, hselector]
  · next hop hselector => simp only [test, rule, hop, containing, hselector]
  · contradiction

theorem test_keys (h : p.mapPart? = some .keys) (entries : List (Value × Value)) :
    ev.test p (.map entries) = any (fun e => rule p e.1) entries := by
  unfold Predicate.mapPart? at h
  split at h
  · next hop => simp only [test, rule, hop, Comparison.map, bind, Except.bind]
  · next hop =>
    obtain ⟨upper, -, hsecond⟩ := second_eq_ok (arity_of_operator (p := p) (by rw [hop]; rfl))
    simp only [test, rule, hop, hsecond, Comparison.map, bind, Except.bind]
  · next hop hselector => simp only [test, rule, hop, containing, hselector]
  all_goals contradiction

theorem test_values (h : p.mapPart? = some .values) (entries : List (Value × Value)) :
    ev.test p (.map entries) = any (fun e => rule p e.2) entries := by
  unfold Predicate.mapPart? at h
  split at h
  all_goals try contradiction
  · next hop => simp only [test, rule, hop, Comparison.map, bind, Except.bind]
  · next hop =>
    obtain ⟨upper, -, hsecond⟩ := second_eq_ok (arity_of_operator (p := p) (by rw [hop]; rfl))
    simp only [test, rule, hop, hsecond, Comparison.map, bind, Except.bind]
  · next hop => simp only [test, rule, hop, Comparison.map, bind, Except.bind]
  · next hop hselector => simp only [test, rule, hop, containing, hselector]

/-- A predicate that looks for an entry compares its value with the second operand. -/
theorem test_entry (h : p.mapPart? = some .entry) :
    ∃ expected, p.value2 = some expected ∧ ∀ entries,
      ev.test p (.map entries) = atKey p.ignoreCase entries p.value1 expected := by
  unfold Predicate.mapPart? at h
  split at h
  all_goals try contradiction
  · next hop =>
    obtain ⟨expected, hexpected, hsecond⟩ := second_eq_ok (arity_of_operator (p := p) (by rw [hop]; rfl))
    exact ⟨expected, hexpected, fun entries => by
      simp only [test, hop, hsecond, Comparison.map, bind, Except.bind]⟩
  · next hop hselector =>
    have harity : p.arity = 2 := by rw [Predicate.arity, effectiveArity, if_pos ⟨hop, hselector⟩]
    obtain ⟨expected, hexpected, hsecond⟩ := second_eq_ok harity
    exact ⟨expected, hexpected, fun entries => by
      simp only [test, hop, containing, hselector, hsecond, bind, Except.bind]⟩

/-- `IN` compares the stored value with every candidate. -/
theorem test_isIn {candidates : List Value} (hop : p.operator = .isIn) (h : p.value1 = .list candidates)
    (stored : Value) : ev.test p stored = any (equal p.ignoreCase stored) candidates := by
  simp only [test, hop, h]

/-! ## What is refused -/

theorem list_of_not_reaches (h : p.looksAtItems = true) {v : Value} (hv : p.reaches v = false) :
    Comparison.list v = .error (.mismatch (.kind .list) v.kind) := by
  cases v with
  | list items => simp [Predicate.reaches, h] at hv
  | _ => rfl

theorem map_of_not_reaches (h : p.mapPart?.isSome = true) {v : Value} (hv : p.reaches v = false) :
    Comparison.map v = .error (.mismatch (.kind .map) v.kind) := by
  cases v with
  | map entries => simp [Predicate.reaches, h] at hv
  | _ => rfl

/-- A predicate that looks inside values refuses one that it does not reach, unless it looks for a part of a
    text. -/
theorem test_of_not_reaches (h : p.looksInside = true) {v : Value} (hv : p.reaches v = false) :
    (∃ expected, ev.test p v = .error (.mismatch expected v.kind)) ∨
      ∃ s, v = .string s ∧ ev.test p v = text occursIn p.ignoreCase v p.value1 := by
  cases hop : p.operator with
  | listValContaining | listValGt | listValLtEq =>
    have hlist := list_of_not_reaches (p := p) (by simp only [Predicate.looksAtItems, hop]) hv
    exact .inl ⟨_, by simp only [test, hop, hlist, bind, Except.bind]; rfl⟩
  | listValBetween =>
    have hlist := list_of_not_reaches (p := p) (by simp only [Predicate.looksAtItems, hop]) hv
    obtain ⟨upper, -, hsecond⟩ := second_eq_ok (arity_of_operator (p := p) (by rw [hop]; rfl))
    exact .inl ⟨_, by simp only [test, hop, hlist, hsecond, bind, Except.bind]; rfl⟩
  | mapKeysContain | mapValuesContain | mapValGt =>
    have hmap := map_of_not_reaches (p := p) (by simp only [Predicate.mapPart?, hop, Option.isSome]) hv
    exact .inl ⟨_, by simp only [test, hop, hmap, bind, Except.bind]; rfl⟩
  | mapKeysBetween | mapValBetween | mapValEqByKey =>
    have hmap := map_of_not_reaches (p := p) (by simp only [Predicate.mapPart?, hop, Option.isSome]) hv
    obtain ⟨upper, -, hsecond⟩ := second_eq_ok (arity_of_operator (p := p) (by rw [hop]; rfl))
    exact .inl ⟨_, by simp only [test, hop, hmap, hsecond, bind, Except.bind]; rfl⟩
  | containing =>
    have htest : ev.test p v = containing p v := by simp only [test, hop]
    rw [htest]
    cases hselector : p.selector with
    | none =>
      cases v with
      | string s => exact .inr ⟨s, rfl, by simp only [containing, hselector]⟩
      | list items => simp [Predicate.reaches, Predicate.looksAtItems, hop, hselector] at hv
      | _ => exact .inl ⟨_, by simp only [containing, hselector]; rfl⟩
    | some selector =>
      left
      cases selector with
      | key | keyValue =>
        cases v with
        | map entries => simp [Predicate.reaches, Predicate.mapPart?, hop, hselector] at hv
        | _ => exact ⟨_, by simp only [containing, hselector]; rfl⟩
      | value =>
        cases v with
        | list items => simp [Predicate.reaches, Predicate.looksAtItems, hop, hselector] at hv
        | map entries => simp [Predicate.reaches, Predicate.mapPart?, hop, hselector] at hv
        | _ => exact ⟨_, by simp only [containing, hselector]; rfl⟩
  | _ => simp [Predicate.looksInside, Predicate.looksAtItems, Predicate.mapPart?, hop] at h

/-! ## What the rule refuses -/

/-- The rule has an outcome for the values that compare with the first operand. -/
theorem discerns_rule (h : p.operator.domain = .scalar ∨ p.operator.domain = .ordered) :
    Discerns (fun v => rule p v) p.value1.kind := by
  have hequal (hdomain : p.operator.domain = .scalar) :
      Discerns (equal p.ignoreCase · p.value1) p.value1.kind :=
    discerns_equal (Predicate.isScalar_of_scalar hdomain).1 p.ignoreCase
  have horder (hdomain : p.operator.domain = .ordered) :
      Discerns (order p.ignoreCase · p.value1) p.value1.kind :=
    discerns_order (Predicate.isOrdered_of_ordered hdomain).1 p.ignoreCase
  have hbetween (hdomain : p.operator.domain = .ordered) (harity : p.operator.arity = 2) :
      Discerns (fun v => do between p.ignoreCase v p.value1 (← second p)) p.value1.kind := by
    obtain ⟨upper, hupper, hsecond⟩ := second_eq_ok (arity_of_operator harity)
    obtain ⟨hlower, hbounds⟩ := Predicate.isOrdered_of_ordered hdomain
    simp only [hsecond, bind, Except.bind]
    exact discerns_between hlower (hbounds upper hupper).1 (hbounds upper hupper).2 p.ignoreCase
  cases hop : p.operator with
  | eq | containing | listValContaining | mapKeysContain | mapValuesContain | mapValEqByKey =>
    simp only [rule, hop]
    exact hequal (by rw [hop]; rfl)
  | notEq =>
    simp only [rule, hop]
    exact (hequal (by rw [hop]; rfl)).map (!·)
  | lt =>
    simp only [rule, hop]
    exact (horder (by rw [hop]; rfl)).map Ordering.isLT
  | ltEq | listValLtEq =>
    simp only [rule, hop]
    exact (horder (by rw [hop]; rfl)).map Ordering.isLE
  | gt | listValGt | mapValGt =>
    simp only [rule, hop]
    exact (horder (by rw [hop]; rfl)).map Ordering.isGT
  | gtEq =>
    simp only [rule, hop]
    exact (horder (by rw [hop]; rfl)).map Ordering.isGE
  | between | listValBetween | mapKeysBetween | mapValBetween =>
    simp only [rule, hop]
    exact hbetween (by rw [hop]; rfl) (by rw [hop]; rfl)
  | startsWith | endsWith | isIn | geoWithin => simp [hop, Operator.domain] at h

theorem domain_of_isScalarComparison (h : p.operator.isScalarComparison = true) :
    p.operator.domain = .scalar ∨ p.operator.domain = .ordered := by
  cases hop : p.operator <;> simp_all [Operator.isScalarComparison, Operator.domain]

theorem domain_of_looksInside (h : p.looksInside = true) :
    p.operator.domain = .scalar ∨ p.operator.domain = .ordered := by
  cases hop : p.operator <;>
    simp_all [Predicate.looksInside, Predicate.looksAtItems, Predicate.mapPart?, Operator.domain]

theorem domain_of_entry (h : p.mapPart? = some .entry) : p.operator.domain = .scalar := by
  cases hop : p.operator <;> simp_all [Predicate.mapPart?, Operator.domain]

/-- A search for an entry compares keys with the first operand. -/
theorem discerns_key (h : p.mapPart? = some .entry) :
    Discerns (equal false · p.value1) p.value1.kind :=
  discerns_equal (Predicate.isScalar_of_scalar (domain_of_entry h)).1 false

/-- A search for an entry compares the value that it finds with the second operand. -/
theorem discerns_expected (h : p.mapPart? = some .entry) {expected : Value}
    (hexpected : p.value2 = some expected) :
    Discerns (equal p.ignoreCase · expected) expected.kind :=
  discerns_equal ((Predicate.isScalar_of_scalar (domain_of_entry h)).2 expected hexpected) p.ignoreCase

/-- A comparison with a candidate of `IN` has an outcome for the values that compare with it. -/
theorem discerns_candidate (hop : p.operator = .isIn) {candidates : List Value}
    (h : p.value1 = .list candidates) {candidate : Value} (hcandidate : candidate ∈ candidates) :
    candidate.isScalar = true ∧ Discerns (equal p.ignoreCase · candidate) candidate.kind := by
  obtain ⟨_, hvalue, hcandidates⟩ := Predicate.exists_list_of_isIn hop
  obtain rfl := Value.list.inj (hvalue.symm.trans h)
  have hscalar := (candidatesFault?_eq_none_iff.1 hcandidates).1 candidate hcandidate
  exact ⟨hscalar, discerns_equal hscalar p.ignoreCase⟩

end Evaluator

end Quarry
