-- SUMMARY: What validation has established about a predicate.
import Quarry.Predicate.Basic

/-!
# Well-formed predicates

Validation goes through a list of demands and reports the first that is not met, so a condition without a
fault meets all of them. What evaluation relies on follows from these: there is a second operand where one is
needed, and the operands are of kinds that the operator can compare with.
-/

namespace Quarry

/-! ## Comparable kinds -/

/-- The kind, or integer for both kinds of numbers. -/
def Kind.family (k : Kind) : Kind :=
  if k.isNumeric then .integer else k

/-- Values compare if their kinds are of one family. -/
theorem Kind.comparable_iff {k l : Kind} : k.comparable l = true ↔ k.family = l.family := by
  cases k <;> cases l <;> decide

/-- Numbers and texts have an order. -/
def Kind.isOrdered (k : Kind) : Bool :=
  k.isNumeric || k == .string

theorem Kind.isScalar_of_isOrdered {k : Kind} (h : k.isOrdered = true) : k.isScalar = true := by
  cases k <;> first | rfl | contradiction

theorem Kind.family_eq_of_isOrdered {k l : Kind} (hk : k.isOrdered = true) (hl : l.isOrdered = true)
    (h : k.isNumeric = l.isNumeric) : k.family = l.family := by
  cases k <;> cases l <;> first | rfl | contradiction

/-! ## Conditions -/

theorem effectiveArity_cases (operator : Operator) (selector : Option Selector) :
    effectiveArity operator selector = 1 ∨ effectiveArity operator selector = 2 := by
  unfold effectiveArity
  split
  · exact .inr rfl
  · cases operator <;> simp [Operator.arity]

/-- The demands on a condition with the given first operand. -/
structure Condition.Meets (c : Condition) (value1 : Value) : Prop where
  field : c.field ≠ ""
  selector : c.selector ≠ none → c.operator = .containing
  operands : c.value2.isSome = true ↔ effectiveArity c.operator c.selector = 2
  metadata : isMetadataField c.field = true → metadataFault? c.operator value1 c.value2 = none
  domain : domainFault? c.operator value1 c.value2 = none
  ignoreCase : c.ignoreCase = true → comparesText c.operator c.selector value1 c.value2 = true

/-- A check that is passed leads to the next one. -/
theorem ite_some_eq_none_iff {α : Type} {b : Prop} [Decidable b] {a : α} {x : Option α} :
    (if b then some a else x) = none ↔ ¬ b ∧ x = none := by
  split <;> simp [*]

/-- The check of the number of operands. -/
theorem isSome_iff_of_arity {arity : Nat} (harity : arity = 1 ∨ arity = 2) (value2 : Option Value) :
    (value2.isSome = true ↔ arity = 2) ↔
      ¬ (arity = 2 ∧ value2.isNone = true) ∧ ¬ (arity = 1 ∧ value2.isSome = true) := by
  rcases harity with rfl | rfl <;> cases value2 <;> simp

/-- A condition with a first operand has no fault just if it meets all demands. -/
theorem Condition.fault?_eq_none_iff {c : Condition} {value1 : Value} (h : c.value1 = some value1) :
    c.fault? = none ↔ c.Meets value1 := by
  have hoperands := isSome_iff_of_arity (effectiveArity_cases c.operator c.selector) c.value2
  rw [Condition.fault?, ite_some_eq_none_iff, h]
  dsimp only [operandsFault?]
  rw [ite_some_eq_none_iff, ite_some_eq_none_iff, ite_some_eq_none_iff]
  simp only [Option.orElse_eq_orElse, Option.orElse_eq_or, Option.or_eq_none_iff]
  constructor
  · rintro ⟨hfield, hselector, htwo, hone, hmetadata, hdomain, hcase⟩
    refine ⟨hfield, ?_, hoperands.2 ⟨htwo, hone⟩, ?_, hdomain, ?_⟩
    · simpa [Option.isSome_iff_ne_none] using hselector
    · simpa using hmetadata
    · simpa using hcase
  · rintro ⟨hfield, hselector, hcount, hmetadata, hdomain, hcase⟩
    refine ⟨hfield, ?_, (hoperands.1 hcount).1, (hoperands.1 hcount).2, ?_, hdomain, ?_⟩
    · simpa [Option.isSome_iff_ne_none] using hselector
    · simpa using hmetadata
    · simpa using hcase

/-! ## Single demands -/

section

variable {operator : Operator} {value1 : Value} {value2 : Option Value}

/-- Metadata fields are compared with integers. -/
theorem metadataFault?_eq_none_iff :
    metadataFault? operator value1 value2 = none ↔
      operator.isScalarComparison = true ∧ value1.kind = .integer ∧
        ∀ v, value2 = some v → v.kind = .integer := by
  rw [metadataFault?, ite_some_eq_none_iff, ite_some_eq_none_iff]
  cases value2 <;> simp

/-- A number or a text is in the domain of every scalar comparison with one operand. -/
theorem domainFault?_of_isOrdered (hop : operator.isScalarComparison = true)
    (h : value1.kind.isOrdered = true) : domainFault? operator value1 none = none := by
  cases value1 with
  | int _ | float _ | string _ => cases operator <;> first | rfl | contradiction
  | _ => contradiction

/-- A scalar is in the domain of equality. -/
theorem domainFault?_eq_of_isScalar (h : value1.isScalar = true) : domainFault? .eq value1 none = none := by
  simp [domainFault?, Operator.domain, h]

/-- A scalar first operand decides whether text is compared, unless it is a key. -/
theorem comparesText_of_isScalar (hop : operator ≠ .mapValEqByKey) (h : value1.isScalar = true) :
    comparesText operator none value1 value2 = true ↔ value1.kind = .string := by
  unfold comparesText
  cases value1 <;> simp_all [Value.isScalar, Value.kind, Kind.isScalar]

/-- The candidates of `IN` are text if there are any and all of them are. -/
theorem comparesText_isIn {candidates : List Value} (selector : Option Selector) :
    comparesText .isIn selector (.list candidates) value2 =
      (!candidates.isEmpty && candidates.all (·.kind == .string)) := by
  simp [comparesText]

end

/-! ## Predicates -/

namespace Predicate

/-- A predicate is built from its parts. -/
theorem build_condition (p : Predicate) : p.condition.build = .ok p := by
  unfold condition
  rw [Condition.build]
  split
  · rfl
  · next fault h => exact absurd (p.wellFormed.symm.trans h) (by simp)

/-- A predicate meets all demands. -/
theorem meets (p : Predicate) : p.condition.Meets p.value1 :=
  (Condition.fault?_eq_none_iff rfl).1 p.wellFormed

/-- There is a second operand just if the operator takes two. -/
theorem isSome_value2_iff (p : Predicate) : p.value2.isSome = true ↔ p.arity = 2 :=
  p.meets.operands

/-- The operands of a predicate are in the domain of its operator. -/
theorem domainFault?_eq_none (p : Predicate) : domainFault? p.operator p.value1 p.value2 = none :=
  p.meets.domain

/-- Selectors are for `CONTAINING`. -/
theorem selector_eq_none {p : Predicate} (h : p.operator ≠ .containing) : p.selector = none :=
  Classical.byContradiction fun hne => h (p.meets.selector hne)

variable {p : Predicate}

/-- The operands of an operator on scalars are scalars. -/
theorem isScalar_of_scalar (h : p.operator.domain = .scalar) :
    p.value1.isScalar = true ∧ ∀ v, p.value2 = some v → v.isScalar = true := by
  have hdomain := p.domainFault?_eq_none
  simp only [domainFault?, h, Option.map_eq_none_iff, List.find?_eq_none] at hdomain
  refine ⟨by simpa using hdomain p.value1 (by simp), fun v hv => ?_⟩
  simpa using hdomain v (by simp [hv])

/-- The operands of an operator on ordered values are numbers, or they are texts. -/
theorem isOrdered_of_ordered (h : p.operator.domain = .ordered) :
    p.value1.kind.isOrdered = true ∧
      ∀ v, p.value2 = some v → v.kind.isOrdered = true ∧ v.kind.family = p.value1.kind.family := by
  have hdomain := p.domainFault?_eq_none
  simp only [domainFault?, h] at hdomain
  split at hdomain
  · contradiction
  · next hnone =>
    have hordered : ∀ v, v = p.value1 ∨ p.value2 = some v → v.kind.isOrdered = true := by
      intro v hv
      have hmem : v ∈ p.value1 :: p.value2.toList := by
        simpa [eq_comm] using hv
      rw [Kind.isOrdered, Bool.or_eq_true, Classical.or_iff_not_imp_left]
      simpa [Value.isNumeric] using List.find?_eq_none.1 hnone v hmem
    refine ⟨hordered _ (.inl rfl), fun v hv => ⟨hordered v (.inr hv), ?_⟩⟩
    have hsame : p.value1.isNumeric = v.isNumeric := by simpa [hv] using hdomain
    exact Kind.family_eq_of_isOrdered (hordered v (.inr hv)) (hordered _ (.inl rfl)) hsame.symm

/-- The operand of an operator on texts is a text. -/
theorem kind_of_text (h : p.operator.domain = .text) : p.value1.kind = .string := by
  have hdomain := p.domainFault?_eq_none
  simp only [domainFault?, h] at hdomain
  split at hdomain
  · assumption
  · contradiction

/-- The operand of `GEO_WITHIN` is a geometry. -/
theorem exists_geo_of_geoWithin (h : p.operator = .geoWithin) : ∃ g, p.value1 = .geo g := by
  have hdomain := p.domainFault?_eq_none
  rw [h] at hdomain
  cases hvalue : p.value1 with
  | geo g => exact ⟨g, rfl⟩
  | _ =>
    rw [hvalue] at hdomain
    contradiction

/-- The operand of `IN` is a list of candidates without a fault. -/
theorem exists_list_of_isIn (h : p.operator = .isIn) :
    ∃ candidates, p.value1 = .list candidates ∧ candidatesFault? candidates = none := by
  have hdomain := p.domainFault?_eq_none
  rw [h] at hdomain
  cases hvalue : p.value1 with
  | list candidates =>
    rw [hvalue] at hdomain
    exact ⟨candidates, rfl, hdomain⟩
  | _ =>
    rw [hvalue] at hdomain
    contradiction

end Predicate

/-! ## Building -/

/-- What is built has the parts that it is built from. -/
theorem Condition.build_eq_ok_iff {c : Condition} {p : Predicate} :
    c.build = .ok p ↔ p.condition = c := by
  constructor
  · intro h
    obtain ⟨field, operator, value1, value2, ignoreCase, selector⟩ := c
    cases value1 with
    | none => contradiction
    | some value1 =>
      rw [Condition.build] at h
      split at h
      · rw [← Except.ok.inj h, Predicate.condition]
      · contradiction
  · rintro rfl
    exact p.build_condition

/-- A condition cannot be built just if something is wrong with it, and the first thing is reported. -/
theorem Condition.build_eq_error_iff {c : Condition} {e : PredicateError} :
    c.build = .error e ↔ ∃ fault, c.fault? = some fault ∧ e = ⟨c.field, c.operator, fault⟩ := by
  obtain ⟨field, operator, value1, value2, ignoreCase, selector⟩ := c
  cases value1 with
  | none =>
    rw [Condition.build, Condition.fault?]
    by_cases hfield : field = "" <;> simp [hfield, eq_comm]
  | some value1 =>
    rw [Condition.build]
    split
    · next hfault => simp [hfault]
    · next fault hfault => simp [hfault, eq_comm]

/-- A predicate can be built just if nothing is wrong with its parts. -/
theorem Condition.exists_build_iff {c : Condition} : (∃ p, c.build = .ok p) ↔ c.fault? = none := by
  constructor
  · rintro ⟨p, hp⟩
    rw [← Condition.build_eq_ok_iff.1 hp]
    exact p.wellFormed
  · intro h
    obtain ⟨field, operator, value1, value2, ignoreCase, selector⟩ := c
    cases value1 with
    | none =>
      rw [Condition.fault?] at h
      split at h <;> contradiction
    | some value1 =>
      exact ⟨⟨field, operator, value1, value2, ignoreCase, selector, h⟩, Condition.build_eq_ok_iff.2 rfl⟩

/-- The condition that compares a field with one operand. -/
def Condition.comparison (field : String) (v : Value) (ignoreCase : Bool) (op : Operator) : Condition :=
  ⟨field, op, some v, none, ignoreCase, none⟩

/-- The parts of a comparison that is built. -/
theorem Condition.parts_of_build_comparison {field : String} {v : Value} {ignoreCase : Bool} {op : Operator}
    {p : Predicate} (hp : (comparison field v ignoreCase op).build = .ok p) :
    p.field = field ∧ p.operator = op ∧ p.value1 = v ∧ p.value2 = none ∧ p.ignoreCase = ignoreCase ∧
      p.selector = none := by
  obtain ⟨hfield, hop, hvalue1, hvalue2, hcase, hselector⟩ := mk.inj (build_eq_ok_iff.1 hp)
  exact ⟨hfield, hop, Option.some.inj hvalue1, hvalue2, hcase, hselector⟩

/-- What is asked of a comparison with a scalar that is in the domain of the operator. -/
theorem Condition.exists_build_comparison_iff {field : String} {v : Value} {ignoreCase : Bool}
    {op : Operator} (harity : effectiveArity op none = 1) (hv : v.isScalar = true)
    (hdomain : domainFault? op v none = none) :
    (∃ p, (comparison field v ignoreCase op).build = .ok p) ↔
      field ≠ "" ∧ (isMetadataField field = true → op.isScalarComparison = true ∧ v.kind = .integer) ∧
        (ignoreCase = true → v.kind = .string) := by
  have hne : op ≠ .mapValEqByKey := by
    rintro rfl
    contradiction
  have htext : comparesText op none v none = true ↔ v.kind = .string := comparesText_of_isScalar hne hv
  rw [exists_build_iff, fault?_eq_none_iff rfl]
  constructor
  · intro h
    refine ⟨h.field, fun hfield => ?_, fun hcase => htext.1 (h.ignoreCase hcase)⟩
    obtain ⟨hscalar, hinteger, -⟩ := metadataFault?_eq_none_iff.1 (h.metadata hfield)
    exact ⟨hscalar, hinteger⟩
  · rintro ⟨hfield, hmetadata, hcase⟩
    refine ⟨hfield, fun h => absurd rfl h, ?_, fun h => ?_, hdomain, fun h => htext.2 (hcase h)⟩
    · simp [comparison, harity]
    · obtain ⟨hscalar, hinteger⟩ := hmetadata h
      exact metadataFault?_eq_none_iff.2 ⟨hscalar, hinteger, by simp [comparison]⟩

/-! ## Candidates -/

/-- Candidates are scalars that compare with one another. -/
theorem candidatesFault?_eq_none_iff {candidates : List Value} :
    candidatesFault? candidates = none ↔
      (∀ v ∈ candidates, v.isScalar = true) ∧
        ∀ v ∈ candidates, ∀ w ∈ candidates, v.kind.family = w.kind.family := by
  unfold candidatesFault?
  split
  · next v hfound =>
    have hv := List.find?_some hfound
    refine iff_of_false (by simp) fun h => ?_
    simp [h.1 v (List.mem_of_find?_eq_some hfound)] at hv
  · next hnone =>
    have hscalars : ∀ v ∈ candidates, v.isScalar = true := by
      simpa using List.find?_eq_none.1 hnone
    rw [and_iff_right hscalars]
    cases candidates with
    | nil => simp
    | cons first rest =>
      simp only [Option.map_eq_none_iff, List.find?_eq_none, Bool.not_eq_true', Bool.not_eq_false,
        Kind.comparable_iff]
      constructor
      · intro h v hv w hw
        exact (h v hv).symm.trans (h w hw)
      · intro h v hv
        exact h first List.mem_cons_self v hv

end Quarry
