-- SUMMARY: What a pushed predicate accepts is what its query selects.
import Quarry.Proofs.Index.Agreement
import Quarry.Proofs.Index.Lookup
import Quarry.Proofs.Predicate.WellFormed
import Quarry.Scan.Plan

/-!
# Pushed predicates

There are four ways in which a predicate becomes a query: a comparison with an integer, `BETWEEN` two
integers, equality with a text, and a region. The query always finds a record that evaluation accepts,
and if it is exact it finds no other. For numbers this holds of records without a double at the field.
-/

namespace Quarry

/-! ## Ways to push -/

/-- The query and its exactness for a predicate that an index of the given type can answer. -/
inductive Predicate.PushesTo (p : Predicate) : IndexType → Pushdown → Prop
  | comparison {n : Int64} (operator : p.operator.isComparison = true) (operand : p.value1 = .int n) :
    PushesTo p .numeric ⟨⟨p.field, p.operator, p.value1, p.value2⟩, true⟩
  | between {lo hi : Int64} (operator : p.operator = .between) (lower : p.value1 = .int lo)
      (upper : p.value2 = some (.int hi)) (successor : hi ≠ Int64.maxValue) :
    PushesTo p .numeric ⟨⟨p.field, .between, .int lo, some (.int (hi + 1))⟩, false⟩
  | text {t : String} (operator : p.operator = .eq) (operand : p.value1 = .string t) :
    PushesTo p .string ⟨⟨p.field, .eq, .string t, p.value2⟩, true⟩
  | region {g : Geometry} (operator : p.operator = .geoWithin) (operand : p.value1 = .geo g) :
    PushesTo p .geo2dSphere ⟨⟨p.field, .geoWithin, .geo g, p.value2⟩, true⟩

namespace Plan

variable {p : Predicate} {d : Pushdown}

theorem exists_int_of_kind {v : Value} (h : (v.kind == .integer) = true) : ∃ n, v = .int n := by
  cases v with
  | int n => exact ⟨n, rfl⟩
  | _ => contradiction

theorem exists_string_of_kind {v : Value} (h : (v.kind == .string) = true) :
    ∃ t, v = .string t := by
  cases v with
  | string t => exact ⟨t, rfl⟩
  | _ => contradiction

theorem pushesTo_comparison (hop : p.operator.isComparison = true)
    (hfits : fits .numeric p = true) (hd : queryFor? .numeric p = some d) :
    p.PushesTo .numeric d := by
  have hkind : (p.value1.kind == .integer) = true := by
    unfold fits at hfits
    rcases Operator.eq_of_isComparison hop with hp | hp | hp | hp | hp
    all_goals
      rw [hp] at hfits
      exact hfits
  obtain ⟨n, hn⟩ := exists_int_of_kind hkind
  rw [queryFor?_of_isComparison hop] at hd
  rw [← Option.some.inj hd]
  exact .comparison hop hn

theorem pushesTo_between (hop : p.operator = .between) (hfits : fits .numeric p = true)
    (hd : queryFor? .numeric p = some d) : p.PushesTo .numeric d := by
  simp only [fits, hop, Bool.and_eq_true, Option.any_eq_true] at hfits
  obtain ⟨hlower, upper, hupper, hkind⟩ := hfits
  obtain ⟨lo, hlo⟩ := exists_int_of_kind hlower
  obtain ⟨hi, rfl⟩ := exists_int_of_kind hkind
  have hmax : hi ≠ Int64.maxValue := by
    rintro rfl
    simp [queryFor?, hop, hupper] at hd
  rw [queryFor?_of_between hop hlo hupper hmax] at hd
  rw [← Option.some.inj hd]
  exact .between hop hlo hupper hmax

theorem pushesTo_numeric (hfits : fits .numeric p = true) (hd : queryFor? .numeric p = some d) :
    p.PushesTo .numeric d := by
  have hop : p.operator.isComparison = true ∨ p.operator = .between := by
    unfold fits at hfits
    cases hp : p.operator <;> simp [hp, Operator.isComparison] at hfits ⊢
  rcases hop with hcomparison | hbetween
  · exact pushesTo_comparison hcomparison hfits hd
  · exact pushesTo_between hbetween hfits hd

theorem pushesTo_string (hfits : fits .string p = true) (hd : queryFor? .string p = some d) :
    p.PushesTo .string d := by
  have hop : p.operator = .eq := by
    unfold fits at hfits
    cases hp : p.operator <;> simp [hp] at hfits ⊢
  simp only [fits, hop] at hfits
  obtain ⟨t, ht⟩ := exists_string_of_kind hfits
  have hquery : queryFor? .string p = some ⟨⟨p.field, .eq, .string t, p.value2⟩, true⟩ := by
    simp only [queryFor?, hop, ht]
  rw [hquery] at hd
  rw [← Option.some.inj hd]
  exact .text hop ht

theorem pushesTo_geo2dSphere (hfits : fits .geo2dSphere p = true)
    (hd : queryFor? .geo2dSphere p = some d) : p.PushesTo .geo2dSphere d := by
  have hop : p.operator = .geoWithin := by
    unfold fits at hfits
    cases hp : p.operator <;> simp [hp] at hfits ⊢
  obtain ⟨g, hg⟩ := Predicate.exists_geo_of_geoWithin hop
  have hquery : queryFor? .geo2dSphere p =
      some ⟨⟨p.field, .geoWithin, .geo g, p.value2⟩, true⟩ := by
    simp only [queryFor?, hop, hg]
  rw [hquery] at hd
  rw [← Option.some.inj hd]
  exact .region hop hg

/-- A predicate is pushed only if an index is on its field, in one of the ways for the type of that
    index. -/
theorem pushesTo_of_pushdown? {catalog : Catalog} {collection : String}
    (h : pushdown? catalog collection p = some d) :
    p.ignoreCase = false ∧ p.isMetadata = false ∧
      ∃ ix, catalog collection p.field = some ix ∧ p.PushesTo ix.type d := by
  unfold pushdown? at h
  split at h
  · contradiction
  · next hguard =>
    simp only [Bool.or_eq_true, not_or, Bool.not_eq_true] at hguard
    obtain ⟨⟨⟨_, hcase⟩, hmetadata⟩, _⟩ := hguard
    obtain ⟨ix, hix, hd⟩ := Option.bind_eq_some_iff.1 h
    split at hd
    · next hfits =>
      refine ⟨hcase, hmetadata, ix, hix, ?_⟩
      cases htype : ix.type with
      | numeric => exact pushesTo_numeric (htype ▸ hfits) (htype ▸ hd)
      | string => exact pushesTo_string (htype ▸ hfits) (htype ▸ hd)
      | geo2dSphere => exact pushesTo_geo2dSphere (htype ▸ hfits) (htype ▸ hd)
    · contradiction

end Plan

/-! ## Tests of texts and points -/

namespace Evaluator

variable {p : Predicate}

theorem equal_string_iff {v : Value} {t : String} :
    Comparison.equal false v (.string t) = .ok true ↔ v = .string t := by
  cases v with
  | string s => simp [Comparison.equal, Comparison.fold]
  | _ => simp [Comparison.equal, Comparison.numeric, Comparison.mismatch, Value.float?, bind,
      Except.bind]

/-- Equality with a text accepts just that text. -/
theorem test_text_iff (ev : Evaluator) {v : Value} {t : String} (hop : p.operator = .eq)
    (ht : p.value1 = .string t) (hcase : p.ignoreCase = false) :
    ev.test p v = .ok true ↔ v = .string t := by
  unfold test
  rw [hop, ht, hcase]
  exact equal_string_iff

/-- `GEO_WITHIN` accepts just the points in the region. -/
theorem test_region_iff (inside : PointTest) {v : Value} {g : Geometry} (hop : p.operator = .geoWithin)
    (hg : p.value1 = .geo g) :
    (ofPoints inside).test p v = .ok true ↔
      ∃ q, v = .geo (.point q) ∧ GeometryTest.ofPoints inside (.point q) g = some true := by
  unfold test
  rw [hop]
  cases v with
  | geo value => cases value <;> simp [geoWithin, ofPoints, GeometryTest.ofPoints, hg]
  | _ => simp [geoWithin, ofPoints, hg]

end Evaluator

/-! ## Selection and acceptance -/

/-- The index is not one of numbers, or the record holds no double at its field. -/
def IndexDescriptor.NoDoubleIn (d : IndexDescriptor) (r : Record) : Prop :=
  d.type = .numeric → ∀ x, r.atPath? d.field ≠ some (.float x)

instance (d : IndexDescriptor) (r : Record) : Decidable (d.NoDoubleIn r) :=
  decidable_of_iff (d.type = .numeric → ((r.atPath? d.field).all (·.kind != .float)) = true) <| by
    apply forall_congr'
    intro _
    cases r.atPath? d.field with
    | none => simp
    | some v => cases v <;> simp [Value.kind]

namespace Predicate.PushesTo

variable {p : Predicate} {ix : IndexDescriptor} {d : Pushdown} {r : Record} {inside : PointTest}

/-- The index can answer the query that is pushed. -/
theorem answers (h : p.PushesTo ix.type d) : SecondaryIndex.Answers ix.type d.query := by
  unfold SecondaryIndex.Answers
  generalize ix.type = type at h
  cases h with
  | comparison hop hn =>
    obtain ⟨range, hrange, _⟩ := SecondaryIndex.range_contains_iff
      (q := ⟨p.field, p.operator, p.value1, p.value2⟩) hop hn
    exact ⟨range, hrange⟩
  | between => exact ⟨_, SecondaryIndex.range_between _ _ _⟩
  | text => exact ⟨_, rfl⟩
  | region => exact ⟨_, rfl⟩

/-- The query is for the field of the predicate. -/
theorem field_eq {type : IndexType} (h : p.PushesTo type d) : d.query.field = p.field := by
  cases h <;> rfl

/-- A comparison of a stored integer holds in the index just if it holds under evaluation. -/
theorem selects_comparison_iff (ev : Evaluator) {v : Value} {k : IndexKey}
    (htype : ix.type = .numeric) (hv : r.resolve? p.field = some v)
    (hkey : SecondaryIndex.key? ix r = some k) (hk : IndexKey.ofValue? .numeric v = some k)
    (hdouble : ∀ x, v ≠ .float x) (hop : p.operator.isComparison = true) {n : Int64}
    (hn : p.value1 = .int n) :
    SecondaryIndex.Selects (.ofPoints inside) ix ⟨p.field, p.operator, p.value1, p.value2⟩ r ↔
      ev.evaluate r (.leaf p) = .ok true := by
  obtain ⟨range, hrange, hagree⟩ := NumberKey.contains_iff_evaluate ev hk hv hop hn
  have hdiscord : ¬ ∃ x, v = .float x ∧ NumberKey.Discord p.operator x n :=
    fun ⟨x, hx, _⟩ => hdouble x hx
  rw [SecondaryIndex.selects_iff_of_range (by simp [htype]) (htype ▸ hrange), hkey,
    ← hagree.2 hdiscord]
  simp

/-- The query finds what evaluation accepts. -/
theorem selects_of_accepted (h : p.PushesTo ix.type d)
    (hpath : r.resolve? p.field = r.atPath? ix.field) (hcase : p.ignoreCase = false)
    (hdouble : ix.NoDoubleIn r)
    (haccepts : (Evaluator.ofPoints inside).evaluate r (.leaf p) = .ok true) :
    SecondaryIndex.Selects (.ofPoints inside) ix d.query r := by
  obtain ⟨v, hv, htest⟩ := (Evaluator.evaluate_leaf_eq_ok_true_iff _).1 haccepts
  have hat : r.atPath? ix.field = some v := hpath.symm.trans hv
  have hkey (k : IndexKey) (hk : IndexKey.ofValue? ix.type v = some k) :
      SecondaryIndex.key? ix r = some k := by
    unfold SecondaryIndex.key?
    rw [hat]
    exact hk
  generalize htype : ix.type = type at h hkey
  cases h with
  | comparison hop hn =>
    obtain ⟨k, hk⟩ := Evaluator.number_of_comparison _ hop hn htest
    have hnot (x : Binary64) : v ≠ .float x := fun hx => hdouble htype x (hx ▸ hat)
    exact (selects_comparison_iff _ htype hv (hkey k hk) hk hnot hop hn).2 haccepts
  | between hop hlo hhi hmax =>
    obtain ⟨k, hk⟩ := Evaluator.number_of_between _ hop hlo hhi htest
    have hin := (NumberKey.contains_of_evaluate_between hk hv hop hlo hhi hmax haccepts).2
      fun ⟨x, hx, _⟩ => hdouble htype x (hx ▸ hat)
    refine (SecondaryIndex.selects_iff_of_range (by simp [htype])
      (htype ▸ SecondaryIndex.range_between _ _ _)).2 ⟨k, hkey k hk, hin⟩
  | @text t hop ht =>
    obtain rfl := (Evaluator.test_text_iff _ hop ht hcase).1 htest
    refine (SecondaryIndex.selects_iff_of_range (by simp [htype])
      (htype ▸ SecondaryIndex.range_text _ _ _)).2 ⟨.string t, hkey _ rfl, ?_⟩
    exact (KeyRange.contains_self_iff _ _).2 rfl
  | @region g hop hg =>
    obtain ⟨q, rfl, hin⟩ := (Evaluator.test_region_iff inside hop hg).1 htest
    refine (SecondaryIndex.selects_iff_of_region htype rfl).2 ⟨q, ?_, hin⟩
    unfold SecondaryIndex.point?
    rw [hat]

/-- An exact query finds only what evaluation accepts. -/
theorem accepted_of_selects (h : p.PushesTo ix.type d) (hexact : d.exact = true)
    (hpath : r.resolve? p.field = r.atPath? ix.field) (hcase : p.ignoreCase = false)
    (hdouble : ix.NoDoubleIn r) (hselects : SecondaryIndex.Selects (.ofPoints inside) ix d.query r) :
    (Evaluator.ofPoints inside).evaluate r (.leaf p) = .ok true := by
  have hvalue (k : IndexKey) (hkey : SecondaryIndex.key? ix r = some k) :
      ∃ v, r.resolve? p.field = some v ∧ r.atPath? ix.field = some v ∧
        IndexKey.ofValue? ix.type v = some k := by
    obtain ⟨v, hat, hk⟩ := Option.bind_eq_some_iff.1 hkey
    exact ⟨v, hpath.trans hat, hat, hk⟩
  generalize htype : ix.type = type at h hvalue
  cases h with
  | @comparison n hop hn =>
    obtain ⟨range, hrange, _⟩ := SecondaryIndex.range_contains_iff
      (q := ⟨p.field, p.operator, p.value1, p.value2⟩) hop hn
    obtain ⟨k, hkey, _⟩ := (SecondaryIndex.selects_iff_of_range (by simp [htype])
      (htype ▸ hrange)).1 hselects
    obtain ⟨v, hv, hat, hk⟩ := hvalue k hkey
    have hnot (x : Binary64) : v ≠ .float x := fun hx => hdouble htype x (hx ▸ hat)
    exact (selects_comparison_iff _ htype hv hkey hk hnot hop hn).1 hselects
  | between => contradiction
  | @text t hop ht =>
    obtain ⟨k, hkey, hin⟩ := (SecondaryIndex.selects_iff_of_range (by simp [htype])
      (htype ▸ SecondaryIndex.range_text _ _ _)).1 hselects
    obtain ⟨v, hv, _, hk⟩ := hvalue k hkey
    obtain rfl := (KeyRange.contains_self_iff _ _).1 hin
    have htext : v = .string t := by
      cases v with
      | string s => simpa [IndexKey.ofValue?] using hk
      | _ => contradiction
    exact (Evaluator.evaluate_leaf_eq_ok_true_iff _).2
      ⟨v, hv, (Evaluator.test_text_iff _ hop ht hcase).2 htext⟩
  | @region g hop hg =>
    obtain ⟨q, hpoint, hin⟩ := (SecondaryIndex.selects_iff_of_region htype rfl).1 hselects
    have hat : r.atPath? ix.field = some (.geo (.point q)) := by
      unfold SecondaryIndex.point? at hpoint
      split at hpoint
      · next hp =>
        rw [← Option.some.inj hpoint]
        exact hp
      · contradiction
    exact (Evaluator.evaluate_leaf_eq_ok_true_iff _).2
      ⟨_, hpath.trans hat, (Evaluator.test_region_iff inside hop hg).2 ⟨q, rfl, hin⟩⟩

end Predicate.PushesTo

end Quarry
