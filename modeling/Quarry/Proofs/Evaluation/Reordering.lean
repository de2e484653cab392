-- SUMMARY: The order of items, entries and candidates does not change what a predicate says of a record.
import Quarry.Proofs.Evaluation.Branches
import Quarry.Proofs.Evaluation.Rules

/-!
# Containers in another order

A predicate that looks inside a container looks at all that it is meant to look at, so two orders of the same
items or entries have the same outcome, or in both something is found that does not compare; which of the two
is a matter of the kinds alone. The value under a key is that of the first entry with the key, so there the
entries with that key have to stay in order. The candidates of `IN` are looked at in the same way, and are
well formed in every order.
-/

namespace Quarry

open Comparison

/-- The error is about kinds that do not go together. -/
def EvaluationError.IsMismatch (e : EvaluationError) : Prop :=
  e.fault.IsMismatch

namespace Predicate

/-- The other value has the same items, or the same entries, in another order. Entries with a key that the
    predicate looks for stay in order among themselves. -/
inductive Reorders (p : Predicate) : Value → Value → Prop
  | list {items items' : List Value} (h : items.Perm items') : Reorders p (.list items) (.list items')
  | map {entries entries' : List (Value × Value)} (h : entries.Perm entries')
      (hkept : p.mapPart? = some .entry →
        entries.filter (hasKey p.value1) = entries'.filter (hasKey p.value1)) :
    Reorders p (.map entries) (.map entries')

/-- The predicate compares a part of a stored value with one of its operands. For a range this is the lower
    bound: the upper one compares with the same values. -/
inductive Compares (p : Predicate) : (stored part operand : Value) → Prop
  | item {items : List Value} {v : Value} (hp : p.looksAtItems = true) (hv : v ∈ items) :
    Compares p (.list items) v p.value1
  | key {entries : List (Value × Value)} {e : Value × Value}
      (hp : p.mapPart? = some .keys ∨ p.mapPart? = some .entry) (he : e ∈ entries) :
    Compares p (.map entries) e.1 p.value1
  | value {entries : List (Value × Value)} {e : Value × Value} (hp : p.mapPart? = some .values)
      (he : e ∈ entries) : Compares p (.map entries) e.2 p.value1
  | found {entries : List (Value × Value)} {e : Value × Value} {expected : Value}
      (hp : p.mapPart? = some .entry) (he : entries.find? (hasKey p.value1) = some e)
      (hexpected : p.value2 = some expected) : Compares p (.map entries) e.2 expected

end Predicate

namespace Evaluator

variable (ev : Evaluator) {p : Predicate} {stored stored' : Value}

/-! ## Containers -/

/-- A container that is not looked into is refused. -/
theorem test_of_unreached_container (hp : p.looksInside = true) (hs : p.reaches stored = false)
    (hcontainer : stored.isScalar = false) :
    ∃ fault : ComparisonFault, fault.IsMismatch ∧ ev.test p stored = .error fault := by
  obtain ⟨expected, htest⟩ | ⟨s, hs, -⟩ := test_of_not_reaches ev hp hs
  · exact ⟨_, ⟨expected, stored.kind, rfl⟩, htest⟩
  · rw [hs] at hcontainer
    contradiction

theorem test_alike_of_unreached (hp : p.looksInside = true) (hs : p.reaches stored = false)
    (hs' : p.reaches stored' = false) (hcontainer : stored.isScalar = false)
    (hcontainer' : stored'.isScalar = false) : Alike (ev.test p stored) (ev.test p stored') := by
  obtain ⟨fault, hfault, htest⟩ := test_of_unreached_container ev hp hs hcontainer
  obtain ⟨fault', hfault', htest'⟩ := test_of_unreached_container ev hp hs' hcontainer'
  rw [htest, htest']
  exact .refused hfault hfault'

/-- The order in a container does not matter. -/
theorem test_alike_of_reorders (hp : p.looksInside = true) (h : p.Reorders stored stored') :
    Alike (ev.test p stored) (ev.test p stored') := by
  have hrule := (discerns_rule (domain_of_looksInside hp)).isMismatch
  cases h with
  | list hperm =>
    cases hitems : p.looksAtItems with
    | false => exact test_alike_of_unreached ev hp hitems hitems rfl rfl
    | true =>
      rw [test_list ev hitems, test_list ev hitems]
      exact any_alike_of_perm hperm fun v _ => hrule v
  | @map entries entries' hperm hkept =>
    cases hpart : p.mapPart? with
    | none =>
      -- the predicate is about lists, and says so of any map
      have hreaches (es : List (Value × Value)) : p.reaches (.map es) = false := by
        rw [Predicate.reaches, hpart]
        rfl
      exact test_alike_of_unreached ev hp (hreaches _) (hreaches _) rfl rfl
    | some part =>
      cases part with
      | keys =>
        rw [test_keys ev hpart, test_keys ev hpart]
        exact any_alike_of_perm hperm fun e _ => hrule e.1
      | values =>
        rw [test_values ev hpart, test_values ev hpart]
        exact any_alike_of_perm hperm fun e _ => hrule e.2
      | entry =>
        obtain ⟨expected, hexpected, htest⟩ := test_entry ev hpart
        rw [htest, htest]
        exact atKey_alike_of_perm hperm (hkept hpart) (discerns_key hpart).isMismatch
          (discerns_expected hpart hexpected).isMismatch

/-! ## Parts that do not compare -/

/-- A part that does not compare is reported, whatever else there is. -/
theorem test_of_compares (hp : p.looksInside = true) {part operand : Value}
    (h : p.Compares stored part operand) (hk : part.kind.comparable operand.kind = false) :
    ∃ fault : ComparisonFault, fault.IsMismatch ∧ ev.test p stored = .error fault := by
  have hrule := discerns_rule (domain_of_looksInside hp)
  cases h with
  | item hitems hv =>
    rw [test_list ev hitems]
    exact any_mismatch (fun v _ => hrule.isMismatch v) hv (hrule.refuses _ hk)
  | value hpart he =>
    rw [test_values ev hpart]
    exact any_mismatch (fun e _ => hrule.isMismatch e.2) he (hrule.refuses _ hk)
  | key hpart he =>
    obtain hpart | hpart := hpart
    · rw [test_keys ev hpart]
      exact any_mismatch (fun e _ => hrule.isMismatch e.1) he (hrule.refuses _ hk)
    · obtain ⟨expected, hexpected, htest⟩ := test_entry ev hpart
      rw [htest]
      exact atKey_mismatch (discerns_key hpart) (discerns_expected hpart hexpected) (.inl ⟨he, hk⟩)
  | found hpart he hexpected =>
    obtain ⟨expected, hexpected', htest⟩ := test_entry ev hpart
    obtain rfl := Option.some.inj (hexpected'.symm.trans hexpected)
    rw [htest]
    exact atKey_mismatch (discerns_key hpart) (discerns_expected hpart hexpected) (.inr ⟨he, hk⟩)

/-- If every part that is compared goes with its operand, there is an outcome. -/
theorem test_decided_of_compares (hp : p.looksInside = true) (hreaches : p.reaches stored = true)
    (h : ∀ part operand, p.Compares stored part operand → part.kind.comparable operand.kind = true) :
    ∃ b, ev.test p stored = .ok b := by
  have hrule := discerns_rule (domain_of_looksInside hp)
  cases stored with
  | list items =>
    rw [test_list ev hreaches]
    exact ⟨_, any_of_decided fun v hv => hrule.decides v (h v p.value1 (.item hreaches hv))⟩
  | map entries =>
    obtain ⟨part, hpart⟩ := Option.isSome_iff_exists.1 hreaches
    cases part with
    | keys =>
      rw [test_keys ev hpart]
      exact ⟨_, any_of_decided fun e he => hrule.decides e.1 (h e.1 p.value1 (.key (.inl hpart) he))⟩
    | values =>
      rw [test_values ev hpart]
      exact ⟨_, any_of_decided fun e he => hrule.decides e.2 (h e.2 p.value1 (.value hpart he))⟩
    | entry =>
      obtain ⟨expected, hexpected, htest⟩ := test_entry ev hpart
      have hkeys : ∀ e ∈ entries, ∃ b, equal false e.1 p.value1 = .ok b := fun e he =>
        (discerns_key hpart).decides e.1 (h e.1 p.value1 (.key (.inr hpart) he))
      rw [htest, atKey_of_decided hkeys]
      cases hfound : entries.find? (hasKey p.value1) with
      | none => exact ⟨false, rfl⟩
      | some e =>
        exact (discerns_expected hpart hexpected).decides e.2
          (h e.2 expected (.found hpart hfound hexpected))
  | _ => contradiction

/-! ## Records -/

variable {q : Predicate} {r r' : Record}

theorem agree_of_alike (hr : r.resolve? p.field = some stored) (hr' : r'.resolve? q.field = some stored')
    (h : Alike (ev.test p stored) (ev.test q stored')) :
    Agree EvaluationError.IsMismatch (ev.evaluate r (.leaf p)) (ev.evaluate r' (.leaf q)) := by
  rw [accepts_of_resolve ev hr, accepts_of_resolve ev hr']
  exact h.mapError (fun _ hfault => hfault) (fun _ hfault => hfault)

/-- Predicates on one field agree on a record if they agree on the value that it has there, if any. -/
theorem agree_of_tests (hfield : q.field = p.field)
    (h : ∀ stored, r.resolve? p.field = some stored → Alike (ev.test p stored) (ev.test q stored)) :
    Agree EvaluationError.IsMismatch (ev.evaluate r (.leaf p)) (ev.evaluate r (.leaf q)) := by
  cases hr : r.resolve? p.field with
  | none =>
    rw [evaluate_of_missing ev hr, evaluate_of_missing ev (hfield ▸ hr)]
    exact .decided false
  | some stored => exact agree_of_alike ev hr (hfield ▸ hr) (h stored hr)

theorem evaluate_mismatch (hr : r.resolve? p.field = some stored)
    (h : ∃ fault : ComparisonFault, fault.IsMismatch ∧ ev.test p stored = .error fault) :
    ∃ e : EvaluationError, e.IsMismatch ∧ ev.evaluate r (.leaf p) = .error e := by
  obtain ⟨fault, hfault, htest⟩ := h
  exact ⟨⟨p.field, p.operator, fault⟩, hfault,
    evaluate_leaf_eq_error_iff.2 ⟨stored, fault, hr, htest, rfl⟩⟩

theorem evaluate_decided (hr : r.resolve? p.field = some stored) (h : ∃ b, ev.test p stored = .ok b) :
    ∃ b, ev.evaluate r (.leaf p) = .ok b := by
  obtain ⟨b, htest⟩ := h
  refine ⟨b, ?_⟩
  rw [accepts_of_resolve ev hr, mapError_eq_ok_iff]
  exact htest

/-! ## Candidates -/

variable {candidates others : List Value}

/-- Texts are candidates in every order. -/
theorem comparesText_of_perm (hperm : candidates.Perm others) (selector : Option Selector)
    (value2 : Option Value) : comparesText .isIn selector (.list candidates) value2 =
      comparesText .isIn selector (.list others) value2 := by
  have hempty : candidates.isEmpty = others.isEmpty := by
    rw [Bool.eq_iff_iff, List.isEmpty_iff_length_eq_zero, List.isEmpty_iff_length_eq_zero, hperm.length_eq]
  rw [comparesText_isIn, comparesText_isIn, hempty, hperm.all_eq]

/-- The candidates of `IN` are well formed in every order. -/
theorem exists_build_of_perm (hop : p.operator = .isIn) (hvalue : p.value1 = .list candidates)
    (hperm : candidates.Perm others) :
    ∃ q : Predicate, q.condition = { p.condition with value1 := some (.list others) } := by
  have hp := p.meets
  have hcandidates : candidatesFault? candidates = none := by
    simpa [domainFault?, hop, hvalue, Operator.domain] using p.domainFault?_eq_none
  have hothers : candidatesFault? others = none := by
    obtain ⟨hscalars, hfamily⟩ := candidatesFault?_eq_none_iff.1 hcandidates
    refine candidatesFault?_eq_none_iff.2 ⟨fun v hv => hscalars v (hperm.mem_iff.2 hv), ?_⟩
    exact fun v hv w hw => hfamily v (hperm.mem_iff.2 hv) w (hperm.mem_iff.2 hw)
  have hmeets : Condition.Meets { p.condition with value1 := some (.list others) } (.list others) := by
    refine { hp with metadata := fun hfield => ?_, domain := ?_, ignoreCase := fun hcase => ?_ }
    · have hfault := hp.metadata hfield
      simp [Predicate.condition, hop, metadataFault?, Operator.isScalarComparison] at hfault
    · simpa [Predicate.condition, hop, domainFault?, Operator.domain] using hothers
    · have htext := hp.ignoreCase hcase
      rw [hvalue] at htext
      simp only [Predicate.condition, hop] at htext ⊢
      rw [← comparesText_of_perm hperm]
      exact htext
  obtain ⟨q, hq⟩ := Condition.exists_build_iff.2 ((Condition.fault?_eq_none_iff rfl).2 hmeets)
  exact ⟨q, Condition.build_eq_ok_iff.1 hq⟩

/-- The only candidates that are reported are those of a kind that does not go with the stored value. -/
theorem isMismatch_of_candidate (hop : p.operator = .isIn) (hvalue : p.value1 = .list candidates)
    (stored : Value) : ∀ c ∈ candidates, ∀ fault,
      equal p.ignoreCase stored c = .error fault → fault.IsMismatch :=
  fun _ hc => (discerns_candidate hop hvalue hc).2.isMismatch stored

/-- The order of the candidates does not matter. -/
theorem evaluate_isIn_alike (hop : p.operator = .isIn) (hvalue : p.value1 = .list candidates)
    (hperm : candidates.Perm others)
    (hq : q.condition = { p.condition with value1 := some (.list others) }) (r : Record) :
    Agree EvaluationError.IsMismatch (ev.evaluate r (.leaf p)) (ev.evaluate r (.leaf q)) := by
  have hfield : q.field = p.field := congrArg Condition.field hq
  have hop' : q.operator = .isIn := (congrArg Condition.operator hq).trans hop
  have hvalue' : q.value1 = .list others := Option.some.inj (congrArg Condition.value1 hq)
  have hcase : q.ignoreCase = p.ignoreCase := congrArg Condition.ignoreCase hq
  refine agree_of_tests ev hfield fun stored _ => ?_
  rw [test_isIn ev hop hvalue, test_isIn ev hop' hvalue', hcase]
  exact any_alike_of_perm hperm (isMismatch_of_candidate hop hvalue stored)

/-- A candidate that does not compare is reported, also if another one is equal to the stored value. -/
theorem test_isIn_mismatch (hop : p.operator = .isIn) (hvalue : p.value1 = .list candidates)
    {candidate : Value} (hc : candidate ∈ candidates) (hk : stored.kind.comparable candidate.kind = false) :
    ∃ fault : ComparisonFault, fault.IsMismatch ∧ ev.test p stored = .error fault := by
  rw [test_isIn ev hop hvalue]
  exact any_mismatch (isMismatch_of_candidate hop hvalue stored) hc
    ((discerns_candidate hop hvalue hc).2.refuses stored hk)

theorem test_isIn_decided (hop : p.operator = .isIn) (hvalue : p.value1 = .list candidates)
    (h : ∀ c ∈ candidates, stored.kind.comparable c.kind = true) : ∃ b, ev.test p stored = .ok b := by
  rw [test_isIn ev hop hvalue]
  exact ⟨_, any_of_decided fun c hc => (discerns_candidate hop hvalue hc).2.decides stored (h c hc)⟩

/-! ## Evaluation -/

/-- A predicate that looks inside containers has the same outcome for the items or entries in any order, or
    reports kinds that do not go together for both; only entries with the key that it looks for have to stay
    in order. It reports a part that does not compare even if another part matches, and if all parts compare
    it has an outcome. The same goes for the candidates of `IN`, which can be given in any order. -/
theorem evaluate_unordered (ev : Evaluator) :
    (∀ (p : Predicate) (r : Record) (stored : Value), p.looksInside = true →
      r.resolve? p.field = some stored →
      (∀ (r' : Record) (stored' : Value), r'.resolve? p.field = some stored' → p.Reorders stored stored' →
        Agree EvaluationError.IsMismatch (ev.evaluate r (.leaf p)) (ev.evaluate r' (.leaf p))) ∧
      (∀ part operand, p.Compares stored part operand → part.kind.comparable operand.kind = false →
        ∃ e : EvaluationError, e.IsMismatch ∧ ev.evaluate r (.leaf p) = .error e) ∧
      (p.reaches stored = true →
        (∀ part operand, p.Compares stored part operand → part.kind.comparable operand.kind = true) →
        ∃ b, ev.evaluate r (.leaf p) = .ok b)) ∧
    ∀ (p : Predicate) (candidates others : List Value), p.operator = .isIn →
      p.value1 = .list candidates → candidates.Perm others →
      (∃ q, Condition.build { p.condition with value1 := some (.list others) } = .ok q ∧
        ∀ r, Agree EvaluationError.IsMismatch (ev.evaluate r (.leaf p)) (ev.evaluate r (.leaf q))) ∧
      ∀ r stored, r.resolve? p.field = some stored →
        ((∃ c ∈ candidates, stored.kind.comparable c.kind = false) →
          ∃ e : EvaluationError, e.IsMismatch ∧ ev.evaluate r (.leaf p) = .error e) ∧
        ((∀ c ∈ candidates, stored.kind.comparable c.kind = true) →
          ∃ b, ev.evaluate r (.leaf p) = .ok b) := by
  constructor
  · intro p r stored hp hr
    refine ⟨fun r' stored' hr' h => ?_, fun part operand h hk => ?_, fun hreaches h => ?_⟩
    · exact agree_of_alike ev hr hr' (test_alike_of_reorders ev hp h)
    · exact evaluate_mismatch ev hr (test_of_compares ev hp h hk)
    · exact evaluate_decided ev hr (test_decided_of_compares ev hp hreaches h)
  · intro p candidates others hop hvalue hperm
    constructor
    · obtain ⟨q, hq⟩ := exists_build_of_perm hop hvalue hperm
      refine ⟨q, ?_, evaluate_isIn_alike ev hop hvalue hperm hq⟩
      rw [← hq]
      exact q.build_condition
    · intro r stored hr
      constructor
      · rintro ⟨c, hc, hk⟩
        exact evaluate_mismatch ev hr (test_isIn_mismatch ev hop hvalue hc hk)
      · intro h
        exact evaluate_decided ev hr (test_isIn_decided ev hop hvalue h)

/-- A predicate on the value under a key. -/
def limited : Predicate :=
  ⟨"limits", .mapValEqByKey, .string "cpu", some (.int 2), false, none, rfl⟩

/-- A predicate with two candidates. -/
def sized : Predicate :=
  ⟨"size", .isIn, .list [.string "s", .string "m"], none, true, none, rfl⟩

/-- A record with the given limits. -/
def limitedTo (entries : List (Value × Value)) : Record :=
  ⟨"k", .ofList [("limits", .map entries), ("size", .int 3)], 1, none⟩

/-- Limits with two entries for a key, of which the first one counts. -/
def limits : List (Value × Value) :=
  [(.string "cpu", .int 2), (.string "ram", .int 8), (.string "cpu", .int 4)]

theorem evaluate_unordered_limits :
    containment.evaluate (limitedTo limits) (.leaf limited) = .ok true ∧
    Agree EvaluationError.IsMismatch (containment.evaluate (limitedTo limits) (.leaf limited))
      (containment.evaluate
        (limitedTo [(.string "ram", .int 8), (.string "cpu", .int 2), (.string "cpu", .int 4)])
        (.leaf limited)) ∧
    (∃ e : EvaluationError, e.IsMismatch ∧
      containment.evaluate (limitedTo (limits ++ [(.bool true, .int 8)])) (.leaf limited) = .error e) ∧
    (∃ q, Condition.build { sized.condition with value1 := some (.list [.string "m", .string "s"]) } = .ok q ∧
      ∀ r, Agree EvaluationError.IsMismatch (containment.evaluate r (.leaf sized))
        (containment.evaluate r (.leaf q))) ∧
    ∃ e : EvaluationError, e.IsMismatch ∧ containment.evaluate (limitedTo []) (.leaf sized) = .error e := by
  obtain ⟨hcontainers, hcandidates⟩ := evaluate_unordered containment
  obtain ⟨hin, hother⟩ := hcandidates sized [.string "s", .string "m"] [.string "m", .string "s"] rfl rfl
    (.swap _ _ _)
  refine ⟨by rfl, ?_, ?_, hin, ?_⟩
  · exact (hcontainers limited _ _ rfl (by rfl)).1 _ _ (by rfl) (.map (.swap _ _ _) fun _ => by rfl)
  · exact (hcontainers limited _ _ rfl (by rfl)).2.1 (.bool true) (.string "cpu")
      (.key (.inr rfl) (List.mem_append_right _ List.mem_cons_self)) rfl
  · exact (hother (limitedTo []) (.int 3) (by rfl)).1 ⟨.string "s", List.mem_cons_self, rfl⟩

end Evaluator

end Quarry
