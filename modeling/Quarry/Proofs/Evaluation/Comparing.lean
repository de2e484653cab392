-- SUMMARY: Which comparisons have an outcome, alone and over containers.
import Quarry.Evaluation.Comparison
import Quarry.Proofs.Outcome
import Quarry.Proofs.Predicate.WellFormed

/-!
# Comparisons that have an outcome

Whether a value compares with an operand is a matter of their kinds, and of a value that does not the error
says the kind. A comparison over a container looks at everything in it. It has an outcome just if all that it
looks at compares, and then the outcome is a matter of what there is and not of the order.
-/

namespace Quarry

/-- Values of kinds that do not go together. -/
def ComparisonFault.IsMismatch (fault : ComparisonFault) : Prop :=
  ∃ expected found, fault = .mismatch expected found

namespace Comparison

/-! ## Agreement -/

/-- Both outcomes are the same truth value, or both are errors of one sort. -/
inductive Agree {ε : Type} (sort : ε → Prop) : Except ε Bool → Except ε Bool → Prop
  | decided (b : Bool) : Agree sort (.ok b) (.ok b)
  | refused {e e' : ε} (he : sort e) (he' : sort e') : Agree sort (.error e) (.error e')

/-- Two comparisons agree if they have the same outcome, or both find kinds that do not go together. -/
abbrev Alike : Compared Bool → Compared Bool → Prop :=
  Agree ComparisonFault.IsMismatch

theorem alike_self {x : Compared Bool} (h : ∀ fault, x = .error fault → fault.IsMismatch) : Alike x x := by
  cases x with
  | ok b => exact .decided b
  | error fault => exact .refused (h fault rfl) (h fault rfl)

/-- Outcomes agree also when their errors are told in other words. -/
theorem Agree.mapError {ε δ : Type} {sort : ε → Prop} {sort' : δ → Prop} {x y : Except ε Bool}
    (h : Agree sort x y) {f g : ε → δ} (hf : ∀ e, sort e → sort' (f e)) (hg : ∀ e, sort e → sort' (g e)) :
    Agree sort' (x.mapError f) (y.mapError g) := by
  cases h with
  | decided b => exact .decided b
  | refused he he' => exact .refused (hf _ he) (hg _ he')

/-- Whether a comparison has an outcome and holds. -/
def passes : Compared Bool → Bool
  | .ok b => b
  | .error _ => false

/-! ## Single values -/

/-- The test has an outcome for the values that compare with a kind, and for no others. -/
structure Discerns {α : Type} (test : Value → Compared α) (k : Kind) : Prop where
  decides : ∀ v : Value, v.kind.comparable k = true → ∃ a, test v = .ok a
  refuses : ∀ v : Value, v.kind.comparable k = false → test v = .error (.mismatch (.kind k) v.kind)

section

variable {α β : Type} {test : Value → Compared α} {k : Kind}

theorem Discerns.map (h : Discerns test k) (f : α → β) :
    Discerns (fun v => do return f (← test v)) k := by
  constructor
  · intro v hv
    obtain ⟨a, ha⟩ := h.decides v hv
    exact ⟨f a, by rw [ha]; rfl⟩
  · intro v hv
    rw [h.refuses v hv]
    rfl

/-- The only errors are those of values that do not compare. -/
theorem Discerns.of_error (h : Discerns test k) {v : Value} {fault : ComparisonFault}
    (hv : test v = .error fault) : fault = .mismatch (.kind k) v.kind := by
  cases hk : v.kind.comparable k with
  | true =>
    obtain ⟨a, ha⟩ := h.decides v hk
    rw [ha] at hv
    contradiction
  | false =>
    rw [h.refuses v hk] at hv
    exact (Except.error.inj hv).symm

theorem Discerns.isMismatch (h : Discerns test k) (v : Value) (fault : ComparisonFault)
    (hv : test v = .error fault) : fault.IsMismatch :=
  ⟨.kind k, v.kind, h.of_error hv⟩

end

variable {operand lower upper : Value}

theorem discerns_order (h : operand.kind.isOrdered = true) (ignoreCase : Bool) :
    Discerns (order ignoreCase · operand) operand.kind where
  decides v hv := by
    cases operand <;> cases v <;> first | contradiction | exact ⟨_, rfl⟩
  refuses v hv := by
    cases operand <;> cases v <;> first | contradiction | rfl

theorem discerns_equal (h : operand.isScalar = true) (ignoreCase : Bool) :
    Discerns (equal ignoreCase · operand) operand.kind where
  decides v hv := by
    cases operand <;> cases v <;> first | contradiction | exact ⟨_, rfl⟩
  refuses v hv := by
    cases operand <;> cases v <;> first | contradiction | rfl

/-- A range discerns as each of its bounds does. -/
theorem discerns_between (hlower : lower.kind.isOrdered = true) (hupper : upper.kind.isOrdered = true)
    (hsame : upper.kind.family = lower.kind.family) (ignoreCase : Bool) :
    Discerns (between ignoreCase · lower upper) lower.kind := by
  have hcomparable (v : Value) : v.kind.comparable upper.kind = v.kind.comparable lower.kind := by
    rw [Bool.eq_iff_iff, Kind.comparable_iff, Kind.comparable_iff, hsame]
  constructor
  · intro v hv
    obtain ⟨o, ho⟩ := (discerns_order hlower ignoreCase).decides v hv
    obtain ⟨o', ho'⟩ := (discerns_order hupper ignoreCase).decides v ((hcomparable v).trans hv)
    simp only [between, ho, ho', bind, Except.bind]
    split <;> exact ⟨_, rfl⟩
  · intro v hv
    simp only [between, (discerns_order hlower ignoreCase).refuses v hv, bind, Except.bind]

/-- A text test fails only on values that are not texts, or for the sake of its operand. -/
theorem text_of_error {test : List Char → List Char → Bool} {ignoreCase : Bool} {v : Value}
    {fault : ComparisonFault} (h : text test ignoreCase v operand = .error fault) :
    fault = .mismatch (.kind operand.kind) v.kind := by
  unfold text at h
  split at h
  · contradiction
  · exact (Except.error.inj h).symm

/-! ## Elements -/

section

variable {α : Type} {test : α → Compared Bool} {as bs : List α}

theorem decided_or_refused (test : α → Compared Bool) (as : List α) :
    (∀ a ∈ as, ∃ b, test a = .ok b) ∨ ∃ a ∈ as, ∃ fault, test a = .error fault := by
  induction as with
  | nil => exact .inl (by simp)
  | cons a as ih =>
    cases ha : test a with
    | error fault => exact .inr ⟨a, List.mem_cons_self, fault, ha⟩
    | ok b =>
      obtain hdecided | ⟨a', ha', hrefused⟩ := ih
      · exact .inl (List.forall_mem_cons.2 ⟨⟨b, ha⟩, hdecided⟩)
      · exact .inr ⟨a', List.mem_cons_of_mem _ ha', hrefused⟩

/-- If every element compares, the outcome is whether one passes. -/
theorem any_of_decided (h : ∀ a ∈ as, ∃ b, test a = .ok b) :
    any test as = .ok (as.any fun a => passes (test a)) := by
  induction as with
  | nil => rfl
  | cons a as ih =>
    obtain ⟨⟨b, hb⟩, has⟩ := List.forall_mem_cons.1 h
    rw [any, hb, ih has]
    cases b <;> simp [List.any_cons, hb, passes, bind, Except.bind, pure, Except.pure]

/-- An element that does not compare is found, whatever stands before it. -/
theorem any_of_refused {a : α} {fault : ComparisonFault} (ha : a ∈ as) (h : test a = .error fault) :
    ∃ a' ∈ as, ∃ fault', test a' = .error fault' ∧ any test as = .error fault' := by
  induction as with
  | nil => contradiction
  | cons b as ih =>
    rw [any]
    cases hb : test b with
    | error fault' => exact ⟨b, List.mem_cons_self, fault', hb, rfl⟩
    | ok passed =>
      rcases List.mem_cons.1 ha with rfl | ha
      · rw [h] at hb
        contradiction
      · obtain ⟨a', ha', fault', htest, hany⟩ := ih ha
        exact ⟨a', List.mem_cons_of_mem _ ha', fault', htest, by rw [hany]; rfl⟩

/-- An error over a container is the error of an element. -/
theorem exists_of_any_eq_error {fault : ComparisonFault} (h : any test as = .error fault) :
    ∃ a ∈ as, test a = .error fault := by
  rcases decided_or_refused test as with hdecided | ⟨a, ha, fault', hfault'⟩
  · rw [any_of_decided hdecided] at h
    contradiction
  · obtain ⟨a', ha', fault'', htest, hany⟩ := any_of_refused ha hfault'
    rw [hany] at h
    exact ⟨a', ha', htest.trans h⟩

/-- An element that does not compare makes for a mismatch, also if others pass. -/
theorem any_mismatch {a : α} {fault : ComparisonFault}
    (h : ∀ a ∈ as, ∀ fault, test a = .error fault → fault.IsMismatch) (ha : a ∈ as)
    (htest : test a = .error fault) :
    ∃ fault : ComparisonFault, fault.IsMismatch ∧ any test as = .error fault := by
  obtain ⟨a', ha', fault', htest', hany⟩ := any_of_refused ha htest
  exact ⟨fault', h a' ha' fault' htest', hany⟩

/-- The order of the elements does not matter. -/
theorem any_alike_of_perm (hperm : as.Perm bs)
    (h : ∀ a ∈ as, ∀ fault, test a = .error fault → fault.IsMismatch) :
    Alike (any test as) (any test bs) := by
  rcases decided_or_refused test as with hdecided | ⟨a, ha, fault, hfault⟩
  · have hdecided' : ∀ a ∈ bs, ∃ b, test a = .ok b := fun a ha => hdecided a (hperm.mem_iff.2 ha)
    rw [any_of_decided hdecided, any_of_decided hdecided', hperm.any_eq]
    exact .decided _
  · have h' : ∀ a ∈ bs, ∀ fault, test a = .error fault → fault.IsMismatch :=
      fun a ha => h a (hperm.mem_iff.2 ha)
    obtain ⟨fault₁, hfault₁, hany₁⟩ := any_mismatch h ha hfault
    obtain ⟨fault₂, hfault₂, hany₂⟩ := any_mismatch h' (hperm.mem_iff.1 ha) hfault
    rw [hany₁, hany₂]
    exact .refused hfault₁ hfault₂

end

/-! ## Entries -/

/-- Whether a key is the one that an entry is looked for under. -/
def hasKey (key : Value) (e : Value × Value) : Bool :=
  passes (equal false e.1 key)

section

variable {ignoreCase : Bool} {entries others : List (Value × Value)} {key expected : Value}

/-- If every key compares, the value of the first entry with the key decides. -/
theorem atKey_of_decided (h : ∀ e ∈ entries, ∃ b, equal false e.1 key = .ok b) :
    atKey ignoreCase entries key expected =
      match entries.find? (hasKey key) with
      | some e => equal ignoreCase e.2 expected
      | none => .ok false := by
  have hkeys : ∀ e ∈ entries,
      (do return (← equal false e.1 key, e.2) : Compared (Bool × Value)) = .ok (hasKey key e, e.2) := by
    intro e he
    obtain ⟨b, hb⟩ := h e he
    simp only [hasKey, hb, passes, bind, Except.bind, pure, Except.pure]
  have hfind : (entries.map fun e => (hasKey key e, e.2)).find? (·.1) =
      (entries.find? (hasKey key)).map fun e => (hasKey key e, e.2) := List.find?_map
  rw [atKey, mapM_of_ok hkeys]
  simp only [bind, Except.bind]
  rw [hfind]
  cases entries.find? (hasKey key) <;> rfl

/-- A key that does not compare is found, also behind an entry with the key that is looked for. -/
theorem atKey_of_refused {e : Value × Value} {fault : ComparisonFault} (he : e ∈ entries)
    (h : equal false e.1 key = .error fault) :
    ∃ e' ∈ entries, ∃ fault', equal false e'.1 key = .error fault' ∧
      atKey ignoreCase entries key expected = .error fault' := by
  let step (e : Value × Value) : Compared (Bool × Value) := do return (← equal false e.1 key, e.2)
  have hstep : step e = .error fault := by
    simp only [step, h, bind, Except.bind]
  obtain ⟨e', he', fault', hstep', hlist⟩ := exists_mapM_eq_error he hstep
  refine ⟨e', he', fault', ?_, by rw [atKey, hlist]; rfl⟩
  cases hequal : equal false e'.1 key with
  | error fault'' => simpa [step, hequal, bind, Except.bind] using hstep'
  | ok b => simp [step, hequal, bind, Except.bind, pure, Except.pure] at hstep'

/-- An error is that of a key, or that of the value under the key that is looked for. -/
theorem exists_of_atKey_eq_error {fault : ComparisonFault}
    (h : atKey ignoreCase entries key expected = .error fault) :
    (∃ e ∈ entries, equal false e.1 key = .error fault) ∨
      ∃ e ∈ entries, equal ignoreCase e.2 expected = .error fault := by
  rcases decided_or_refused (fun e => equal false e.1 key) entries with
    hdecided | ⟨e, he, fault', hfault'⟩
  · rw [atKey_of_decided hdecided] at h
    split at h
    · next e hfound => exact .inr ⟨e, List.mem_of_find?_eq_some hfound, h⟩
    · contradiction
  · obtain ⟨e', he', fault'', hkey, hatKey⟩ := atKey_of_refused he hfault'
    rw [hatKey] at h
    exact .inl ⟨e', he', hkey.trans h⟩

/-- A key that does not compare makes for a mismatch, whatever is found. -/
theorem atKey_mismatch_of_key (hkeys : ∀ v fault, equal false v key = .error fault → fault.IsMismatch)
    {e : Value × Value} {fault : ComparisonFault} (he : e ∈ entries)
    (h : equal false e.1 key = .error fault) :
    ∃ fault : ComparisonFault, fault.IsMismatch ∧
      atKey ignoreCase entries key expected = .error fault := by
  obtain ⟨e', -, fault', hkey, hatKey⟩ := atKey_of_refused he h
  exact ⟨fault', hkeys e'.1 fault' hkey, hatKey⟩

/-- A key that does not compare is reported, and so is the value that is found. -/
theorem atKey_mismatch {e : Value × Value} (hkeys : Discerns (equal false · key) key.kind)
    (hvalues : Discerns (equal ignoreCase · expected) expected.kind)
    (h : e ∈ entries ∧ e.1.kind.comparable key.kind = false ∨
      entries.find? (hasKey key) = some e ∧ e.2.kind.comparable expected.kind = false) :
    ∃ fault : ComparisonFault, fault.IsMismatch ∧
      atKey ignoreCase entries key expected = .error fault := by
  obtain ⟨he, hk⟩ | ⟨hfound, hv⟩ := h
  · exact atKey_mismatch_of_key hkeys.isMismatch he (hkeys.refuses e.1 hk)
  · rcases decided_or_refused (fun e => equal false e.1 key) entries with
      hdecided | ⟨e', he', fault, hfault⟩
    · refine ⟨.mismatch (.kind expected.kind) e.2.kind, ⟨_, _, rfl⟩, ?_⟩
      rw [atKey_of_decided hdecided, hfound]
      exact hvalues.refuses e.2 hv
    · exact atKey_mismatch_of_key hkeys.isMismatch he' hfault

/-- The order of the entries does not matter as long as those with the key stay in order. -/
theorem atKey_alike_of_perm (hperm : entries.Perm others)
    (hkept : entries.filter (hasKey key) = others.filter (hasKey key))
    (hkeys : ∀ v fault, equal false v key = .error fault → fault.IsMismatch)
    (hvalues : ∀ v fault, equal ignoreCase v expected = .error fault → fault.IsMismatch) :
    Alike (atKey ignoreCase entries key expected) (atKey ignoreCase others key expected) := by
  rcases decided_or_refused (fun e => equal false e.1 key) entries with
    hdecided | ⟨e, he, fault, hfault⟩
  · have hdecided' : ∀ e ∈ others, ∃ b, equal false e.1 key = .ok b :=
      fun e he => hdecided e (hperm.mem_iff.2 he)
    have hfirst : entries.find? (hasKey key) = others.find? (hasKey key) := by
      rw [← List.head?_filter, hkept, List.head?_filter]
    rw [atKey_of_decided hdecided, atKey_of_decided hdecided', hfirst]
    cases others.find? (hasKey key) with
    | none => exact .decided false
    | some e =>
      dsimp only
      exact alike_self (hvalues e.2)
  · obtain ⟨fault₁, hfault₁, hatKey₁⟩ := atKey_mismatch_of_key hkeys he hfault
    obtain ⟨fault₂, hfault₂, hatKey₂⟩ := atKey_mismatch_of_key hkeys (hperm.mem_iff.1 he) hfault
    rw [hatKey₁, hatKey₂]
    exact .refused hfault₁ hfault₂

end

end Comparison

end Quarry
