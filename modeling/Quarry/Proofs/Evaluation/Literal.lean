-- SUMMARY: The operand of a text operator is found as it stands, never as a pattern.
import Quarry.Proofs.Evaluation.Branches
import Quarry.Proofs.Predicate.WellFormed

/-!
# Literal text

Four operators look for one text in another: as the whole of it, at its start, at its end, or anywhere. Each
accepts a stored text just if that is the operand with something before it, something after it, or both. No
character of either text has a meaning of its own, and nothing but a stored value of another kind is an
error. When case is ignored the same holds of the lowercase forms.
-/

namespace Quarry

open Comparison

/-! ## Parts of texts -/

/-- A search finds the part just if it occurs. -/
theorem occursIn_iff {part cs : List Char} : occursIn part cs = true ↔ part <:+: cs := by
  induction cs with
  | nil => rw [occursIn, List.isEmpty_iff, List.infix_nil]
  | cons c rest ih =>
    rw [occursIn, Bool.or_eq_true, List.isPrefixOf_iff_prefix, ih, List.infix_cons_iff]

theorem prefix_toList_iff {s t : String} : t.toList <+: s.toList ↔ ∃ after, s = t ++ after := by
  constructor
  · rintro ⟨after, h⟩
    exact ⟨.ofList after, String.toList_inj.1 (by simp [← h])⟩
  · rintro ⟨after, rfl⟩
    exact ⟨after.toList, by simp⟩

theorem suffix_toList_iff {s t : String} : t.toList <:+ s.toList ↔ ∃ before, s = before ++ t := by
  constructor
  · rintro ⟨before, h⟩
    exact ⟨.ofList before, String.toList_inj.1 (by simp [← h])⟩
  · rintro ⟨before, rfl⟩
    exact ⟨before.toList, by simp⟩

theorem infix_toList_iff {s t : String} :
    t.toList <:+: s.toList ↔ ∃ before after, s = before ++ t ++ after := by
  constructor
  · rintro ⟨before, after, h⟩
    exact ⟨.ofList before, .ofList after, String.toList_inj.1 (by simp [← h])⟩
  · rintro ⟨before, after, rfl⟩
    exact ⟨before.toList, after.toList, by simp⟩

/-! ## Operators on texts -/

namespace Operator

/-- Whether the operator looks for a text in a text. -/
def matchesText : Operator → Bool
  | .eq | .startsWith | .endsWith | .containing => true
  | _ => false

/-- What the operator asks of a stored text and its operand, taken literally. -/
def Finds (op : Operator) (stored operand : String) : Prop :=
  match op with
  | .eq => stored = operand
  | .startsWith => ∃ after, stored = operand ++ after
  | .endsWith => ∃ before, stored = before ++ operand
  | .containing => ∃ before after, stored = before ++ operand ++ after
  | _ => False

theorem effectiveArity_of_matchesText {op : Operator} (h : op.matchesText = true) :
    effectiveArity op none = 1 := by
  cases op <;> first | rfl | contradiction

theorem domainFault?_of_matchesText {op : Operator} (h : op.matchesText = true) (n : String) :
    domainFault? op (.string n) none = none := by
  cases op <;> first | rfl | contradiction

end Operator

/-- Any text can be the operand of a text operator, on any field that is not kept beside the bins. -/
theorem Condition.exists_build_text_iff {field : String} {op : Operator} (hop : op.matchesText = true)
    (n : String) (ignoreCase : Bool) :
    (∃ p, (comparison field (.string n) ignoreCase op).build = .ok p) ↔
      field ≠ "" ∧ isMetadataField field = false := by
  rw [exists_build_comparison_iff (Operator.effectiveArity_of_matchesText hop) rfl
    (Operator.domainFault?_of_matchesText hop n)]
  simp [Value.kind]

namespace Evaluator

variable (ev : Evaluator) {p : Predicate} {n : String}

/-- A text operator has an outcome on every text, which is that the operand is found. -/
theorem test_text (hop : p.operator.matchesText = true) (hselector : p.selector = none)
    (hn : p.value1 = .string n) (s : String) :
    ∃ b, ev.test p (.string s) = .ok b ∧
      (b = true ↔ p.operator.Finds (fold p.ignoreCase s) (fold p.ignoreCase n)) := by
  unfold test
  cases hp : p.operator with
  | eq => exact ⟨_, by rw [hn]; rfl, beq_iff_eq⟩
  | startsWith => exact ⟨_, by rw [hn]; rfl, List.isPrefixOf_iff_prefix.trans prefix_toList_iff⟩
  | endsWith => exact ⟨_, by rw [hn]; rfl, List.isSuffixOf_iff_suffix.trans suffix_toList_iff⟩
  | containing =>
    refine ⟨_, ?_, occursIn_iff.trans infix_toList_iff⟩
    simp only [containing, hselector, hn, text]
  | _ =>
    rw [hp] at hop
    contradiction

theorem evaluate_text (hop : p.operator.matchesText = true) (hselector : p.selector = none)
    (hn : p.value1 = .string n) {r : Record} {s : String} (hr : r.resolve? p.field = some (.string s)) :
    ∃ b, ev.evaluate r (.leaf p) = .ok b ∧
      (b = true ↔ p.operator.Finds (fold p.ignoreCase s) (fold p.ignoreCase n)) := by
  obtain ⟨b, htest, hfinds⟩ := test_text ev hop hselector hn s
  refine ⟨b, ?_, hfinds⟩
  rw [accepts_of_resolve ev hr, htest]
  rfl

/-- What starts or ends with a text is a text. -/
theorem evaluate_part_mismatch (hop : p.operator = .startsWith ∨ p.operator = .endsWith) {r : Record}
    {stored : Value} (hr : r.resolve? p.field = some stored) (hk : stored.kind ≠ .string) :
    ev.evaluate r (.leaf p) =
      .error ⟨p.field, p.operator, .mismatch (.kind .string) stored.kind⟩ := by
  have hdomain : p.operator.domain = .text := by
    obtain h | h := hop <;> rw [h] <;> rfl
  have hoperand := Predicate.kind_of_text hdomain
  have htest : ev.test p stored = mismatch stored p.value1 := by
    unfold test
    obtain h | h := hop
    all_goals
      simp only [h]
      cases stored with
      | string s => exact absurd rfl hk
      | _ => rfl
  rw [accepts_of_resolve ev hr, htest, mismatch, hoperand]
  rfl

/-- Every text can be an operand. On every stored text the outcome is whether the operand is found there as
    it stands, or if case is ignored, whether its lowercase form is found in that of the stored text. A
    stored value that is not a text is a mismatch for the operators on the start and the end of texts. -/
theorem text_operands_literal (ev : Evaluator) :
    (∀ (field : String) (op : Operator) (n : String) (ignoreCase : Bool), op.matchesText = true →
      field ≠ "" → isMetadataField field = false →
      ∃ p, (Condition.comparison field (.string n) ignoreCase op).build = .ok p) ∧
    (∀ (p : Predicate) (n : String), p.operator.matchesText = true → p.selector = none →
      p.value1 = .string n → ∀ (r : Record) (s : String), r.resolve? p.field = some (.string s) →
      ∃ b, ev.evaluate r (.leaf p) = .ok b ∧
        (p.ignoreCase = false → (b = true ↔ p.operator.Finds s n)) ∧
        (p.ignoreCase = true →
          (b = true ↔ p.operator.Finds (Text.lowercase s) (Text.lowercase n)))) ∧
    ∀ (p : Predicate), p.operator = .startsWith ∨ p.operator = .endsWith →
      ∀ (r : Record) (stored : Value), r.resolve? p.field = some stored → stored.kind ≠ .string →
        ev.evaluate r (.leaf p) =
          .error ⟨p.field, p.operator, .mismatch (.kind .string) stored.kind⟩ := by
  refine ⟨fun field op n ignoreCase hop hfield hbin => ?_, fun p n hop hselector hn r s hr => ?_,
    fun p hop r stored hr hk => evaluate_part_mismatch ev hop hr hk⟩
  · exact (Condition.exists_build_text_iff hop n ignoreCase).2 ⟨hfield, hbin⟩
  · obtain ⟨b, hevaluate, hfinds⟩ := evaluate_text ev hop hselector hn hr
    refine ⟨b, hevaluate, fun hcase => ?_, fun hcase => ?_⟩
    · rw [hfinds, hcase]
      rfl
    · rw [hfinds, hcase]
      rfl

/-- A predicate on a part of the title that could be taken for a pattern. -/
def containsPattern : Predicate :=
  ⟨"title", .containing, .string "a.*b", none, false, none, rfl⟩

/-- A predicate on the start of the title. -/
def startsWithSigma : Predicate :=
  ⟨"title", .startsWith, .string "Σ", none, true, none, rfl⟩

/-- A record with the given title. -/
def titled (v : Value) : Record :=
  ⟨"k", .ofList [("title", v)], 1, none⟩

theorem text_operands_literal_pattern :
    (∃ p, (Condition.comparison "title" (.string "$^") true .endsWith).build = .ok p) ∧
    containment.evaluate (titled (.string "a.a.*bc")) (.leaf containsPattern) = .ok true ∧
    (∃ b, containment.evaluate (titled (.string "ΣΑΣ")) (.leaf startsWithSigma) = .ok b ∧
      (b = true ↔ ∃ after, Text.lowercase "ΣΑΣ" = Text.lowercase "Σ" ++ after)) ∧
    containment.evaluate (titled (.list [.string "Σ"])) (.leaf startsWithSigma) =
      .error ⟨"title", .startsWith, .mismatch (.kind .string) .list⟩ := by
  obtain ⟨hoperands, htexts, hothers⟩ := text_operands_literal containment
  refine ⟨hoperands "title" .endsWith _ true rfl (by decide) rfl, ?_, ?_, ?_⟩
  · obtain ⟨b, hb, hplain, -⟩ := htexts containsPattern _ rfl rfl rfl (titled (.string "a.a.*bc")) _ rfl
    obtain rfl : b = true := (hplain rfl).2 ⟨"a.", "c", by decide⟩
    exact hb
  · obtain ⟨b, hb, -, hcase⟩ := htexts startsWithSigma _ rfl rfl rfl (titled (.string "ΣΑΣ")) _ rfl
    exact ⟨b, hb, hcase rfl⟩
  · exact hothers startsWithSigma (.inl rfl) _ (.list [.string "Σ"]) rfl (by decide)

end Evaluator

end Quarry
