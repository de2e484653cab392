-- SUMMARY: When ignoring case finds all that is found without, and when it does not.
import Quarry.Proofs.Evaluation.Literal
import Quarry.Proofs.SortedMap
import Quarry.Proofs.Text.Lowercasing

/-!
# Ignoring case

To ignore case is to look for the lowercase form of the operand in that of the stored text. Where the operand
stands in the one, its own lowercase form stands in the other, unless what is around it reshapes it: it closes
with a capital sigma and the word goes on after it, or it opens with one that ends a word begun before it.
Equality leaves nothing around the operand, so that ignoring case widens it. The operators that look for a part
are widened for the operands without such a sigma, and for no others.
-/

namespace Quarry

/-! ## One character too many -/

section

variable {α : Type} {l m : List α} {c : α}

/-- A list that does not start with `c` is in no other list of its length with `c` before it. -/
theorem not_infix_cons (hlength : l.length = m.length) (hne : l ≠ m) (hhead : l.head? ≠ some c) :
    ¬ l <:+: c :: m := by
  rw [List.infix_cons_iff, List.prefix_cons_iff]
  rintro ((rfl | ⟨rest, rfl, -⟩) | hinside)
  · exact hne (List.eq_nil_of_length_eq_zero hlength.symm).symm
  · exact hhead rfl
  · exact hne (hinside.eq_of_length hlength)

/-- A list that does not end with `c` is in no other list of its length with `c` after it. -/
theorem not_infix_concat (hlength : l.length = m.length) (hne : l ≠ m) (hlast : l.getLast? ≠ some c) :
    ¬ l <:+: m ++ [c] := by
  rw [← List.reverse_infix, List.reverse_concat]
  apply not_infix_cons
  · rw [List.length_reverse, List.length_reverse, hlength]
  · exact fun h => hne (List.reverse_inj.1 h)
  · rwa [List.head?_reverse]

end

namespace Operator

/-! ## Places of the operand -/

/-- What a stored text can have before and after the operand. -/
def Around (op : Operator) (before after : String) : Prop :=
  match op with
  | .eq => before = "" ∧ after = ""
  | .startsWith => before = ""
  | .endsWith => after = ""
  | .containing => True
  | _ => False

theorem finds_iff {op : Operator} {stored n : String} :
    op.Finds stored n ↔ ∃ before after, op.Around before after ∧ stored = before ++ n ++ after := by
  cases op <;> simp [Finds, Around, and_assoc]

/-! ## Lowercase forms -/

variable {op : Operator} {n before after : String}

/-- The operators are asked about the same places in the lowercase form. -/
theorem Around.lowercase (h : op.Around before after) :
    op.Around (Text.lowercaseWithin "" (n ++ after) before)
      (Text.lowercaseWithin (before ++ n) "" after) := by
  cases op with
  | eq =>
    obtain ⟨rfl, rfl⟩ := h
    exact ⟨rfl, rfl⟩
  | startsWith | endsWith =>
    obtain rfl := h
    exact Text.lowercaseWithin_empty _ _
  | containing => trivial
  | _ => exact h.elim

/-- An operand that keeps its form where it stands is found there when case is ignored. -/
theorem finds_lowercase (h : op.Around before after) (hsame : Text.reshapes before n after = false) :
    op.Finds (Text.lowercase (before ++ n ++ after)) (Text.lowercase n) := by
  refine finds_iff.2 ⟨_, _, h.lowercase (n := n), ?_⟩
  rw [Text.lowercase_append, Text.lowercaseWithin_eq_iff.2 hsame]

/-- Where an operator leaves one place for the operand, a reshaped operand is lost. -/
theorem not_finds_lowercase (hop : op ≠ .containing) (h : op.Around before after)
    (hreshapes : Text.reshapes before n after = true) :
    ¬ op.Finds (Text.lowercase (before ++ n ++ after)) (Text.lowercase n) := by
  have hlength := Text.length_lowercaseWithin before after n
  intro hfinds
  suffices hsame : Text.lowercaseWithin before after n = Text.lowercase n by
    rw [Text.lowercaseWithin_eq_iff, hreshapes] at hsame
    contradiction
  rw [Text.lowercase_append] at hfinds
  apply String.toList_inj.1
  cases op with
  | eq =>
    obtain ⟨rfl, rfl⟩ := h
    rw [Text.lowercaseWithin_alone]
  | startsWith =>
    obtain rfl := h
    obtain ⟨rest, hrest⟩ := hfinds
    have hlists := congrArg String.toList hrest
    simp only [Text.lowercaseWithin_empty, String.empty_append, String.toList_append] at hlists
    exact List.append_inj_left hlists hlength
  | endsWith =>
    obtain rfl := h
    obtain ⟨rest, hrest⟩ := hfinds
    have hlists := congrArg String.toList hrest
    simp only [Text.lowercaseWithin_empty, String.append_empty, String.toList_append] at hlists
    exact List.append_inj_right' hlists hlength
  | containing => exact absurd rfl hop
  | _ => exact h.elim

/-! ## Operands -/

/-- Whether the operand can stand where its lowercase form is another one. -/
def mayReshape (op : Operator) (n : String) : Bool :=
  match op with
  | .startsWith => Text.closesWithSigma n.toList
  | .endsWith => Text.opensWithSigma n.toList []
  | .containing => Text.opensWithSigma n.toList [] || Text.closesWithSigma n.toList
  | _ => false

theorem mayReshape_of_reshapes (h : op.Around before after)
    (hreshapes : Text.reshapes before n after = true) : op.mayReshape n = true := by
  have hends : Text.opensWithSigma n.toList [] = true ∧ Text.startsCased before.toList.reverse = true ∨
      Text.closesWithSigma n.toList = true ∧ Text.startsCased after.toList = true := by
    rw [Text.reshapes, Bool.or_eq_true, Bool.and_eq_true, Bool.and_eq_true] at hreshapes
    exact hreshapes.imp_left fun h => ⟨Text.opensWithSigma_nil h.2, h.1⟩
  cases op with
  | eq =>
    obtain ⟨rfl, rfl⟩ := h
    obtain ⟨-, h⟩ | ⟨-, h⟩ := hends
    all_goals contradiction
  | startsWith =>
    obtain rfl := h
    obtain ⟨-, h⟩ | ⟨hcloses, -⟩ := hends
    · contradiction
    · exact hcloses
  | endsWith =>
    obtain rfl := h
    obtain ⟨hopens, -⟩ | ⟨-, h⟩ := hends
    · exact hopens
    · contradiction
  | containing => exact Bool.or_eq_true_iff.2 (hends.imp And.left And.left)
  | _ => exact h.elim

/-- An operand that opens with a sigma is reshaped by a letter before it, and may be found nowhere then. -/
theorem exists_lost_of_opens (h : Text.opensWithSigma n.toList [] = true) :
    ∃ before, ¬ Finds .containing (Text.lowercase (before ++ n ++ "")) (Text.lowercase n) := by
  obtain ⟨c, hc, hcased, hform⟩ := Text.exists_letter (Text.lowercase n).toList.head?
  have hne : Text.lowercaseWithin (.singleton c) "" n ≠ Text.lowercase n := by
    rw [Ne, Text.lowercaseWithin_eq_iff]
    simp [Text.reshapes, hcased, h]
  refine ⟨.singleton c, ?_⟩
  rw [Finds, ← infix_toList_iff, Text.lowercase_append, hform, Text.lowercaseWithin_empty,
    String.append_empty, String.toList_append, String.toList_singleton]
  exact not_infix_cons (Text.length_lowercaseWithin _ _ n).symm
    (fun hlists => hne (String.toList_inj.1 hlists).symm) hc

/-- An operand that closes with a sigma is reshaped by a letter after it, and may be found nowhere then. -/
theorem exists_lost_of_closes (h : Text.closesWithSigma n.toList = true) :
    ∃ after, ¬ Finds .containing (Text.lowercase ("" ++ n ++ after)) (Text.lowercase n) := by
  obtain ⟨c, hc, hcased, hform⟩ := Text.exists_letter (Text.lowercase n).toList.getLast?
  have hne : Text.lowercaseWithin "" (.singleton c) n ≠ Text.lowercase n := by
    rw [Ne, Text.lowercaseWithin_eq_iff]
    simp [Text.reshapes, hcased, h]
  refine ⟨.singleton c, ?_⟩
  rw [Finds, ← infix_toList_iff, Text.lowercase_append, hform, Text.lowercaseWithin_empty,
    String.empty_append, String.toList_append, String.toList_singleton]
  exact not_infix_concat (Text.length_lowercaseWithin _ _ n).symm
    (fun hlists => hne (String.toList_inj.1 hlists).symm) hc

/-- What is found at the start or the end is found anywhere. -/
theorem finds_containing {stored : String} (h : op.Finds stored n) : Finds .containing stored n := by
  obtain ⟨before, after, -, hstored⟩ := finds_iff.1 h
  exact ⟨before, after, hstored⟩

/-- An operand that may be reshaped is lost in some text where it is found with case. -/
theorem exists_lost (h : op.mayReshape n = true) :
    ∃ before after, op.Around before after ∧
      ¬ op.Finds (Text.lowercase (before ++ n ++ after)) (Text.lowercase n) := by
  cases op with
  | startsWith =>
    obtain ⟨after, hlost⟩ := exists_lost_of_closes h
    exact ⟨"", after, rfl, fun hfinds => hlost (finds_containing hfinds)⟩
  | endsWith =>
    obtain ⟨before, hlost⟩ := exists_lost_of_opens h
    exact ⟨before, "", rfl, fun hfinds => hlost (finds_containing hfinds)⟩
  | containing =>
    obtain hopens | hcloses := Bool.or_eq_true_iff.1 h
    · obtain ⟨before, hlost⟩ := exists_lost_of_opens hopens
      exact ⟨before, "", trivial, hlost⟩
    · obtain ⟨after, hlost⟩ := exists_lost_of_closes hcloses
      exact ⟨"", after, trivial, hlost⟩
  | _ => contradiction

/-- Ignoring case finds an operand wherever it is found with case, if it keeps its form in all places where
    the operator can find it, and else does not. -/
theorem finds_lowercase_of_finds_iff :
    (∀ s, op.Finds s n → op.Finds (Text.lowercase s) (Text.lowercase n)) ↔ op.mayReshape n = false := by
  constructor
  · intro h
    rw [← Bool.not_eq_true]
    intro hmay
    obtain ⟨before, after, haround, hlost⟩ := exists_lost hmay
    exact hlost (h _ (finds_iff.2 ⟨before, after, haround, rfl⟩))
  · intro h s hs
    obtain ⟨before, after, haround, rfl⟩ := finds_iff.1 hs
    apply finds_lowercase haround
    rw [← Bool.not_eq_true]
    intro hreshapes
    rw [mayReshape_of_reshapes haround hreshapes] at h
    contradiction

end Operator

/-- Every value can be stored in a field that is not kept beside the bins. -/
theorem Record.exists_resolve?_eq_some {field : String} (hfield : isMetadataField field = false) (v : Value) :
    ∃ r : Record, r.resolve? field = some v := by
  refine ⟨⟨"", SortedMap.empty.insert field v, 0, none⟩, ?_⟩
  rw [resolve?_of_not_metadata hfield, atPath?, bin?, SortedMap.get?_insert_self]

/-! ## Predicates that ignore case -/

namespace Evaluator

variable (ev : Evaluator) {field : String} {op : Operator} {n : String} {ignoreCase : Bool} {p : Predicate}

/-- A predicate that is built with a text operator says whether the operand is found. -/
theorem evaluate_built_text (hop : op.matchesText = true)
    (hp : (Condition.comparison field (.string n) ignoreCase op).build = .ok p) {r : Record} {s : String}
    (hr : r.resolve? field = some (.string s)) :
    ∃ b, ev.evaluate r (.leaf p) = .ok b ∧
      (b = true ↔ op.Finds (Comparison.fold ignoreCase s) (Comparison.fold ignoreCase n)) := by
  obtain ⟨rfl, rfl, hvalue, -, rfl, hselector⟩ := Condition.parts_of_build_comparison hp
  exact evaluate_text ev hop hselector hvalue hr

theorem evaluate_built_text_iff (hop : op.matchesText = true)
    (hp : (Condition.comparison field (.string n) ignoreCase op).build = .ok p) {r : Record} {s : String}
    (hr : r.resolve? field = some (.string s)) :
    ev.evaluate r (.leaf p) = .ok true ↔
      op.Finds (Comparison.fold ignoreCase s) (Comparison.fold ignoreCase n) := by
  obtain ⟨b, hb, hfinds⟩ := evaluate_built_text ev hop hp hr
  rw [hb, ← hfinds, Except.ok.injEq]

/-- A predicate that ignores case rejects a text in which the only place for the operand reshapes it. -/
theorem evaluate_lost (hop : op.matchesText = true)
    (hp : (Condition.comparison field (.string n) true op).build = .ok p) (hpart : op ≠ .containing)
    {before after : String} (haround : op.Around before after)
    (hreshapes : Text.reshapes before n after = true) {r : Record}
    (hr : r.resolve? field = some (.string (before ++ n ++ after))) :
    ev.evaluate r (.leaf p) = .ok false := by
  obtain ⟨b, hb, hfinds⟩ := evaluate_built_text ev hop hp hr
  have hlost := Operator.not_finds_lowercase hpart haround hreshapes
  rw [hb, Bool.eq_false_iff.2 fun hfound => hlost (hfinds.1 hfound)]

/-- A text operator accepts a text just if the operand has a place in it. The predicate that also ignores case
    can be built, and accepts the text as well if the operand keeps its lowercase form in some such place. It
    rejects the text if the operand does not and the operator leaves it no other place. It accepts all
    that the first one accepts just if there is no place for the operand, in any text, that would reshape it. -/
theorem ignoring_case_widens_iff (ev : Evaluator) {field : String} {op : Operator} {n : String}
    {p : Predicate} (hop : op.matchesText = true)
    (hp : (Condition.comparison field (.string n) false op).build = .ok p) :
    ∃ q, (Condition.comparison field (.string n) true op).build = .ok q ∧
      (∀ (r : Record) (s : String), r.resolve? field = some (.string s) →
        (ev.evaluate r (.leaf p) = .ok true ↔
          ∃ before after, op.Around before after ∧ s = before ++ n ++ after)) ∧
      (∀ (r : Record) (before after : String), op.Around before after →
        r.resolve? field = some (.string (before ++ n ++ after)) →
        (Text.reshapes before n after = false → ev.evaluate r (.leaf q) = .ok true) ∧
        (Text.reshapes before n after = true → op ≠ .containing →
          ev.evaluate r (.leaf q) = .ok false)) ∧
      ((∀ (r : Record) (s : String), r.resolve? field = some (.string s) →
          ev.evaluate r (.leaf p) = .ok true → ev.evaluate r (.leaf q) = .ok true) ↔
        op.mayReshape n = false) := by
  have hbuild := (Condition.exists_build_text_iff hop n false).1 ⟨p, hp⟩
  obtain ⟨q, hq⟩ := (Condition.exists_build_text_iff hop n true).2 hbuild
  refine ⟨q, hq, ?_, ?_, ?_⟩
  · intro r s hr
    rw [evaluate_built_text_iff ev hop hp hr]
    exact Operator.finds_iff
  · intro r before after haround hr
    constructor
    · intro hsame
      exact (evaluate_built_text_iff ev hop hq hr).2 (Operator.finds_lowercase haround hsame)
    · intro hreshapes hpart
      exact evaluate_lost ev hop hq hpart haround hreshapes hr
  · rw [← Operator.finds_lowercase_of_finds_iff]
    constructor
    · intro h s hs
      obtain ⟨r, hr⟩ := Record.exists_resolve?_eq_some hbuild.2 (.string s)
      apply (evaluate_built_text_iff ev hop hq hr).1
      exact h r s hr ((evaluate_built_text_iff ev hop hp hr).2 hs)
    · intro h r s hr haccepts
      apply (evaluate_built_text_iff ev hop hq hr).2
      exact h s ((evaluate_built_text_iff ev hop hp hr).1 haccepts)

/-- The condition that the title starts with an alpha and a sigma. -/
def startsWithAlphaSigma (ignoreCase : Bool) : Condition :=
  .comparison "title" (.string "ΑΣ") ignoreCase .startsWith

theorem ignoring_case_widens_iff_sigma :
    ∃ p q, (startsWithAlphaSigma false).build = .ok p ∧ (startsWithAlphaSigma true).build = .ok q ∧
      containment.evaluate (titled (.string "ΑΣ, Α")) (.leaf q) = .ok true ∧
      containment.evaluate (titled (.string "ΑΣΑ")) (.leaf q) = .ok false ∧
      ¬ ∀ (r : Record) (s : String), r.resolve? "title" = some (.string s) →
        containment.evaluate r (.leaf p) = .ok true → containment.evaluate r (.leaf q) = .ok true := by
  obtain ⟨p, hp⟩ : ∃ p, (startsWithAlphaSigma false).build = .ok p := ⟨_, rfl⟩
  obtain ⟨q, hq, -, hplaces, hwidens⟩ := ignoring_case_widens_iff containment rfl hp
  refine ⟨p, q, hp, hq, ?_, ?_, ?_⟩
  · exact (hplaces (titled (.string "ΑΣ, Α")) "" ", Α" rfl rfl).1 (by decide +kernel)
  · exact (hplaces (titled (.string "ΑΣΑ")) "" "Α" rfl rfl).2 (by decide +kernel) (by decide)
  · rw [hwidens]
    decide +kernel

/-- The title starts with the operand, but its lowercase form does not start with that of the operand. -/
theorem ignoring_case_loses_title :
    ∃ p q, (startsWithAlphaSigma false).build = .ok p ∧ (startsWithAlphaSigma true).build = .ok q ∧
      containment.evaluate (titled (.string "ΑΣΑ")) (.leaf p) = .ok true ∧
      containment.evaluate (titled (.string "ΑΣΑ")) (.leaf q) = .ok false := by
  obtain ⟨p, hp⟩ : ∃ p, (startsWithAlphaSigma false).build = .ok p := ⟨_, rfl⟩
  obtain ⟨q, hq⟩ : ∃ q, (startsWithAlphaSigma true).build = .ok q := ⟨_, rfl⟩
  have hr : (titled (.string "ΑΣΑ")).resolve? "title" = some (.string ("" ++ "ΑΣ" ++ "Α")) := rfl
  refine ⟨p, q, hp, hq, ?_, ?_⟩
  · exact (evaluate_built_text_iff containment rfl hp hr).2 ⟨"Α", rfl⟩
  · exact evaluate_lost containment rfl hq (by decide) rfl (by decide +kernel) hr

end Evaluator

end Quarry
