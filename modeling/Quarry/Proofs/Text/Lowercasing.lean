-- SUMMARY: The lowercase form of a part of a text, and which surroundings change it.
import Quarry.Text.Lowercase

/-!
# Lowercasing a part of a text

The lowercase form of a text is that of its parts, each in the place where it stands. The place matters to
capital sigmas only, and of these to the first and the last letter of the part: every other one has the
letters that decide its form within the part. So a part has the form that it has alone, unless it opens with
a sigma that becomes the last letter of a word begun before, or closes with one that is no longer the last
letter of its word. Letters are here all characters but the case-ignorable ones, which are looked through.
-/

namespace Quarry.Text

/-! ## Parts -/

/-- The lowercase form of the characters between the reversed text `before` and the text `after`. -/
def lowerWithin (before after : List Char) : List Char → List Char
  | [] => []
  | c :: rest =>
    (if c = 'Σ' then [lowerSigma before (rest ++ after)] else lowerChar c) ++
      lowerWithin (c :: before) after rest

theorem lowerAfter_append (before u v : List Char) :
    lowerAfter before (u ++ v) = lowerWithin before v u ++ lowerAfter (u.reverse ++ before) v := by
  induction u generalizing before with
  | nil => rfl
  | cons c rest ih =>
    rw [List.cons_append, lowerAfter, lowerWithin, ih, List.append_assoc, List.reverse_cons,
      List.append_assoc]
    rfl

theorem lowerWithin_nil (before part : List Char) :
    lowerWithin before [] part = lowerAfter before part := by
  have h := lowerAfter_append before part []
  rw [List.append_nil, lowerAfter, List.append_nil] at h
  exact h.symm

/-- A letter has as many characters in every place. -/
theorem length_lowerWithin (before after before' after' part : List Char) :
    (lowerWithin before after part).length = (lowerWithin before' after' part).length := by
  induction part generalizing before before' with
  | nil => rfl
  | cons c rest ih =>
    rw [lowerWithin, lowerWithin, List.length_append, List.length_append, ih (c :: before) (c :: before')]
    split <;> rfl

/-- Two places give a part the same form just if they do so with each sigma in it. -/
theorem lowerWithin_eq_iff {before after before' after' part : List Char} :
    lowerWithin before after part = lowerWithin before' after' part ↔
      ∀ u w, part = u ++ 'Σ' :: w →
        lowerSigma (u.reverse ++ before) (w ++ after) =
          lowerSigma (u.reverse ++ before') (w ++ after') := by
  induction part generalizing before before' with
  | nil => simp [lowerWithin]
  | cons c rest ih =>
    rw [lowerWithin, lowerWithin]
    constructor
    · intro h u w hsplit
      obtain ⟨hhead, htail⟩ := List.append_inj' h (length_lowerWithin _ _ _ _ _)
      cases u with
      | nil =>
        obtain ⟨rfl, rfl⟩ := List.cons.inj hsplit
        simpa using hhead
      | cons d u =>
        obtain ⟨rfl, hrest⟩ := List.cons.inj hsplit
        rw [List.reverse_cons, List.append_assoc, List.append_assoc]
        exact ih.1 htail u w hrest
    · intro h
      have htail : lowerWithin (c :: before) after rest = lowerWithin (c :: before') after' rest := by
        apply ih.2
        intro u w hrest
        simpa using h (c :: u) w (by rw [hrest]; rfl)
      rw [htail]
      split
      · next hc =>
        subst hc
        have hhead := h [] rest rfl
        simp only [List.reverse_nil, List.nil_append] at hhead
        rw [hhead]
      · rfl

/-! ## The letters around a sigma -/

/-- Whether the character is looked through. -/
def isIgnorable (c : Char) : Bool :=
  inRanges caseIgnorableRanges c

theorem startsCased_append (u v : List Char) :
    startsCased (u ++ v) = if u.all isIgnorable then startsCased v else startsCased u := by
  unfold startsCased
  induction u with
  | nil => rfl
  | cons c rest ih =>
    cases hc : inRanges caseIgnorableRanges c with
    | true =>
      rw [List.cons_append, List.dropWhile_cons_of_pos hc, List.dropWhile_cons_of_pos hc, ih, List.all_cons,
        isIgnorable, hc, Bool.true_and]
    | false =>
      have hc' : ¬ inRanges caseIgnorableRanges c = true := by simp [hc]
      rw [List.cons_append, List.dropWhile_cons_of_neg hc', List.dropWhile_cons_of_neg hc', List.all_cons,
        isIgnorable, hc, Bool.false_and]
      rfl

theorem startsCased_of_all {u : List Char} (h : u.all isIgnorable = true) : startsCased u = false := by
  have hnil := startsCased_append u []
  rw [List.append_nil, h] at hnil
  exact hnil

theorem lowerSigma_ne_iff {before after before' after' : List Char} :
    lowerSigma before after ≠ lowerSigma before' after' ↔
      (startsCased before && !startsCased after) ≠ (startsCased before' && !startsCased after') := by
  unfold lowerSigma
  cases startsCased before && !startsCased after <;>
    cases startsCased before' && !startsCased after' <;> decide

/-- What surrounds a part changes a sigma in it just if this is the first letter of the part and becomes the
    last of a word, or is the last letter and the end of a word no more. -/
theorem lowerSigma_append_ne_iff {before u w after : List Char} :
    lowerSigma (u.reverse ++ before) (w ++ after) ≠ lowerSigma u.reverse w ↔
      (u.all isIgnorable = true ∧ startsCased before = true ∧ startsCased (w ++ after) = false) ∨
        (w.all isIgnorable = true ∧ startsCased u.reverse = true ∧ startsCased after = true) := by
  rw [lowerSigma_ne_iff, startsCased_append u.reverse, List.all_reverse]
  cases hfirst : u.all isIgnorable with
  | true =>
    have hu : startsCased u.reverse = false := startsCased_of_all (List.all_reverse.trans hfirst)
    simp [hu]
  | false =>
    cases hlast : w.all isIgnorable with
    | true =>
      rw [startsCased_append, hlast, startsCased_of_all hlast]
      cases startsCased u.reverse <;> simp
    | false =>
      -- both neighbours are in the part
      rw [startsCased_append, hlast]
      simp

theorem not_isIgnorable_sigma : ¬ isIgnorable 'Σ' = true := by
  decide +kernel

/-- What follows the first letter, if that is a capital sigma. -/
def afterSigma? (cs : List Char) : Option (List Char) :=
  match cs.dropWhile isIgnorable with
  | c :: rest => if c = 'Σ' then some rest else none
  | [] => none

theorem afterSigma?_eq_some_iff {cs rest : List Char} :
    afterSigma? cs = some rest ↔ ∃ u, u.all isIgnorable = true ∧ cs = u ++ 'Σ' :: rest := by
  unfold afterSigma?
  constructor
  · intro h
    refine ⟨cs.takeWhile isIgnorable, List.all_takeWhile, ?_⟩
    have hsplit := List.takeWhile_append_dropWhile (p := isIgnorable) (l := cs)
    split at h
    · next c w hdrop =>
      split at h
      · next hc =>
        obtain rfl := Option.some.inj h
        rw [hdrop, hc] at hsplit
        exact hsplit.symm
      · cases h
    · cases h
  · rintro ⟨u, hu, rfl⟩
    rw [List.dropWhile_append_of_pos (List.all_eq_true.1 hu),
      List.dropWhile_cons_of_neg not_isIgnorable_sigma]
    rfl

/-! ## Surroundings that change a part -/

/-- Whether the first letter of the part is a capital sigma that can be the last letter of a word when the
    text `after` follows the part. -/
def opensWithSigma (part after : List Char) : Bool :=
  (afterSigma? part).any fun rest => !startsCased (rest ++ after)

/-- Whether the last letter of the part is a capital sigma that belongs to a word begun in the part. -/
def closesWithSigma (part : List Char) : Bool :=
  (afterSigma? part.reverse).any startsCased

theorem opensWithSigma_iff {part after : List Char} :
    opensWithSigma part after = true ↔
      ∃ u w, part = u ++ 'Σ' :: w ∧ u.all isIgnorable = true ∧ startsCased (w ++ after) = false := by
  unfold opensWithSigma
  simp only [Option.any_eq_true, Bool.not_eq_true', afterSigma?_eq_some_iff]
  constructor
  · rintro ⟨w, ⟨u, hu, hsplit⟩, hw⟩
    exact ⟨u, w, hsplit, hu, hw⟩
  · rintro ⟨u, w, hsplit, hu, hw⟩
    exact ⟨w, ⟨u, hu, hsplit⟩, hw⟩

theorem closesWithSigma_iff {part : List Char} :
    closesWithSigma part = true ↔
      ∃ u w, part = u ++ 'Σ' :: w ∧ w.all isIgnorable = true ∧ startsCased u.reverse = true := by
  unfold closesWithSigma
  simp only [Option.any_eq_true, afterSigma?_eq_some_iff]
  constructor
  · rintro ⟨u, ⟨w, hw, hsplit⟩, hu⟩
    refine ⟨u.reverse, w.reverse, ?_, List.all_reverse.trans hw, ?_⟩
    · rw [← List.reverse_reverse part, hsplit]
      simp
    · rw [List.reverse_reverse, hu]
  · rintro ⟨u, w, rfl, hw, hu⟩
    exact ⟨u.reverse, ⟨w.reverse, List.all_reverse.trans hw, by simp⟩, hu⟩

/-- A part that opens a word with a sigma at one end of a text does so when nothing follows it. -/
theorem opensWithSigma_nil {part after : List Char} (h : opensWithSigma part after = true) :
    opensWithSigma part [] = true := by
  rw [opensWithSigma_iff] at h ⊢
  obtain ⟨u, w, hsplit, hu, hw⟩ := h
  refine ⟨u, w, hsplit, hu, ?_⟩
  rw [List.append_nil]
  cases hall : w.all isIgnorable with
  | true => exact startsCased_of_all hall
  | false =>
    rw [startsCased_append, hall] at hw
    exact hw

/-! ## Texts -/

/-- The lowercase form of a part that stands between two texts. -/
def lowercaseWithin (before after part : String) : String :=
  .ofList (lowerWithin before.toList.reverse after.toList part.toList)

/-- The lowercase form of a text consists of the forms of its parts, each in its place. -/
theorem lowercase_append (before part after : String) :
    lowercase (before ++ part ++ after) =
      lowercaseWithin "" (part ++ after) before ++ lowercaseWithin before after part ++
        lowercaseWithin (before ++ part) "" after := by
  apply String.toList_inj.1
  simp only [lowercase, lowercaseWithin, String.toList_append, String.toList_ofList, String.toList_empty,
    List.reverse_nil, List.reverse_append, List.append_assoc, lowerAfter_append, List.append_nil,
    lowerWithin_nil]

theorem lowercaseWithin_alone (part : String) : lowercaseWithin "" "" part = lowercase part :=
  congrArg String.ofList (lowerWithin_nil [] part.toList)

@[simp] theorem lowercaseWithin_empty (before after : String) : lowercaseWithin before after "" = "" := rfl

theorem length_lowercaseWithin (before after part : String) :
    (lowercaseWithin before after part).toList.length = (lowercase part).toList.length := by
  rw [← lowercaseWithin_alone, lowercaseWithin, lowercaseWithin, String.toList_ofList, String.toList_ofList]
  exact length_lowerWithin _ _ _ _ _

/-- Whether a part has another lowercase form between the two texts than alone. -/
def reshapes (before part after : String) : Bool :=
  startsCased before.toList.reverse && opensWithSigma part.toList after.toList ||
    closesWithSigma part.toList && startsCased after.toList

theorem reshapes_iff {before part after : String} :
    reshapes before part after = true ↔
      ∃ u w, part.toList = u ++ 'Σ' :: w ∧
        lowerSigma (u.reverse ++ before.toList.reverse) (w ++ after.toList) ≠ lowerSigma u.reverse w := by
  unfold reshapes
  simp only [Bool.or_eq_true, Bool.and_eq_true, opensWithSigma_iff, closesWithSigma_iff,
    lowerSigma_append_ne_iff]
  constructor
  · rintro (⟨hbefore, u, w, hsplit, hu, hw⟩ | ⟨⟨u, w, hsplit, hw, hu⟩, hafter⟩)
    · exact ⟨u, w, hsplit, .inl ⟨hu, hbefore, hw⟩⟩
    · exact ⟨u, w, hsplit, .inr ⟨hw, hu, hafter⟩⟩
  · rintro ⟨u, w, hsplit, ⟨hu, hbefore, hw⟩ | ⟨hw, hu, hafter⟩⟩
    · exact .inl ⟨hbefore, u, w, hsplit, hu, hw⟩
    · exact .inr ⟨⟨u, w, hsplit, hw, hu⟩, hafter⟩

theorem lowercaseWithin_eq_iff {before part after : String} :
    lowercaseWithin before after part = lowercase part ↔ reshapes before part after = false := by
  rw [← lowercaseWithin_alone, lowercaseWithin, lowercaseWithin, String.ofList_inj, lowerWithin_eq_iff,
    ← Bool.not_eq_true, reshapes_iff]
  simp only [String.toList_empty, List.reverse_nil, List.append_nil]
  constructor
  · rintro h ⟨u, w, hsplit, hne⟩
    exact hne (h u w hsplit)
  · intro h u w hsplit
    apply Classical.byContradiction
    intro hne
    exact h ⟨u, w, hsplit, hne⟩

/-- There is a letter other than a given character that has no other lowercase form in any place. -/
theorem exists_letter (avoided : Option Char) :
    ∃ c, avoided ≠ some c ∧ startsCased [c] = true ∧
      ∀ before after, lowercaseWithin before after (.singleton c) = .singleton c := by
  have ha : lowerChar 'a' = ['a'] := by decide +kernel
  have hb : lowerChar 'b' = ['b'] := by decide +kernel
  by_cases h : avoided = some 'a'
  · refine ⟨'b', by rw [h]; decide, by decide +kernel, fun before after => ?_⟩
    simp [lowercaseWithin, lowerWithin, hb]
  · refine ⟨'a', h, by decide +kernel, fun before after => ?_⟩
    simp [lowercaseWithin, lowerWithin, ha]

end Quarry.Text
