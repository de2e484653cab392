-- SUMMARY: Paths are joined from segments, and positions are segments in decimal.
import Quarry.Proofs.Json.Literals
import Quarry.Record.Basic

/-!
# Segments of a path

Splitting a path at its dots undoes joining it, for any number of segments without dots, empty ones
included, and every text is joined from such segments in this way.

A segment names a position just if it is a decimal numeral below `2 ^ 64`. Zeros in front of a numeral and a
plus sign before them change nothing, so that a position has many names.
-/

namespace Quarry.Path

/-! ## Joining and splitting -/

/-- The path that is joined from the name of a bin and further segments. -/
def ofSegments (name : String) (segments : List String) : String :=
  ".".intercalate (name :: segments)

theorem segments_eq_splitOn (cs : List Char) : segments cs = cs.splitOn '.' := by
  induction cs with
  | nil => rfl
  | cons c cs ih =>
    rw [segments, List.splitOn_cons_eq_if_modifyHead, ih]
    by_cases hc : c = '.'
    · simp [hc]
    · cases hcs : cs.splitOn '.' with
      | nil => exact absurd hcs (List.splitOn_ne_nil _ _)
      | cons s ss => simp [hc]

/-- A path is taken apart into what it was joined from. -/
theorem segments_ofSegments {name : String} {steps : List String}
    (h : ∀ s ∈ name :: steps, '.' ∉ s.toList) :
    segments (ofSegments name steps).toList = name.toList :: steps.map String.toList := by
  have hparts : ∀ cs ∈ (name :: steps).map String.toList, '.' ∉ cs := by
    simpa using h
  have hdot : ".".toList = ['.'] := rfl
  rw [segments_eq_splitOn, ofSegments, String.toList_intercalate, hdot,
    List.splitOn_intercalate '.' hparts (by simp), List.map_cons]

theorem undotted_of_mem_segments (cs : List Char) : ∀ s ∈ segments cs, '.' ∉ s := by
  induction cs with
  | nil => simp [segments]
  | cons c cs ih =>
    rw [segments]
    split
    · simpa using ih
    · next hc =>
      cases hcs : segments cs with
      | nil => simp [Ne.symm hc]
      | cons s ss =>
        rw [hcs] at ih
        simpa [Ne.symm hc] using ih

/-- Every text is a path, joined from its parts without dots. -/
theorem exists_eq_ofSegments (path : String) :
    ∃ name steps, path = ofSegments name steps ∧ ∀ s ∈ name :: steps, '.' ∉ s.toList := by
  have hundotted := undotted_of_mem_segments path.toList
  have hjoin : ['.'].intercalate (segments path.toList) = path.toList := by
    rw [segments_eq_splitOn, List.intercalate_splitOn]
  cases hsegments : segments path.toList with
  | nil =>
    rw [segments_eq_splitOn] at hsegments
    exact absurd hsegments (List.splitOn_ne_nil _ _)
  | cons s ss =>
    rw [hsegments] at hundotted hjoin
    refine ⟨String.ofList s, ss.map String.ofList, ?_, by simpa using hundotted⟩
    apply String.toList_inj.1
    simp only [ofSegments, String.toList_intercalate, List.map_cons, List.map_map]
    simpa [Function.comp_def] using hjoin.symm

/-! ## Decimal numerals -/

/-- A number in decimal, with zeros or a plus sign and zeros in front. -/
def decimal (plus : Bool) (zeros n : Nat) : String :=
  String.ofList ((if plus then ['+'] else []) ++ List.replicate zeros '0') ++ toString n

theorem toList_decimal (plus : Bool) (zeros n : Nat) :
    (decimal plus zeros n).toList =
      (if plus then ['+'] else []) ++ (List.replicate zeros '0' ++ Nat.toDigits 10 n) := by
  rw [decimal, String.toList_append, String.toList_ofList, Nat.toString_eq_repr, Nat.toList_repr,
    List.append_assoc]

theorem digitChar_of_isDigit {c : Char} (h : c.isDigit = true) : (c.toNat - '0'.toNat).digitChar = c := by
  have hlt := Json.toNat_sub_lt_of_isDigit h
  have hle : '0'.toNat ≤ c.toNat := by
    simp only [Char.isDigit, Bool.and_eq_true, decide_eq_true_eq] at h
    exact h.1
  have hzero : '0'.toNat = 48 := rfl
  apply Char.toNat_inj.1
  rw [Nat.toNat_digitChar_of_lt_ten hlt]
  omega

/-- Digits go on with the digits of a number other than zero. -/
theorem toDigits_append {cs : List Char} (h : ∀ c ∈ cs, c.isDigit = true) {n : Nat} (hn : 0 < n) :
    Nat.toDigits 10 n ++ cs = Nat.toDigits 10 (Nat.ofDigitChars 10 cs n) := by
  induction cs generalizing n with
  | nil => simp
  | cons c cs ih =>
    obtain ⟨hc, hcs⟩ := List.forall_mem_cons.1 h
    have hlt := Json.toNat_sub_lt_of_isDigit hc
    have hstep := Nat.toDigits_append_toDigits (by decide) hn hlt
    rw [Nat.toDigits_of_lt_base hlt, digitChar_of_isDigit hc] at hstep
    rw [Nat.ofDigitChars_cons, ← ih hcs (by omega), ← hstep, List.append_assoc, List.singleton_append]

/-- Digits are those of a number, with zeros in front. -/
theorem exists_zeros_of_digits {cs : List Char} (hne : cs ≠ []) (h : ∀ c ∈ cs, c.isDigit = true) :
    ∃ zeros, cs = List.replicate zeros '0' ++ Nat.toDigits 10 (Nat.ofDigitChars 10 cs 0) := by
  induction cs with
  | nil => contradiction
  | cons c cs ih =>
    obtain ⟨hc, hcs⟩ := List.forall_mem_cons.1 h
    have hlt := Json.toNat_sub_lt_of_isDigit hc
    rw [Nat.ofDigitChars_cons, Nat.mul_zero, Nat.zero_add]
    have hchar := digitChar_of_isDigit hc
    cases hd : c.toNat - '0'.toNat with
    | zero =>
      -- the zero is one of those in front, unless it is the only digit
      rw [hd] at hchar
      obtain rfl : '0' = c := hchar
      by_cases hnil : cs = []
      · subst hnil
        exact ⟨0, rfl⟩
      · obtain ⟨zeros, hzeros⟩ := ih hnil hcs
        exact ⟨zeros + 1, congrArg ('0' :: ·) hzeros⟩
    | succ d =>
      have happend := toDigits_append hcs (Nat.succ_pos d)
      rw [hd] at hlt hchar
      rw [Nat.toDigits_of_lt_base hlt, hchar] at happend
      exact ⟨0, happend⟩

theorem isDigit_of_mem_zeros_append {zeros n : Nat} {c : Char}
    (h : c ∈ List.replicate zeros '0' ++ Nat.toDigits 10 n) : c.isDigit = true := by
  rcases List.mem_append.1 h with hzero | hdigit
  · rw [List.eq_of_mem_replicate hzero]
    rfl
  · exact Json.isDigit_of_mem_toDigits hdigit

theorem ofDigitChars_zeros_append (zeros n : Nat) :
    Nat.ofDigitChars 10 (List.replicate zeros '0' ++ Nat.toDigits 10 n) 0 = n := by
  rw [Nat.ofDigitChars_append, Nat.ofDigitChars_replicate_zero, Nat.mul_zero,
    Nat.ofDigitChars_ten_toDigits]

/-! ## Positions -/

/-- The position of which a segment has the digits. -/
def unsigned? (cs : List Char) : Option Nat :=
  if !cs.isEmpty && cs.all Char.isDigit then
    if Nat.ofDigitChars 10 cs 0 < 2 ^ 64 then some (Nat.ofDigitChars 10 cs 0) else none
  else none

theorem unsigned?_eq_some_iff {cs : List Char} {n : Nat} :
    unsigned? cs = some n ↔
      n < 2 ^ 64 ∧ ∃ zeros, cs = List.replicate zeros '0' ++ Nat.toDigits 10 n := by
  unfold unsigned?
  constructor
  · intro h
    split at h
    · next hcs =>
      simp only [Bool.and_eq_true, Bool.not_eq_true', List.isEmpty_eq_false_iff, List.all_eq_true] at hcs
      split at h
      · next hn =>
        obtain rfl := Option.some.inj h
        exact ⟨hn, exists_zeros_of_digits hcs.1 hcs.2⟩
      · contradiction
    · contradiction
  · rintro ⟨hn, zeros, rfl⟩
    have hall : (List.replicate zeros '0' ++ Nat.toDigits 10 n).all Char.isDigit = true :=
      List.all_eq_true.2 fun _ => isDigit_of_mem_zeros_append
    simp [hall, ofDigitChars_zeros_append, hn, Nat.toDigits_ne_nil]

theorem index?_plus (cs : List Char) : index? ('+' :: cs) = unsigned? cs := rfl

theorem index?_of_ne_plus {cs : List Char} (h : ∀ rest, cs ≠ '+' :: rest) : index? cs = unsigned? cs := by
  unfold index?
  split
  · next rest => exact absurd rfl (h rest)
  · rfl

theorem ne_plus_of_digits {zeros n : Nat} (rest : List Char) :
    List.replicate zeros '0' ++ Nat.toDigits 10 n ≠ '+' :: rest := by
  intro heq
  have hplus : '+' ∈ List.replicate zeros '0' ++ Nat.toDigits 10 n := by simp [heq]
  exact absurd (isDigit_of_mem_zeros_append hplus) (by decide)

/-- The segments that name a position are its decimal numerals. -/
theorem index?_eq_some_iff {cs : List Char} {n : Nat} :
    index? cs = some n ↔ n < 2 ^ 64 ∧ ∃ plus zeros, cs = (decimal plus zeros n).toList := by
  simp only [toList_decimal]
  constructor
  · intro h
    by_cases hcs : ∃ rest, cs = '+' :: rest
    · obtain ⟨rest, rfl⟩ := hcs
      rw [index?_plus] at h
      obtain ⟨hn, zeros, rfl⟩ := unsigned?_eq_some_iff.1 h
      exact ⟨hn, true, zeros, rfl⟩
    · rw [index?_of_ne_plus (not_exists.1 hcs)] at h
      obtain ⟨hn, zeros, rfl⟩ := unsigned?_eq_some_iff.1 h
      exact ⟨hn, false, zeros, rfl⟩
  · rintro ⟨hn, plus, zeros, rfl⟩
    have hunsigned := unsigned?_eq_some_iff.2 ⟨hn, zeros, rfl⟩
    cases plus with
    | true => exact (index?_plus _).trans hunsigned
    | false => exact (index?_of_ne_plus ne_plus_of_digits).trans hunsigned

/-- No numeral has a dot in it. -/
theorem undotted_decimal (plus : Bool) (zeros n : Nat) : '.' ∉ (decimal plus zeros n).toList := by
  have hdigits : '.' ∉ List.replicate zeros '0' ++ Nat.toDigits 10 n := fun hmem =>
    absurd (isDigit_of_mem_zeros_append hmem) (by decide)
  rw [toList_decimal]
  cases plus <;> simpa using hdigits

end Quarry.Path
