-- SUMMARY: Texts in order are in the order of their UTF-8 bytes.

/-!
# The order of texts

Texts are compared character by character. A byte by byte comparison of what they are encoded to gives
the same order: a character is written as a number in base 64 of one to four digits, the first of them
moved up by an offset that tells how many follow, so that longer forms start with a greater byte.
-/

namespace Quarry.Text

/-- The bytes of a text. -/
def bytes (s : String) : List UInt8 :=
  s.toUTF8.data.toList

/-! ## Digits -/

/-- A number in base 64 as a first digit with an offset, whatever its size, and `k` more digits. -/
def digits (offset : Nat) : Nat → Nat → List UInt8
  | 0, n => [UInt8.ofNat (offset + n)]
  | k + 1, n => digits offset k (n / 64) ++ [UInt8.ofNat (n % 64 + 128)]

theorem ofNat_lt_ofNat {m n : Nat} (h : m < n) (hn : n < 256) : UInt8.ofNat m < UInt8.ofNat n := by
  rw [UInt8.lt_iff_toNat_lt, UInt8.toNat_ofNat_of_lt' hn, UInt8.toNat_ofNat_of_lt' (Nat.lt_trans h hn)]
  exact h

theorem exists_digits_eq (offset k n : Nat) :
    ∃ rest, digits offset k n = UInt8.ofNat (offset + n / 64 ^ k) :: rest := by
  induction k generalizing n with
  | zero => simp [digits]
  | succ k ih =>
    obtain ⟨rest, hrest⟩ := ih (n / 64)
    rw [Nat.div_div_eq_div_mul, ← Nat.pow_succ'] at hrest
    exact ⟨rest ++ [UInt8.ofNat (n % 64 + 128)], by simp [digits, hrest]⟩

/-- Forms with different first bytes are in the order of these. -/
theorem digits_lt_of_lead {offset offset' k l m n : Nat}
    (h : offset + m / 64 ^ k < offset' + n / 64 ^ l) (hn : offset' + n / 64 ^ l < 256)
    (x y : List UInt8) : digits offset k m ++ x < digits offset' l n ++ y := by
  obtain ⟨restm, hm⟩ := exists_digits_eq offset k m
  obtain ⟨restn, hn'⟩ := exists_digits_eq offset' l n
  rw [hm, hn']
  exact List.cons_lt_cons_iff.2 (.inl (ofNat_lt_ofNat h hn))

/-- Forms of one length are in the order of the numbers. -/
theorem digits_lt {offset k m n : Nat} (h : m < n) (hn : offset + n / 64 ^ k < 256)
    (x y : List UInt8) : digits offset k m ++ x < digits offset k n ++ y := by
  induction k generalizing m n x y with
  | zero => exact digits_lt_of_lead (by simpa using h) hn x y
  | succ k ih =>
    simp only [digits, List.append_assoc]
    -- what stands before the last digit decides, or the last digit does
    rcases Nat.lt_or_eq_of_le (Nat.div_le_div_right (c := 64) (Nat.le_of_lt h)) with hlt | heq
    · rw [Nat.pow_succ', ← Nat.div_div_eq_div_mul] at hn
      exact ih hlt hn _ _
    · have hlast : m % 64 + 128 < n % 64 + 128 := by omega
      rw [heq]
      refine List.append_left_lt (List.cons_lt_cons_iff.2 (.inl (ofNat_lt_ofNat hlast ?_)))
      omega

/-! ## Characters -/

theorem toNat_lt (c : Char) : c.toNat < 0x110000 := by
  rcases c.valid with h | ⟨_, h⟩
  · exact Nat.lt_trans h (by decide)
  · exact h

/-- The offset of the first digit, and how many more there are. -/
def form (n : Nat) : Nat × Nat :=
  if n ≤ 0x7f then (0, 0) else if n ≤ 0x7ff then (0xc0, 1) else if n ≤ 0xffff then (0xe0, 2)
  else (0xf0, 3)

/-- The first digit, moved up. -/
def lead (n : Nat) : Nat :=
  (form n).1 + n / 64 ^ (form n).2

theorem lead_lt {n : Nat} (hn : n < 0x110000) : lead n < 256 := by
  unfold lead form
  split
  · simp; omega
  · split
    · simp; omega
    · split
      · simp; omega
      · simp; omega

/-- Longer forms are for greater numbers and start with greater bytes. -/
theorem form_eq_or_lead_lt {m n : Nat} (h : m < n) : form m = form n ∨ lead m < lead n := by
  unfold lead form
  grind

theorem utf8EncodeChar_eq (c : Char) :
    String.utf8EncodeChar c = digits (form c.toNat).1 (form c.toNat).2 c.toNat := by
  have hc := toNat_lt c
  have hfirst {n b : Nat} (h : n < b) (offset : Nat) : n % b + offset = offset + n := by
    rw [Nat.mod_eq_of_lt h, Nat.add_comm]
  unfold String.utf8EncodeChar Char.toNat form at *
  generalize c.val.toNat = n at *
  dsimp only
  split
  · simp [digits]
  · split
    · simp [digits, hfirst (show n / 64 < 32 by omega)]
    · split
      · simp [digits, Nat.div_div_eq_div_mul, hfirst (show n / 4096 < 16 by omega)]
      · simp [digits, Nat.div_div_eq_div_mul, hfirst (show n / 262144 < 8 by omega)]

theorem utf8EncodeChar_lt {c d : Char} (h : c < d) (x y : List UInt8) :
    String.utf8EncodeChar c ++ x < String.utf8EncodeChar d ++ y := by
  have hlt : c.toNat < d.toNat := h
  have hd := lead_lt (toNat_lt d)
  rw [utf8EncodeChar_eq, utf8EncodeChar_eq]
  rcases form_eq_or_lead_lt hlt with hform | hlead
  · rw [hform]
    exact digits_lt hlt hd x y
  · exact digits_lt_of_lead hlead hd x y

/-! ## Texts -/

theorem bytes_eq (s : String) : bytes s = s.toList.flatMap String.utf8EncodeChar := by
  simp [bytes, String.toUTF8, ← String.utf8Encode_toList, List.utf8Encode]

theorem flatMap_utf8EncodeChar_lt {cs ds : List Char} (h : cs < ds) :
    cs.flatMap String.utf8EncodeChar < ds.flatMap String.utf8EncodeChar := by
  induction h with
  | @nil d ds =>
    -- no character is written with no bytes
    obtain ⟨rest, hrest⟩ := exists_digits_eq (form d.toNat).1 (form d.toNat).2 d.toNat
    rw [List.flatMap_cons, utf8EncodeChar_eq, hrest]
    exact List.nil_lt_cons _ _
  | rel hcd => exact utf8EncodeChar_lt hcd _ _
  | cons _ ih => exact List.append_left_lt ih

theorem bytes_lt {s t : String} (h : compare s t = .lt) : bytes s < bytes t := by
  rw [bytes_eq, bytes_eq]
  have hlt : s < t := compareOfLessAndEq_eq_lt.1 h
  exact flatMap_utf8EncodeChar_lt hlt

end Quarry.Text
