-- SUMMARY: Numbers and texts are read from a document as they were written to it.
import Quarry.Json.Token

/-!
# Literals

The characters of a numeral are read as that numeral: the digits of a number have no zero in front, and
each part ends where the next one begins. The literal of a text is read as that text: every character
of it is written so that reading finds it as one piece, and no piece is half of a surrogate pair.
-/

namespace Quarry.Json

/-! ## Digits -/

theorem digitOf?_digitChar (d : Fin 10) : Numeral.digitOf? (Numeral.digitChar d) = some d := by
  revert d
  decide

theorem isDigit_digitChar (d : Fin 10) : (Numeral.digitChar d).isDigit = true := by
  revert d
  decide

theorem toNat_sub_lt_of_isDigit {c : Char} (h : c.isDigit = true) : c.toNat - '0'.toNat < 10 := by
  have hle : c.toNat ≤ '9'.toNat := by
    simp only [Char.isDigit, Bool.and_eq_true, decide_eq_true_eq] at h
    exact h.2
  have hnine : '9'.toNat = 57 := rfl
  have hzero : '0'.toNat = 48 := rfl
  omega

theorem exists_digitOf? {c : Char} (h : c.isDigit = true) :
    ∃ d : Fin 10, Numeral.digitOf? c = some d ∧ d.val = c.toNat - '0'.toNat := by
  refine ⟨⟨(c.toNat - '0'.toNat) % 10, by omega⟩, by simp [Numeral.digitOf?, h], ?_⟩
  exact Nat.mod_eq_of_lt (toNat_sub_lt_of_isDigit h)

theorem filterMap_digitChar (ds : List (Fin 10)) :
    (ds.map Numeral.digitChar).filterMap Numeral.digitOf? = ds := by
  rw [List.filterMap_map]
  simp only [Function.comp_def, digitOf?_digitChar, List.filterMap_some]

/-- A run of digits is taken as a whole. -/
theorem takeDigits_append (cs : List Char) {rest : List Char} (h : ∀ c ∈ cs, c.isDigit = true)
    (hrest : ∀ c ∈ rest.head?, c.isDigit = false) :
    takeDigits (cs ++ rest) = (cs.filterMap Numeral.digitOf?, rest) := by
  induction cs with
  | nil =>
    cases rest with
    | nil => rfl
    | cons c rest =>
      have hnone : Numeral.digitOf? c = none := by
        simp [Numeral.digitOf?, hrest c (by simp)]
      simp [takeDigits, hnone]
  | cons c cs ih =>
    obtain ⟨d, hd, -⟩ := exists_digitOf? (h c (by simp))
    have htail := ih fun x hx => h x (by simp [hx])
    simp [takeDigits, hd, htail]

theorem foldl_digitOf? {cs : List Char} (h : ∀ c ∈ cs, c.isDigit = true) (n : Nat) :
    (cs.filterMap Numeral.digitOf?).foldl (fun (acc : Nat) (d : Fin 10) => 10 * acc + d) n =
      Nat.ofDigitChars 10 cs n := by
  induction cs generalizing n with
  | nil => rfl
  | cons c cs ih =>
    obtain ⟨d, hd, hval⟩ := exists_digitOf? (h c (by simp))
    rw [List.filterMap_cons_some hd, List.foldl_cons, Nat.ofDigitChars_cons, hval]
    exact ih (fun x hx => h x (by simp [hx])) _

/-! ## Digits of a number -/

/-- The digits of a number. -/
def digitsOf (n : Nat) : List (Fin 10) :=
  (Nat.toDigits 10 n).filterMap Numeral.digitOf?

theorem isDigit_of_mem_toDigits {n : Nat} {c : Char} (h : c ∈ Nat.toDigits 10 n) : c.isDigit = true :=
  Nat.isDigit_of_mem_toDigits (by decide) (by decide) h

theorem digitsValue_digitsOf (n : Nat) : digitsValue (digitsOf n) = n :=
  (foldl_digitOf? (fun _ => isDigit_of_mem_toDigits) 0).trans Nat.ofDigitChars_ten_toDigits

theorem takeDigits_toDigits (n : Nat) (rest : List Char)
    (hrest : ∀ c ∈ rest.head?, c.isDigit = false) :
    takeDigits (Nat.toDigits 10 n ++ rest) = (digitsOf n, rest) :=
  takeDigits_append _ (fun _ => isDigit_of_mem_toDigits) hrest

theorem digitsOf_of_lt {n : Nat} (h : n < 10) : digitsOf n = [⟨n, h⟩] := by
  have hall : ∀ d : Fin 10, digitsOf d = [d] := by decide
  exact hall ⟨n, h⟩

theorem digitsOf_of_le {n : Nat} (h : 10 ≤ n) : ∃ d, digitsOf n = digitsOf (n / 10) ++ [d] := by
  obtain ⟨d, hd, -⟩ := exists_digitOf? (c := (n % 10).digitChar)
    (by simp [Nat.isDigit_digitChar, Nat.mod_lt])
  refine ⟨d, ?_⟩
  unfold digitsOf
  rw [Nat.toDigits_of_base_le (by decide) h, List.filterMap_append]
  simp [hd]

/-- No zero stands in front of other digits of a number. -/
theorem digitsOf_eq_cons (n : Nat) :
    ∃ d ds, digitsOf n = d :: ds ∧ (d = 0 → ds = []) ∧ (n ≠ 0 → d ≠ 0) := by
  induction n using Nat.strongRecOn with
  | ind n ih =>
    rcases Nat.lt_or_ge n 10 with hlt | hge
    · refine ⟨⟨n, hlt⟩, [], digitsOf_of_lt hlt, fun _ => rfl, ?_⟩
      intro hn heq
      exact hn (congrArg Fin.val heq)
    · -- the first digit is that of the number without its last one
      obtain ⟨d, ds, hds, -, hnonzero⟩ := ih (n / 10) (by omega)
      obtain ⟨e, he⟩ := digitsOf_of_le hge
      refine ⟨d, ds ++ [e], by rw [he, hds]; rfl, ?_, fun _ => hnonzero (by omega)⟩
      intro hzero
      exact absurd hzero (hnonzero (by omega))

/-! ## Numerals -/

theorem exponentOf?_exponentText (e : Int) :
    exponentOf? (Numeral.exponentText e) = some (some e) := by
  have htake := takeDigits_toDigits e.natAbs [] (by simp)
  have hvalue := digitsValue_digitsOf e.natAbs
  obtain ⟨d, ds, hds, -, -⟩ := digitsOf_eq_cons e.natAbs
  rw [List.append_nil, hds] at htake
  rw [hds] at hvalue
  unfold Numeral.exponentText
  by_cases h : e < 0
  · have habs : (e.natAbs : Int) = -e := by omega
    generalize e.natAbs = k at htake hvalue habs ⊢
    simp [exponentOf?, h, htake, hvalue]
    omega
  · have habs : (e.natAbs : Int) = e := by omega
    generalize e.natAbs = k at htake hvalue habs ⊢
    simp [exponentOf?, h, htake, hvalue]
    omega

theorem exponentOf?_ending (exponent : Option Int) :
    exponentOf? ((exponent.map Numeral.exponentText).getD []) = some exponent := by
  cases exponent with
  | none => rfl
  | some e => exact exponentOf?_exponentText e

theorem head?_ending (exponent : Option Int) :
    ∀ c ∈ ((exponent.map Numeral.exponentText).getD []).head?, c = 'e' := by
  cases exponent <;> simp [Numeral.exponentText]

theorem numeralOf?_of_isDigit {c : Char} {cs : List Char} (h : c.isDigit = true) :
    numeralOf? (c :: cs) = unsignedOf? false (c :: cs) := by
  unfold numeralOf?
  split
  · next hminus =>
    obtain ⟨rfl, -⟩ := List.cons.inj hminus
    contradiction
  · rfl

theorem unsignedOf?_chars (negative : Bool) (whole : Nat) (fraction : List (Fin 10))
    (exponent : Option Int) :
    unsignedOf? negative (Nat.toDigits 10 whole
      ++ ((if fraction.isEmpty then [] else '.' :: fraction.map Numeral.digitChar)
        ++ (exponent.map Numeral.exponentText).getD [])) =
      some ⟨negative, whole, fraction, exponent⟩ := by
  obtain ⟨d, ds, hds, hpad, -⟩ := digitsOf_eq_cons whole
  have hvalue : digitsValue (d :: ds) = whole := hds ▸ digitsValue_digitsOf whole
  have hlead : ((d :: ds).head? == some 0 && (d :: ds).length != 1) = false := by
    by_cases hd : d = 0
    · simp [hpad hd]
    · simp [hd]
  have hexponent := exponentOf?_ending exponent
  have hhead := head?_ending exponent
  generalize (exponent.map Numeral.exponentText).getD [] = ending at hexponent hhead ⊢
  have hending : ∀ c ∈ ending.head?, c.isDigit = false := by
    intro c hc
    rw [hhead c hc]
    rfl
  unfold unsignedOf?
  cases fraction with
  | nil =>
    have htake := takeDigits_toDigits whole ending hending
    -- what follows the whole part is not taken for the point of a fraction
    have hpoint : ∀ rest, ending ≠ '.' :: rest := by
      rintro rest rfl
      simp at hhead
    simp only [List.isEmpty_nil, if_true, List.nil_append, htake, hds, hlead]
    simp [hexponent, hvalue]
  | cons x xs =>
    have htake := takeDigits_toDigits whole
      ('.' :: ((x :: xs).map Numeral.digitChar ++ ending)) (by simp)
    have hfraction := takeDigits_append ((x :: xs).map Numeral.digitChar)
      (by simp [isDigit_digitChar]) hending
    rw [filterMap_digitChar] at hfraction
    simp only [List.isEmpty_cons, Bool.false_eq_true, if_false, List.cons_append, htake, hds,
      hfraction, hlead]
    simp [hexponent, hvalue]

/-- The characters of a numeral are read as the numeral. -/
theorem numeralOf?_chars (n : Numeral) : numeralOf? n.chars = some n := by
  obtain ⟨negative, whole, fraction, exponent⟩ := n
  have hunsigned := unsignedOf?_chars negative whole fraction exponent
  unfold Numeral.chars
  simp only [List.append_assoc]
  cases negative with
  | true => exact hunsigned
  | false =>
    cases hdigits : Nat.toDigits 10 whole with
    | nil => exact absurd hdigits Nat.toDigits_ne_nil
    | cons c cs =>
      have hc : c.isDigit = true := isDigit_of_mem_toDigits (n := whole) (by simp [hdigits])
      rw [hdigits] at hunsigned
      exact (numeralOf?_of_isDigit hc).trans hunsigned

/-! ## Characters of numerals -/

theorem isNumberChar_of_isDigit {c : Char} (h : c.isDigit = true) : isNumberChar c = true := by
  simp [isNumberChar, h]

theorem isNumberChar_of_mem_exponentText {e : Int} {c : Char} (h : c ∈ Numeral.exponentText e) :
    isNumberChar c = true := by
  rcases List.mem_append.1 h with hc | hc
  · rcases List.mem_cons.1 hc with rfl | hsign
    · rfl
    · rw [List.mem_singleton.1 hsign]
      split <;> rfl
  · exact isNumberChar_of_isDigit (isDigit_of_mem_toDigits hc)

theorem isNumberChar_of_mem_chars {n : Numeral} {c : Char} (h : c ∈ n.chars) :
    isNumberChar c = true := by
  unfold Numeral.chars at h
  simp only [List.mem_append] at h
  rcases h with ((hsign | hwhole) | hfraction) | hexponent
  · split at hsign
    · obtain rfl := List.mem_singleton.1 hsign
      rfl
    · contradiction
  · exact isNumberChar_of_isDigit (isDigit_of_mem_toDigits hwhole)
  · split at hfraction
    · contradiction
    · rcases List.mem_cons.1 hfraction with rfl | hdigit
      · rfl
      · obtain ⟨d, -, rfl⟩ := List.mem_map.1 hdigit
        exact isNumberChar_of_isDigit (isDigit_digitChar d)
  · cases hexp : n.exponent with
    | none =>
      rw [hexp] at hexponent
      contradiction
    | some e =>
      rw [hexp] at hexponent
      exact isNumberChar_of_mem_exponentText hexponent

/-- A numeral starts with a digit or a sign. -/
theorem chars_eq_cons (n : Numeral) : ∃ c cs, n.chars = c :: cs ∧ (c.isDigit = true ∨ c = '-') := by
  unfold Numeral.chars
  simp only [List.append_assoc]
  cases n.negative with
  | true => exact ⟨'-', _, rfl, .inr rfl⟩
  | false =>
    cases hdigits : Nat.toDigits 10 n.whole with
    | nil => exact absurd hdigits Nat.toDigits_ne_nil
    | cons c cs =>
      exact ⟨c, _, rfl, .inl (isDigit_of_mem_toDigits (n := n.whole) (by simp [hdigits]))⟩

/-! ## Texts -/

theorem hexValue?_hexDigit {n : Nat} (h : n < 16) : hexValue? (hexDigit n) = some n := by
  have hall : ∀ d : Fin 16, hexValue? (hexDigit d) = some d.val := by decide
  exact hall ⟨n, h⟩

theorem pieces?_char {c : Char} (hquote : c ≠ '"') (hslash : c ≠ '\\') (hvisible : ¬ c < ' ')
    (cs : List Char) : pieces? (c :: cs) = (pieces? cs).map fun r => (.char c :: r.1, r.2) := by
  rw [pieces?.eq_def]
  split
  case h_5 heq =>
    obtain ⟨rfl, rfl⟩ := List.cons.inj heq
    exact if_neg hvisible
  all_goals simp_all

theorem pieces?_escape {e c : Char} (he : e ≠ 'u') (h : escaped? e = some c) (cs : List Char) :
    pieces? ('\\' :: e :: cs) = (pieces? cs).map fun r => (.char c :: r.1, r.2) := by
  rw [pieces?.eq_def]
  split
  case h_4 heq =>
    obtain ⟨-, htail⟩ := List.cons.inj heq
    obtain ⟨rfl, rfl⟩ := List.cons.inj htail
    simp only [h]
  case h_5 hescape heq =>
    obtain ⟨rfl, rfl⟩ := List.cons.inj heq
    exact absurd rfl (hescape e cs rfl)
  all_goals simp_all

theorem pieces?_unit {a b c d : Char} {code : Nat} (h : unitOf? a b c d = some code)
    (cs : List Char) :
    pieces? ('\\' :: 'u' :: a :: b :: c :: d :: cs) =
      (pieces? cs).map fun r => (.unit code :: r.1, r.2) := by
  rw [pieces?.eq_def]
  simp only [h]

/-- The piece as which a character is written: a code for the control characters that have no letter
    of their own, and itself for all others. -/
def pieceOf (c : Char) : Piece :=
  if c < ' ' ∧ c ∉ ['\x08', '\t', '\n', '\x0c', '\r'] then .unit c.toNat else .char c

/-- A character is read as its piece. -/
theorem pieces?_escapeChar (c : Char) (cs : List Char) :
    pieces? (escapeChar c ++ cs) = (pieces? cs).map fun r => (pieceOf c :: r.1, r.2) := by
  unfold escapeChar
  split
  case h_8 _ hquote hslash hletter1 hletter2 hletter3 hletter4 hletter5 =>
    split
    · next hlow =>
      have hlt : c.toNat < 32 := hlow
      have hhigh := hexValue?_hexDigit (n := c.toNat / 16) (by omega)
      have hunit := hexValue?_hexDigit (n := c.toNat % 16) (by omega)
      have hcode : unitOf? '0' '0' (hexDigit (c.toNat / 16)) (hexDigit (c.toNat % 16)) =
          some c.toNat := by
        have hzero : hexValue? '0' = some 0 := by decide
        simp only [unitOf?, hzero, hhigh, hunit, bind, Option.bind, pure]
        congr 1
        omega
      have hpiece : pieceOf c = .unit c.toNat := if_pos ⟨hlow, by simp_all⟩
      rw [hpiece]
      exact pieces?_unit hcode cs
    · next hlow =>
      have hpiece : pieceOf c = .char c := if_neg fun h => hlow h.1
      rw [hpiece]
      exact pieces?_char hquote hslash hlow cs
  all_goals exact pieces?_escape (by decide) rfl cs

theorem pieces?_flatMap_escapeChar (cs rest : List Char) :
    pieces? (cs.flatMap escapeChar ++ '"' :: rest) = some (cs.map pieceOf, rest) := by
  induction cs with
  | nil => rfl
  | cons c cs ih =>
    rw [List.flatMap_cons, List.append_assoc, pieces?_escapeChar, ih]
    rfl

/-- A piece that was written for a character is that character, whatever follows. -/
theorem joinPieces?_pieceOf (c : Char) (ps : List Piece) :
    joinPieces? (pieceOf c :: ps) = (joinPieces? ps).map (c :: ·) := by
  unfold pieceOf
  split
  · next h =>
    have hlt : c.toNat < 32 := h.1
    have hhigh : isHighSurrogate c.toNat = false := by
      simp [isHighSurrogate]
      omega
    have hlow : isLowSurrogate c.toNat = false := by
      simp [isLowSurrogate]
      omega
    cases ps with
    | nil => simp [joinPieces?, hhigh, hlow]
    | cons p ps => cases p <;> simp [joinPieces?, hhigh, hlow]
  · rfl

theorem joinPieces?_map_pieceOf (cs : List Char) : joinPieces? (cs.map pieceOf) = some cs := by
  induction cs with
  | nil => rfl
  | cons c cs ih =>
    rw [List.map_cons, joinPieces?_pieceOf, ih]
    rfl

end Quarry.Json
