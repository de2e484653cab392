-- SUMMARY: A document is read from its text as it was written.
import Quarry.Json.Printer
import Quarry.Json.Reader
import Quarry.Proofs.Json.Literals

/-!
# Reading what was written

Between a document and its text stand the tokens of the document. Its characters are cut into just these
tokens, since every number and every word ends at a punctuation mark or with the text, and the tokens are
read as the document. Fuel for one step a token is enough.
-/

namespace Quarry.Json

/-! ## Documents that can be written -/

mutual

/-- Whether the document is JSON throughout and every literal in it is a text. -/
def textual : Json → Bool
  | .broken => false
  | .string s => s.isSome
  | .array items => textualItems items
  | .object members => textualMembers members
  | _ => true

def textualItems : List Json → Bool
  | [] => true
  | j :: rest => j.textual && textualItems rest

def textualMembers : List (Option String × Json) → Bool
  | [] => true
  | (key, j) :: rest => key.isSome && j.textual && textualMembers rest

end

/-! ## Tokens of a document -/

mutual

/-- The tokens in the text of a document. -/
def spelled : Json → List Token
  | .null | .broken => [.literal .null]
  | .bool b => [.literal (.bool b)]
  | .number n => [.literal (.number n)]
  | .string s => [.text (some (s.getD ""))]
  | .array items => .openArray :: (spelledItems items ++ [.closeArray])
  | .object members => .openObject :: (spelledMembers members ++ [.closeObject])

def spelledItems : List Json → List Token
  | [] => []
  | [j] => j.spelled
  | j :: rest => j.spelled ++ .comma :: spelledItems rest

def spelledMembers : List (Option String × Json) → List Token
  | [] => []
  | [(key, j)] => .text (some (key.getD "")) :: .colon :: j.spelled
  | (key, j) :: rest =>
    .text (some (key.getD "")) :: .colon :: (j.spelled ++ .comma :: spelledMembers rest)

end

theorem spelled_eq_cons (j : Json) : ∃ t ts, j.spelled = t :: ts ∧ t ≠ .closeArray := by
  cases j <;> exact ⟨_, _, rfl, by simp⟩

theorem spelledItems_eq_cons (j : Json) (rest : List Json) :
    ∃ t ts, spelledItems (j :: rest) = t :: ts ∧ t ≠ .closeArray := by
  obtain ⟨t, ts, hts, ht⟩ := j.spelled_eq_cons
  cases rest with
  | nil => exact ⟨t, ts, hts, ht⟩
  | cons k rest => exact ⟨t, ts ++ .comma :: spelledItems (k :: rest), by simp [spelledItems, hts], ht⟩

theorem spelledMembers_eq_cons (m : Option String × Json) (rest : List (Option String × Json)) :
    ∃ s ts, spelledMembers (m :: rest) = .text s :: .colon :: ts := by
  cases rest with
  | nil => exact ⟨_, _, rfl⟩
  | cons n rest => exact ⟨_, _, rfl⟩

/-! ## Cutting a text -/

theorem tokens_punctuation {c : Char} {t : Token} (h : punctuation? c = some t) (cs : List Char) :
    tokens (c :: cs) = t :: tokens cs := by
  have hspace : isSpace c = false := by
    unfold punctuation? at h
    split at h
    all_goals first | rfl | contradiction
  rw [tokens]
  simp [hspace, h]

theorem tokens_literalChars (s : String) (rest : List Char) :
    tokens (literalChars s ++ rest) = .text (some s) :: tokens rest := by
  have hpieces := pieces?_flatMap_escapeChar s.toList rest
  have hjoin : (joinPieces? (s.toList.map pieceOf)).map String.ofList = some s := by
    rw [joinPieces?_map_pieceOf]
    simp
  have hchars : literalChars s ++ rest = '"' :: (s.toList.flatMap escapeChar ++ '"' :: rest) := by
    simp [literalChars]
  have hquote : punctuation? '"' = none := rfl
  rw [hchars, tokens, if_neg (by decide), hquote]
  simp only [if_true]
  split
  · next r hr =>
    obtain rfl := Option.some.inj (hpieces.symm.trans hr)
    rw [hjoin]
  · next hr =>
    rw [hpieces] at hr
    contradiction

/-- Neither a number nor a word goes on with these characters. -/
def Ends (rest : List Char) : Prop :=
  ∀ c ∈ rest.head?, isNumberChar c = false ∧ c.isLower = false

theorem ends_nil : Ends [] := by
  simp [Ends]

theorem ends_punctuation {c : Char} {t : Token} (h : punctuation? c = some t) (cs : List Char) :
    Ends (c :: cs) := by
  intro d hd
  obtain rfl := Option.some.inj hd
  unfold punctuation? at h
  split at h
  all_goals first | exact ⟨rfl, rfl⟩ | contradiction

theorem takeWhile_dropWhile_append {p : Char → Bool} {cs rest : List Char}
    (h : ∀ c ∈ cs, p c = true) (hrest : ∀ c ∈ rest.head?, p c = false) :
    (cs ++ rest).takeWhile p = cs ∧ (cs ++ rest).dropWhile p = rest := by
  rw [List.takeWhile_append_of_pos h, List.dropWhile_append_of_pos h]
  cases rest with
  | nil => simp
  | cons c rest => simp [hrest c (by simp)]

theorem tokens_word {cs : List Char} {j : Json} (h : wordOf? cs = some j) {rest : List Char}
    (hrest : Ends rest) : tokens (cs ++ rest) = .literal j :: tokens rest := by
  have hword : ∃ d ds, cs = d :: ds ∧ isSpace d = false ∧ punctuation? d = none ∧ d ≠ '"' ∧
      (d.isDigit || d == '-') = false ∧ ds.all Char.isLower = true := by
    unfold wordOf? at h
    split at h
    · next hcs => exact ⟨_, _, hcs, rfl, rfl, by decide, rfl, rfl⟩
    split at h
    · next hcs => exact ⟨_, _, hcs, rfl, rfl, by decide, rfl, rfl⟩
    split at h
    · next hcs => exact ⟨_, _, hcs, rfl, rfl, by decide, rfl, rfl⟩
    · contradiction
  obtain ⟨d, ds, rfl, hspace, hpunctuation, hquote, hnumber, hlower⟩ := hword
  obtain ⟨htake, hdrop⟩ := takeWhile_dropWhile_append (List.all_eq_true.1 hlower)
    fun c hc => (hrest c hc).2
  rw [List.cons_append, tokens, hspace, hpunctuation, hnumber, htake, hdrop, h]
  simp [hquote]

/-- What starts a number starts nothing else. -/
theorem start_of_number {c : Char} (h : c.isDigit = true ∨ c = '-') :
    isSpace c = false ∧ punctuation? c = none ∧ c ≠ '"' ∧ (c.isDigit || c == '-') = true := by
  rcases h with hdigit | rfl
  · have hne : ∀ d : Char, d.isDigit = false → c ≠ d := by
      rintro d hd rfl
      rw [hdigit] at hd
      contradiction
    refine ⟨by simp [isSpace, hne], ?_, hne _ rfl, by simp [hdigit]⟩
    unfold punctuation?
    split <;> simp_all
  · exact ⟨rfl, rfl, by decide, rfl⟩

theorem tokens_numeral (n : Numeral) {rest : List Char} (hrest : Ends rest) :
    tokens (n.chars ++ rest) = .literal (.number n) :: tokens rest := by
  have hread := numeralOf?_chars n
  have hall : ∀ c ∈ n.chars, isNumberChar c = true := fun _ => isNumberChar_of_mem_chars
  obtain ⟨c, cs, hchars, hc⟩ := chars_eq_cons n
  obtain ⟨hspace, hpunctuation, hquote, hnumber⟩ := start_of_number hc
  rw [hchars] at hread hall ⊢
  obtain ⟨htake, hdrop⟩ := takeWhile_dropWhile_append (List.forall_mem_cons.1 hall).2
    fun d hd => (hrest d hd).1
  rw [List.cons_append, tokens, hspace, hpunctuation, hnumber, htake, hdrop, hread]
  simp [hquote]

/-! ## Cutting the text of a document -/

mutual

/-- The text of a document is cut into its tokens. -/
theorem tokens_chars (j : Json) {rest : List Char} (hrest : Ends rest) :
    tokens (j.chars ++ rest) = j.spelled ++ tokens rest := by
  cases j with
  | null => exact tokens_word rfl hrest
  | broken => exact tokens_word rfl hrest
  | bool b => cases b <;> exact tokens_word rfl hrest
  | number n => exact tokens_numeral n hrest
  | string s => exact tokens_literalChars _ rest
  | array items =>
    have hclose := tokens_punctuation (c := ']') rfl rest
    have hitems := tokens_itemsChars items (ends_punctuation (c := ']') rfl rest)
    have hchars : (Json.array items).chars ++ rest = '[' :: (itemsChars items ++ ']' :: rest) := by
      simp [chars]
    rw [hchars, tokens_punctuation rfl, hitems, hclose]
    simp [spelled]
  | object members =>
    have hclose := tokens_punctuation (c := '\x7d') rfl rest
    have hmembers := tokens_membersChars members (ends_punctuation (c := '\x7d') rfl rest)
    have hchars : (Json.object members).chars ++ rest =
        '\x7b' :: (membersChars members ++ '\x7d' :: rest) := by
      simp [chars]
    rw [hchars, tokens_punctuation rfl, hmembers, hclose]
    simp [spelled]

theorem tokens_itemsChars (items : List Json) {rest : List Char} (hrest : Ends rest) :
    tokens (itemsChars items ++ rest) = spelledItems items ++ tokens rest := by
  match items with
  | [] => rfl
  | [j] => exact tokens_chars j hrest
  | j :: k :: items =>
    have hj := tokens_chars j (ends_punctuation (c := ',') rfl (itemsChars (k :: items) ++ rest))
    have hitems := tokens_itemsChars (k :: items) hrest
    rw [tokens_punctuation rfl, hitems] at hj
    simpa [itemsChars, spelledItems] using hj

theorem tokens_membersChars (members : List (Option String × Json)) {rest : List Char}
    (hrest : Ends rest) :
    tokens (membersChars members ++ rest) = spelledMembers members ++ tokens rest := by
  match members with
  | [] => rfl
  | [(key, j)] =>
    have hj := tokens_chars j hrest
    have hcolon := tokens_punctuation (c := ':') rfl (j.chars ++ rest)
    have hkey := tokens_literalChars (key.getD "") (':' :: (j.chars ++ rest))
    rw [hcolon, hj] at hkey
    simpa [membersChars, spelledMembers] using hkey
  | (key, j) :: m :: members =>
    have hj := tokens_chars j (ends_punctuation (c := ',') rfl (membersChars (m :: members) ++ rest))
    have hmembers := tokens_membersChars (m :: members) hrest
    have hcolon := tokens_punctuation (c := ':') rfl
      (j.chars ++ ',' :: (membersChars (m :: members) ++ rest))
    have hkey := tokens_literalChars (key.getD "")
      (':' :: (j.chars ++ ',' :: (membersChars (m :: members) ++ rest)))
    rw [tokens_punctuation rfl, hmembers] at hj
    rw [hcolon, hj] at hkey
    simpa [membersChars, spelledMembers] using hkey

end

/-! ## Reading tokens -/

theorem readValue_openArray {t : Token} (ht : t ≠ .closeArray) (fuel : Nat) (ts : List Token) :
    readValue (fuel + 1) (.openArray :: t :: ts) =
      (.array (readItems fuel (t :: ts)).1, (readItems fuel (t :: ts)).2) := by
  cases t <;> first | rfl | contradiction

theorem readValue_openObject (fuel : Nat) (s : Option String) (ts : List Token) :
    readValue (fuel + 1) (.openObject :: .text s :: ts) =
      (.object (readMembers fuel (.text s :: ts)).1, (readMembers fuel (.text s :: ts)).2) := rfl

mutual

/-- The tokens of a document are read as the document. -/
theorem readValue_spelled (j : Json) (fuel : Nat) (hj : j.textual = true)
    (hfuel : j.spelled.length ≤ fuel) (rest : List Token) :
    readValue fuel (j.spelled ++ rest) = (j, some rest) := by
  obtain ⟨fuel, rfl⟩ : ∃ f, fuel = f + 1 := by
    obtain ⟨t, ts, hts, -⟩ := j.spelled_eq_cons
    rw [hts, List.length_cons] at hfuel
    exact ⟨fuel - 1, by omega⟩
  cases j with
  | null => rfl
  | broken => contradiction
  | bool b => rfl
  | number n => rfl
  | string s =>
    obtain ⟨t, rfl⟩ := Option.isSome_iff_exists.1 hj
    rfl
  | array items =>
    cases items with
    | nil => rfl
    | cons k items =>
      have hread := readItems_spelled (k :: items) fuel (List.cons_ne_nil _ _) hj
        (by simpa [spelled] using hfuel) rest
      obtain ⟨t, ts, hts, ht⟩ := spelledItems_eq_cons k items
      have hspelled : (Json.array (k :: items)).spelled ++ rest =
          .openArray :: (spelledItems (k :: items) ++ .closeArray :: rest) := by
        simp [spelled]
      rw [hspelled, hts, List.cons_append, readValue_openArray ht, ← List.cons_append, ← hts, hread]
  | object members =>
    cases members with
    | nil => rfl
    | cons m members =>
      have hread := readMembers_spelled (m :: members) fuel (List.cons_ne_nil _ _) hj
        (by simpa [spelled] using hfuel) rest
      obtain ⟨s, ts, hts⟩ := spelledMembers_eq_cons m members
      have hspelled : (Json.object (m :: members)).spelled ++ rest =
          .openObject :: (spelledMembers (m :: members) ++ .closeObject :: rest) := by
        simp [spelled]
      rw [hspelled, hts, List.cons_append, readValue_openObject, ← List.cons_append, ← hts, hread]

theorem readItems_spelled (items : List Json) (fuel : Nat) (hne : items ≠ [])
    (hitems : textualItems items = true) (hfuel : (spelledItems items).length + 1 ≤ fuel)
    (rest : List Token) :
    readItems fuel (spelledItems items ++ .closeArray :: rest) = (items, some rest) := by
  obtain ⟨fuel, rfl⟩ : ∃ f, fuel = f + 1 := ⟨fuel - 1, by omega⟩
  match items with
  | [] => contradiction
  | [j] =>
    have hj : j.textual = true := (Bool.and_eq_true_iff.1 hitems).1
    have hread := readValue_spelled j fuel hj (Nat.le_of_succ_le_succ hfuel) (.closeArray :: rest)
    simp only [spelledItems, readItems, hread]
  | j :: k :: items =>
    obtain ⟨hj, hothers⟩ := Bool.and_eq_true_iff.1 hitems
    simp only [spelledItems, List.length_append, List.length_cons] at hfuel
    have hread := readValue_spelled j fuel hj (by omega)
      (.comma :: (spelledItems (k :: items) ++ .closeArray :: rest))
    have hrest := readItems_spelled (k :: items) fuel (List.cons_ne_nil _ _) hothers
      (by omega) rest
    simp only [spelledItems, List.append_assoc, List.cons_append, readItems, hread, hrest]

theorem readMembers_spelled (members : List (Option String × Json)) (fuel : Nat) (hne : members ≠ [])
    (hmembers : textualMembers members = true) (hfuel : (spelledMembers members).length + 1 ≤ fuel)
    (rest : List Token) :
    readMembers fuel (spelledMembers members ++ .closeObject :: rest) = (members, some rest) := by
  obtain ⟨fuel, rfl⟩ : ∃ f, fuel = f + 1 := ⟨fuel - 1, by omega⟩
  match members with
  | [] => contradiction
  | [(key, j)] =>
    obtain ⟨hmember, -⟩ := Bool.and_eq_true_iff.1 hmembers
    obtain ⟨hkey, hj⟩ := Bool.and_eq_true_iff.1 hmember
    obtain ⟨s, rfl⟩ := Option.isSome_iff_exists.1 hkey
    simp only [spelledMembers, List.length_cons] at hfuel
    have hread := readValue_spelled j fuel hj (by omega) (.closeObject :: rest)
    simp only [spelledMembers, List.cons_append, readMembers, hread, Option.getD_some]
  | (key, j) :: m :: members =>
    obtain ⟨hmember, hothers⟩ := Bool.and_eq_true_iff.1 hmembers
    obtain ⟨hkey, hj⟩ := Bool.and_eq_true_iff.1 hmember
    obtain ⟨s, rfl⟩ := Option.isSome_iff_exists.1 hkey
    simp only [spelledMembers, List.length_append, List.length_cons] at hfuel
    have hread := readValue_spelled j fuel hj (by omega)
      (.comma :: (spelledMembers (m :: members) ++ .closeObject :: rest))
    have hrest := readMembers_spelled (m :: members) fuel (List.cons_ne_nil _ _) hothers
      (by omega) rest
    simp only [spelledMembers, List.append_assoc, List.cons_append, readMembers, hread, hrest,
      Option.getD_some]

end

/-! ## Texts -/

/-- The text of a document holds that document and nothing more. -/
theorem read_render {j : Json} (hj : j.textual = true) : read j.render = ⟨j, true⟩ := by
  have htokens : tokens j.render.toList = j.spelled := by
    have hchars := tokens_chars j ends_nil
    have hnil : tokens [] = [] := by rw [tokens]
    rw [List.append_nil, hnil, List.append_nil] at hchars
    unfold render
    rw [String.toList_ofList, hchars]
  have hvalue := readValue_spelled j (2 * j.spelled.length + 2) hj (by omega) []
  rw [List.append_nil] at hvalue
  unfold read
  simp only [htokens, hvalue]

end Quarry.Json
