-- SUMMARY: Typed access finds in a document what was put into it.
import Quarry.Json.Access
import Quarry.Proofs.Json.RoundTrip

/-!
# Documents taken apart

How deep a document is nested is how many arrays and objects are open at once in it. A structure that was
written with some of its fields is taken apart into just these fields, whatever the others are, and the
numbers and texts in it are those that were written.
-/

namespace Quarry

/-! ## Doubles -/

/-- The number has a text in documents, and the text is read as the number. -/
structure Binary64.Legible (x : Binary64) : Prop where
  finite : x.isFinite = true
  readsBack : (FloatStyle.document.numeral x).toBinary64 = x

instance (x : Binary64) : Decidable x.Legible :=
  decidable_of_iff (x.isFinite = true ∧ (FloatStyle.document.numeral x).toBinary64 = x)
    ⟨fun h => ⟨h.1, h.2⟩, fun h => ⟨h.finite, h.readsBack⟩⟩

namespace Json

/-! ## Nesting -/

mutual

/-- How many arrays and objects are open at once in a document. -/
def depth : Json → Nat
  | .array items => depthOfItems items + 1
  | .object members => depthOfMembers members + 1
  | _ => 0

def depthOfItems : List Json → Nat
  | [] => 0
  | j :: rest => max j.depth (depthOfItems rest)

def depthOfMembers : List (Option String × Json) → Nat
  | [] => 0
  | (_, j) :: rest => max j.depth (depthOfMembers rest)

end

theorem depthOfItems_le_iff {items : List Json} {d : Nat} :
    depthOfItems items ≤ d ↔ ∀ j ∈ items, j.depth ≤ d := by
  induction items with
  | nil => simp [depthOfItems]
  | cons j items ih => rw [depthOfItems, Nat.max_le, ih, List.forall_mem_cons]

theorem depthOfMembers_le_iff {members : List (Option String × Json)} {d : Nat} :
    depthOfMembers members ≤ d ↔ ∀ m ∈ members, m.2.depth ≤ d := by
  induction members with
  | nil => simp [depthOfMembers]
  | cons m members ih => rw [depthOfMembers, Nat.max_le, ih, List.forall_mem_cons]

/-- What is in an array may be nested one level less. -/
theorem exists_of_depth_array_le {items : List Json} {d : Nat} (h : (array items).depth ≤ d) :
    ∃ e, d = e + 1 ∧ ∀ j ∈ items, j.depth ≤ e := by
  rw [depth] at h
  refine ⟨d - 1, by omega, ?_⟩
  exact depthOfItems_le_iff.1 (by omega)

theorem exists_of_depth_tagged_le {tag : String} {j : Json} {d : Nat}
    (h : (tagged tag j).depth ≤ d) : ∃ e, d = e + 1 ∧ j.depth ≤ e := by
  rw [tagged, depth] at h
  have hmember : ∀ m ∈ [(some tag, j)], m.2.depth ≤ d - 1 := depthOfMembers_le_iff.1 (by omega)
  exact ⟨d - 1, by omega, hmember _ (List.mem_singleton_self _)⟩

theorem exists_of_depth_ofMembers_le {members : List (String × Json)} {d : Nat}
    (h : (ofMembers members).depth ≤ d) : ∃ e, d = e + 1 ∧ ∀ m ∈ members, m.2.depth ≤ e := by
  rw [ofMembers, depth] at h
  have hmembers : ∀ m ∈ members.map fun m => (some m.1, m.2), m.2.depth ≤ d - 1 :=
    depthOfMembers_le_iff.1 (by omega)
  exact ⟨d - 1, by omega, fun m hm => hmembers _ (List.mem_map_of_mem hm)⟩

/-! ## Texts in a document -/

theorem textualItems_iff {items : List Json} :
    textualItems items = true ↔ ∀ j ∈ items, j.textual = true := by
  induction items with
  | nil => simp [textualItems]
  | cons j items ih => rw [textualItems, Bool.and_eq_true, ih, List.forall_mem_cons]

theorem textual_array {items : List Json} (h : ∀ j ∈ items, j.textual = true) :
    (array items).textual = true :=
  textualItems_iff.2 h

theorem textual_ofMembers (members : List (String × Json))
    (h : ∀ m ∈ members, m.2.textual = true) : (ofMembers members).textual = true := by
  change textualMembers (members.map fun m => (some m.1, m.2)) = true
  induction members with
  | nil => rfl
  | cons m members ih =>
    obtain ⟨hm, hmembers⟩ := List.forall_mem_cons.1 h
    simp [textualMembers, hm, ih hmembers]

theorem textual_tagged (tag : String) {j : Json} (h : j.textual = true) :
    (tagged tag j).textual = true :=
  textual_ofMembers [(tag, j)] (by simpa using h)

@[simp] theorem textual_ofString (s : String) : (ofString s).textual = true := rfl

@[simp] theorem textual_ofInt (n : Int) : (ofInt n).textual = true := rfl

@[simp] theorem textual_bool (b : Bool) : (Json.bool b).textual = true := rfl

theorem textual_ofFloat (x : Binary64) : (ofFloat x).textual = true := by
  unfold ofFloat
  split <;> rfl

/-! ## Scalars -/

theorem toInt?_ofInt (n : Int) : (Numeral.ofInt n).toInt? = some n := by
  unfold Numeral.ofInt Numeral.toInt?
  obtain ⟨k, rfl | rfl⟩ := n.eq_nat_or_neg
  · have hnonneg : ¬ (k : Int) < 0 := by omega
    simp [hnonneg]
  · by_cases hk : k = 0 <;> simp [hk]

theorem int64?_eq_some {j : Json} {n : Int} (h : j.int? = some n) (hlo : -(2 ^ 63) ≤ n)
    (hhi : n < 2 ^ 63) : j.int64? = some (Int64.ofInt n) := by
  unfold int64?
  rw [h]
  exact if_pos ⟨hlo, hhi⟩

theorem uint32?_eq_some {j : Json} {n : Int} (h : j.int? = some n) (hlo : 0 ≤ n) (hhi : n < 2 ^ 32) :
    j.uint32? = some (UInt32.ofNat n.toNat) := by
  unfold uint32?
  rw [h]
  exact if_pos ⟨hlo, hhi⟩

theorem int64?_ofInt (n : Int64) : (ofInt n.toInt).int64? = some n := by
  have hint : (ofInt n.toInt).int? = some n.toInt := toInt?_ofInt n.toInt
  rw [int64?_eq_some hint n.le_toInt n.toInt_lt, n.ofInt_toInt]

theorem uint32?_ofInt (n : UInt32) : (ofInt n.toNat).uint32? = some n := by
  have hlt : (n.toNat : Int) < 2 ^ 32 := by
    have := n.toNat_lt
    omega
  have hint : (ofInt n.toNat).int? = some (n.toNat : Int) := toInt?_ofInt n.toNat
  rw [uint32?_eq_some hint (Int.natCast_nonneg _) hlt, Int.toNat_natCast, UInt32.ofNat_toNat]

theorem float?_ofFloat {x : Binary64} (h : x.Legible) : (ofFloat x).float? = some x := by
  simp [ofFloat, float?, h.finite, h.readsBack]

@[simp] theorem string?_ofString (s : String) : (ofString s).string? = some s := rfl

@[simp] theorem bool?_bool (b : Bool) : (Json.bool b).bool? = some b := rfl

/-! ## Arrays -/

theorem mapM_map_eq_some {α β : Type} {read? : β → Option α} {write : α → β} {as : List α}
    (h : ∀ a ∈ as, read? (write a) = some a) : (as.map write).mapM read? = some as := by
  induction as with
  | nil => rfl
  | cons a as ih =>
    obtain ⟨ha, has⟩ := List.forall_mem_cons.1 h
    simp [ha, ih has]

/-! ## Structures -/

theorem set_idxOf_map {names : List String} (hnames : names.Nodup) (f : String → Option Json)
    (k : String) (v : Option Json) :
    (names.map f).set (names.idxOf k) v = names.map fun n => if n = k then v else f n := by
  induction names with
  | nil => rfl
  | cons a names ih =>
    obtain ⟨ha, hrest⟩ := List.nodup_cons.1 hnames
    by_cases hak : a = k
    · subst hak
      have hothers : names.map f = names.map fun n => if n = a then v else f n := by
        refine List.map_congr_left fun n hn => (if_neg ?_).symm
        rintro rfl
        exact ha hn
      simp [← hothers]
    · have hbeq : (a == k) = false := by simpa using hak
      have hidx : (a :: names).idxOf k = names.idxOf k + 1 := by rw [List.idxOf_cons, hbeq, cond_false]
      simp [hidx, hak, ih hrest]

theorem getElem?_idxOf_map {names : List String} {k : String} (hk : k ∈ names)
    (f : String → Option Json) : (names.map f)[names.idxOf k]? = some (f k) := by
  induction names with
  | nil => contradiction
  | cons a names ih =>
    by_cases hak : a = k
    · simp [hak]
    · have hbeq : (a == k) = false := by simpa using hak
      have hmem : k ∈ names := (List.mem_cons.1 hk).resolve_left (Ne.symm hak)
      simpa [List.idxOf_cons, hbeq] using ih hmem

theorem lookup_eq_none {members : List (String × Json)} {k : String}
    (h : ∀ m ∈ members, m.1 ≠ k) : members.lookup k = none := by
  induction members with
  | nil => rfl
  | cons m members ih =>
    obtain ⟨hm, hmembers⟩ := List.forall_mem_cons.1 h
    have hbeq : (k == m.1) = false := by simpa using Ne.symm hm
    rw [List.lookup_cons, hbeq]
    exact ih hmembers

theorem mem_of_lookup {members : List (String × Json)} {k : String} {j : Json}
    (h : members.lookup k = some j) : (k, j) ∈ members := by
  obtain ⟨before, after, rfl, -⟩ := List.lookup_eq_some_iff.1 h
  exact List.mem_append_right before List.mem_cons_self

/-- Under different names a name leads to each member. -/
theorem lookup_of_mem {members : List (String × Json)} (hdistinct : (members.map Prod.fst).Nodup)
    {m : String × Json} (hm : m ∈ members) : members.lookup m.1 = some m.2 := by
  induction members with
  | nil => contradiction
  | cons n members ih =>
    obtain ⟨hfresh, hrest⟩ := List.nodup_cons.1 hdistinct
    rcases List.mem_cons.1 hm with rfl | hmem
    · rw [List.lookup_cons, beq_self_eq_true]
    · have hne : (m.1 == n.1) = false := by
        refine beq_false_of_ne fun heq => hfresh ?_
        exact heq ▸ List.mem_map_of_mem hmem
      rw [List.lookup_cons, hne]
      exact ih hrest hmem

/-- The fields that were seen, and those that members with other names add to them. -/
theorem placeMembers?_map {names : List String} (hnames : names.Nodup)
    {members : List (String × Json)} (hin : ∀ m ∈ members, m.1 ∈ names)
    (hdistinct : (members.map Prod.fst).Nodup) {f : String → Option Json}
    (hnew : ∀ m ∈ members, f m.1 = none) :
    placeMembers? names (members.map fun m => (some m.1, m.2)) (names.map f) =
      some (names.map fun n => members.lookup n <|> f n) := by
  induction members generalizing f with
  | nil => simp [placeMembers?]
  | cons m members ih =>
    obtain ⟨k, j⟩ := m
    obtain ⟨hk, hothers⟩ := List.forall_mem_cons.1 hin
    obtain ⟨hfresh, hrest⟩ := List.nodup_cons.1 hdistinct
    obtain ⟨hknew, hrestnew⟩ := List.forall_mem_cons.1 hnew
    have hne : ∀ m ∈ members, m.1 ≠ k := by
      intro m hm heq
      exact hfresh (List.mem_map.2 ⟨m, hm, heq⟩)
    have hseen : (names.map f)[names.idxOf k]? = some none := by
      rw [getElem?_idxOf_map hk, hknew]
    have hset := ih hothers hrest (f := fun n => if n = k then some j else f n)
      fun m hm => by rw [if_neg (hne m hm), hrestnew m hm]
    rw [← set_idxOf_map hnames] at hset
    rw [List.map_cons, placeMembers?]
    simp only [bind, Option.bind, hseen, hset]
    congr 1
    refine List.map_congr_left fun n _ => ?_
    by_cases hn : n = k
    · subst hn
      simp [lookup_eq_none hne]
    · have hbeq : (n == k) = false := by simpa using hn
      simp [List.lookup_cons, hn, hbeq]

/-- A structure written with some of its fields is read as these fields. -/
theorem fields?_ofMembers (names : List String) (members : List (String × Json))
    (hnames : names.Nodup) (hin : ∀ m ∈ members, m.1 ∈ names)
    (hdistinct : (members.map Prod.fst).Nodup) (depth : Nat) :
    (ofMembers members).fields? (depth + 1) names = some (names.map fun n => members.lookup n) := by
  have hplace := placeMembers?_map hnames hin hdistinct (f := fun _ => none) fun _ _ => rfl
  simpa [fields?, ofMembers] using hplace

/-! ## Optional fields -/

/-- The members for those of the fields that are there. -/
def present (fields : List (String × Option Json)) : List (String × Json) :=
  fields.filterMap fun f => f.2.map (f.1, ·)

theorem mem_present_iff {fields : List (String × Option Json)} {m : String × Json} :
    m ∈ present fields ↔ (m.1, some m.2) ∈ fields := by
  constructor
  · intro h
    obtain ⟨⟨k, j⟩, hf, hj⟩ := List.mem_filterMap.1 h
    obtain ⟨j, rfl, rfl⟩ := Option.map_eq_some_iff.1 hj
    exact hf
  · intro h
    exact List.mem_filterMap.2 ⟨_, h, rfl⟩

theorem textual_present {fields : List (String × Option Json)}
    (h : ∀ f ∈ fields, ∀ j ∈ f.2, j.textual = true) : (ofMembers (present fields)).textual = true := by
  refine textual_ofMembers _ fun m hm => ?_
  exact h _ (mem_present_iff.1 hm) m.2 rfl

theorem exists_of_depth_present_le {fields : List (String × Option Json)} {d : Nat}
    (h : (ofMembers (present fields)).depth ≤ d) :
    ∃ e, d = e + 1 ∧ ∀ f ∈ fields, ∀ j ∈ f.2, j.depth ≤ e := by
  obtain ⟨e, he, hmembers⟩ := exists_of_depth_ofMembers_le h
  refine ⟨e, he, ?_⟩
  rintro ⟨k, _⟩ hf j rfl
  exact hmembers (k, j) (mem_present_iff.2 hf)

theorem keys_present_sublist (fields : List (String × Option Json)) :
    ((present fields).map Prod.fst).Sublist (fields.map Prod.fst) := by
  induction fields with
  | nil => exact .slnil
  | cons f fields ih =>
    obtain ⟨k, j⟩ := f
    cases j with
    | none => exact ih.cons k
    | some j => exact ih.cons_cons k

theorem lookup_present {fields : List (String × Option Json)} (hnames : (fields.map Prod.fst).Nodup) :
    ∀ f ∈ fields, (present fields).lookup f.1 = f.2 := by
  induction fields with
  | nil => simp
  | cons g fields ih =>
    obtain ⟨k, j⟩ := g
    obtain ⟨hk, hrest⟩ := List.nodup_cons.1 hnames
    have hfirst : (present fields).lookup k = none := by
      refine lookup_eq_none fun m hm heq => hk ?_
      exact heq ▸ (keys_present_sublist fields).subset (List.mem_map_of_mem hm)
    intro f hf
    rcases List.mem_cons.1 hf with rfl | hothers
    · cases j with
      | none => exact hfirst
      | some j => simp [present]
    · have hne : (f.1 == k) = false := by
        refine beq_false_of_ne ?_
        rintro rfl
        exact hk (List.mem_map.2 ⟨f, hothers, rfl⟩)
      cases j with
      | none => exact ih hrest f hothers
      | some j => simpa [present, List.lookup_cons, hne] using ih hrest f hothers

/-- A structure written without those of its fields that are absent is read with just these absent. -/
theorem fields?_present (fields : List (String × Option Json)) (hnames : (fields.map Prod.fst).Nodup)
    (depth : Nat) :
    (ofMembers (present fields)).fields? (depth + 1) (fields.map Prod.fst) =
      some (fields.map Prod.snd) := by
  have hkeys := keys_present_sublist fields
  rw [fields?_ofMembers _ (present fields) hnames
    (fun m hm => hkeys.subset (List.mem_map_of_mem hm)) (hnames.sublist hkeys), List.map_map]
  exact congrArg some (List.map_congr_left (lookup_present hnames))

-- Not closed by `rfl`: when a number is read, the kernel would evaluate the bounds on it.
@[simp] theorem required?_some {α : Type} (read? : Json → Option α) (j : Json) :
    required? read? (some j) = read? j := by
  rw [required?]

@[simp] theorem defaulted?_some {α : Type} (a : α) (read? : Json → Option α) (j : Json) :
    defaulted? a read? (some j) = read? j := by
  rw [defaulted?]

theorem optional?_of_ne_null {α : Type} (read? : Json → Option α) {j : Json} (hj : j ≠ .null) :
    optional? read? j = (read? j).map some := by
  cases j <;> first | rfl | contradiction

/-- An optional field, written if it is there and never as null, is read as what it was. -/
theorem defaulted?_optional? {α : Type} {read? : Json → Option α} {write : α → Json} {a : Option α}
    (hnull : ∀ b, write b ≠ .null) (hread : ∀ b ∈ a, read? (write b) = some b) :
    defaulted? none (optional? read?) (a.map write) = some a := by
  cases a with
  | none => rfl
  | some b => simp [optional?_of_ne_null _ (hnull b), hread b rfl]

end Json

end Quarry
