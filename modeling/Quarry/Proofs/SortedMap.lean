-- SUMMARY: Laws of sorted maps: what reading gives after each change, and extensionality.
import Quarry.SortedMap

/-!
# Laws of sorted maps

A sorted map is determined by what `get?` answers. Each operation is described by one equation for
`get?` after it, and maps with the same answers are equal.
-/

namespace Quarry.SortedMap

variable {κ ν : Type} [Ord κ]

/-! ## Entries and reading -/

@[simp] theorem get?_empty (k : κ) : (empty : SortedMap κ ν).get? k = none := rfl

theorem contains_iff {m : SortedMap κ ν} {k : κ} : m.contains k = true ↔ ∃ v, m.get? k = some v :=
  Option.isSome_iff_exists

theorem keys_ascending (m : SortedMap κ ν) : m.keys.Pairwise fun a b => compare a b = .lt := by
  unfold keys
  rw [List.pairwise_map]
  exact m.ascending

variable [Std.LawfulEqOrd κ]

theorem compare_beq_eq {k l : κ} : (compare k l == .eq) = true ↔ k = l := by
  rw [beq_iff_eq, Std.compare_eq_eq_iff_eq]

theorem get?_eq_some_iff {m : SortedMap κ ν} {k : κ} {v : ν} :
    m.get? k = some v ↔ (k, v) ∈ m.entries := by
  unfold get?
  constructor
  · intro h
    obtain ⟨e, he, rfl⟩ := Option.map_eq_some_iff.1 h
    have hk := List.find?_some he
    rw [compare_beq_eq.1 hk]
    exact List.mem_of_find?_eq_some he
  · intro h
    -- an entry before `(k, v)` has a smaller key, so the search does not stop there
    obtain ⟨before, after, hsplit⟩ := List.append_of_mem h
    have hasc := m.ascending
    rw [hsplit] at hasc ⊢
    have hbefore : ∀ e ∈ before, ¬ (compare k e.1 == .eq) = true := by
      intro e he heq
      have hlt := (List.pairwise_append.1 hasc).2.2 e he (k, v) List.mem_cons_self
      rw [compare_beq_eq.1 heq, Std.compare_self] at hlt
      contradiction
    have hself : (compare k (k, v).1 == .eq) = true := compare_beq_eq.2 rfl
    rw [List.find?_append, List.find?_eq_none.2 hbefore, Option.none_or, List.find?_cons, hself]
    rfl

theorem get?_eq_none_iff {m : SortedMap κ ν} {k : κ} :
    m.get? k = none ↔ ∀ v, (k, v) ∉ m.entries := by
  rw [Option.eq_none_iff_forall_ne_some]
  exact forall_congr' fun v => not_congr get?_eq_some_iff

theorem mem_values_iff {m : SortedMap κ ν} {v : ν} : v ∈ m.values ↔ ∃ k, m.get? k = some v := by
  unfold values
  constructor
  · intro h
    obtain ⟨e, he, rfl⟩ := List.mem_map.1 h
    exact ⟨e.1, get?_eq_some_iff.2 he⟩
  · rintro ⟨k, hk⟩
    exact List.mem_map.2 ⟨(k, v), get?_eq_some_iff.1 hk, rfl⟩

theorem mem_keys_iff {m : SortedMap κ ν} {k : κ} : k ∈ m.keys ↔ m.contains k = true := by
  unfold keys
  rw [contains_iff]
  constructor
  · intro h
    obtain ⟨e, he, rfl⟩ := List.mem_map.1 h
    exact ⟨e.2, get?_eq_some_iff.2 he⟩
  · rintro ⟨v, hv⟩
    exact List.mem_map.2 ⟨(k, v), get?_eq_some_iff.1 hv, rfl⟩

theorem filterMap_get?_keys (m : SortedMap κ ν) : m.keys.filterMap m.get? = m.values := by
  have hentries : m.entries.map (m.get? ∘ Prod.fst) = m.entries.map (some ∘ Prod.snd) :=
    List.map_congr_left fun e he => get?_eq_some_iff.2 he
  calc m.keys.filterMap m.get?
    _ = (m.keys.map m.get?).filterMap id := by simp
    _ = (m.entries.map (some ∘ Prod.snd)).filterMap id := by rw [keys, List.map_map, ← hentries]
    _ = m.values := by simp [values]

theorem ne_of_compare_lt {k l : κ} (h : compare k l = .lt) : k ≠ l := by
  rintro rfl
  rw [Std.compare_self] at h
  contradiction

theorem entries_nodup (m : SortedMap κ ν) : m.entries.Nodup :=
  m.ascending.imp fun hlt heq => ne_of_compare_lt hlt (congrArg Prod.fst heq)

theorem keys_nodup (m : SortedMap κ ν) : m.keys.Nodup :=
  m.keys_ascending.imp ne_of_compare_lt

/-! ## The first value -/

/-- The first value of a kind is the one under the least key. -/
theorem find?_values_eq_some_iff [Std.OrientedOrd κ] {m : SortedMap κ ν} {p : ν → Bool} {v : ν} :
    m.values.find? p = some v ↔
      ∃ k, m.get? k = some v ∧ p v = true ∧
        ∀ l w, m.get? l = some w → p w = true → (compare k l).isLE = true := by
  have hleast {v : ν} (h : m.values.find? p = some v) :
      ∃ k, m.get? k = some v ∧ p v = true ∧
        ∀ l w, m.get? l = some w → p w = true → (compare k l).isLE = true := by
    rw [values, List.find?_map] at h
    obtain ⟨⟨k, v⟩, he, rfl⟩ := Option.map_eq_some_iff.1 h
    obtain ⟨hp, before, after, hsplit, hbefore⟩ := List.find?_eq_some_iff_append.1 he
    have hentry : (k, v) ∈ m.entries := by
      rw [hsplit]
      exact List.mem_append_right before List.mem_cons_self
    refine ⟨k, get?_eq_some_iff.2 hentry, hp, ?_⟩
    intro l w hl hw
    have hasc := m.ascending
    rw [hsplit] at hasc
    rw [get?_eq_some_iff, hsplit] at hl
    rcases List.mem_append.1 hl with hl | hl
    · simpa [hw] using hbefore _ hl
    · rcases List.mem_cons.1 hl with heq | hl
      · rw [(Prod.mk.inj heq).1, Std.compare_self]
        rfl
      · have hlt := (List.pairwise_cons.1 (List.pairwise_append.1 hasc).2.1).1 _ hl
        rw [hlt]
        rfl
  refine ⟨hleast, ?_⟩
  rintro ⟨k, hk, hp, hfirst⟩
  obtain ⟨w, hw⟩ := Option.isSome_iff_exists.1
    (List.find?_isSome.2 ⟨v, mem_values_iff.2 ⟨k, hk⟩, hp⟩)
  obtain ⟨l, hl, hpw, hleast⟩ := hleast hw
  obtain rfl : k = l := Std.compare_eq_eq_iff_eq.1
    (Std.OrientedCmp.isLE_antisymm (hfirst l w hl hpw) (hleast k v hk hp))
  rw [hw, ← hl, hk]

/-! ## Removal and changed values -/

@[simp] theorem get?_erase_self (m : SortedMap κ ν) (k : κ) : (m.erase k).get? k = none := by
  refine get?_eq_none_iff.2 fun v h => ?_
  simpa using (List.mem_filter.1 h).2

theorem get?_erase_of_ne (m : SortedMap κ ν) {k l : κ} (h : l ≠ k) :
    (m.erase k).get? l = m.get? l := by
  apply Option.ext
  intro w
  rw [get?_eq_some_iff, get?_eq_some_iff]
  refine List.mem_filter.trans ⟨And.left, fun hl => ⟨hl, ?_⟩⟩
  simpa using Ne.symm h

theorem get?_erase [DecidableEq κ] (m : SortedMap κ ν) (k l : κ) :
    (m.erase k).get? l = if l = k then none else m.get? l := by
  split
  · next h => rw [h, get?_erase_self]
  · next h => exact get?_erase_of_ne m h

/-- Without a key the map has its other entries. -/
theorem get?_erase_eq_some_iff {m : SortedMap κ ν} {k l : κ} {v : ν} :
    (m.erase k).get? l = some v ↔ l ≠ k ∧ m.get? l = some v := by
  by_cases hl : l = k
  · simp [hl, get?_erase_self]
  · simp [hl, get?_erase_of_ne m hl]

omit [Std.LawfulEqOrd κ] in
theorem mapValues_mapValues {μ ξ : Type} (f : ν → μ) (g : μ → ξ) (m : SortedMap κ ν) :
    (m.mapValues f).mapValues g = m.mapValues fun v => g (f v) := by
  unfold mapValues
  simp

@[simp] theorem get?_mapValues {μ : Type} (f : ν → μ) (m : SortedMap κ ν) (k : κ) :
    (m.mapValues f).get? k = (m.get? k).map f := by
  apply Option.ext
  intro w
  rw [get?_eq_some_iff]
  unfold mapValues
  constructor
  · intro h
    obtain ⟨e, he, heq⟩ := List.mem_map.1 h
    obtain ⟨rfl, rfl⟩ := Prod.mk.inj heq
    rw [get?_eq_some_iff.2 he, Option.map_some]
  · intro h
    obtain ⟨v, hv, rfl⟩ := Option.map_eq_some_iff.1 h
    exact List.mem_map.2 ⟨(k, v), get?_eq_some_iff.1 hv, rfl⟩

/-! ## Extensionality -/

variable [Std.TransOrd κ]

/-- Maps that answer alike are equal. -/
theorem ext_get? {m n : SortedMap κ ν} (h : ∀ k, m.get? k = n.get? k) : m = n := by
  have hmem : ∀ e, e ∈ m.entries ↔ e ∈ n.entries := by
    rintro ⟨k, v⟩
    rw [← get?_eq_some_iff, ← get?_eq_some_iff, h k]
  have hperm : m.entries.Perm n.entries :=
    (List.perm_ext_iff_of_nodup m.entries_nodup n.entries_nodup).2 hmem
  have hentries : m.entries = n.entries := by
    refine hperm.eq_of_pairwise ?_ m.ascending n.ascending
    intro a b _ _ hab hba
    exact absurd (Std.TransCmp.lt_trans hab hba) (fun hlt => ne_of_compare_lt hlt rfl)
  cases m
  cases n
  cases hentries
  rfl

/-- Sets with the same members are equal. -/
theorem set_ext {m n : SortedSet κ} (h : ∀ k, m.contains k = true ↔ n.contains k = true) :
    m = n := by
  have hunit (o : SortedSet κ) (k : κ) : o.contains k = true ↔ o.get? k = some () :=
    contains_iff.trans ⟨fun ⟨_, h⟩ => h, fun h => ⟨(), h⟩⟩
  apply ext_get?
  intro k
  apply Option.ext
  intro _
  rw [← hunit, ← hunit]
  exact h k

/-! ## Insertion -/

theorem mem_insertEntry_iff {k : κ} {v : ν} {e : κ × ν} {es : List (κ × ν)}
    (h : es.Pairwise fun a b => compare a.1 b.1 = .lt) :
    e ∈ insertEntry k v es ↔ e = (k, v) ∨ (e ∈ es ∧ e.1 ≠ k) := by
  induction es with
  | nil => simp [insertEntry]
  | cons d rest ih =>
    obtain ⟨hd, hrest⟩ := List.pairwise_cons.1 h
    unfold insertEntry
    split
    · next hk =>
      have hne : ∀ c ∈ d :: rest, c.1 ≠ k := by
        intro c hc
        rcases List.mem_cons.1 hc with rfl | hc
        · exact (ne_of_compare_lt hk).symm
        · exact (ne_of_compare_lt (Std.TransCmp.lt_trans hk (hd c hc))).symm
      rw [List.mem_cons]
      exact or_congr_right ⟨fun he => ⟨he, hne e he⟩, And.left⟩
    · next hk =>
      obtain rfl := Std.compare_eq_eq_iff_eq.1 hk
      have hne : ∀ c ∈ rest, c.1 ≠ d.1 := fun c hc => (ne_of_compare_lt (hd c hc)).symm
      rw [List.mem_cons]
      refine or_congr_right ⟨fun he => ⟨List.mem_cons_of_mem _ he, hne e he⟩, ?_⟩
      rintro ⟨he, hek⟩
      rcases List.mem_cons.1 he with rfl | he
      · exact absurd rfl hek
      · exact he
    · next hk =>
      have hdk : d.1 ≠ k := ne_of_compare_lt (Std.OrientedCmp.gt_iff_lt.1 hk)
      rw [List.mem_cons, ih hrest, List.mem_cons]
      constructor
      · rintro (rfl | rfl | ⟨he, hek⟩)
        · exact .inr ⟨.inl rfl, hdk⟩
        · exact .inl rfl
        · exact .inr ⟨.inr he, hek⟩
      · rintro (rfl | ⟨rfl | he, hek⟩)
        · exact .inr (.inl rfl)
        · exact .inl rfl
        · exact .inr (.inr ⟨he, hek⟩)

@[simp] theorem get?_insert_self (m : SortedMap κ ν) (k : κ) (v : ν) :
    (m.insert k v).get? k = some v :=
  get?_eq_some_iff.2 ((mem_insertEntry_iff m.ascending).2 (.inl rfl))

theorem get?_insert_of_ne (m : SortedMap κ ν) {k l : κ} (v : ν) (h : l ≠ k) :
    (m.insert k v).get? l = m.get? l := by
  apply Option.ext
  intro w
  rw [get?_eq_some_iff, get?_eq_some_iff]
  refine (mem_insertEntry_iff m.ascending).trans ⟨?_, fun hl => .inr ⟨hl, h⟩⟩
  rintro (heq | ⟨hl, _⟩)
  · exact absurd (congrArg Prod.fst heq) h
  · exact hl

theorem get?_insert [DecidableEq κ] (m : SortedMap κ ν) (k l : κ) (v : ν) :
    (m.insert k v).get? l = if l = k then some v else m.get? l := by
  split
  · next h => rw [h, get?_insert_self]
  · next h => exact get?_insert_of_ne m v h

/-- With an entry put in, the map has this entry and those of the other keys. -/
theorem get?_insert_eq_some_iff {m : SortedMap κ ν} {k l : κ} {v w : ν} :
    (m.insert k v).get? l = some w ↔ (l = k ∧ v = w) ∨ (l ≠ k ∧ m.get? l = some w) := by
  by_cases hl : l = k
  · simp [hl, get?_insert_self]
  · simp [hl, get?_insert_of_ne m v hl]

/-! ## All values -/

/-- Every value of the map has a property. -/
def All (P : ν → Prop) (m : SortedMap κ ν) : Prop :=
  ∀ k v, m.get? k = some v → P v

section All

variable {P : ν → Prop} {m : SortedMap κ ν}

omit [Std.LawfulEqOrd κ] [Std.TransOrd κ] in
theorem all_empty : (empty : SortedMap κ ν).All P := by
  intro k v h
  simp at h

theorem All.insert (h : m.All P) (k : κ) {v : ν} (hv : P v) : (m.insert k v).All P := by
  intro l w hw
  rcases get?_insert_eq_some_iff.1 hw with ⟨_, rfl⟩ | ⟨_, hold⟩
  · exact hv
  · exact h l w hold

omit [Std.TransOrd κ] in
theorem All.erase (h : m.All P) (k : κ) : (m.erase k).All P :=
  fun l w hw => h l w (get?_erase_eq_some_iff.1 hw).2

omit [Std.TransOrd κ] in
theorem All.of_mem_values (h : m.All P) {v : ν} (hv : v ∈ m.values) : P v := by
  obtain ⟨k, hk⟩ := mem_values_iff.1 hv
  exact h k v hk

end All

/-! ## Laws -/

theorem insert_erase [DecidableEq κ] (m : SortedMap κ ν) (k : κ) (v : ν) :
    (m.erase k).insert k v = m.insert k v := by
  apply ext_get?
  intro l
  rw [get?_insert, get?_insert, get?_erase]
  split <;> rfl

theorem erase_insert (m : SortedMap κ ν) (k : κ) (v : ν) : (m.insert k v).erase k = m.erase k := by
  apply ext_get?
  intro l
  by_cases hl : l = k
  · simp [hl]
  · rw [get?_erase_of_ne _ hl, get?_erase_of_ne _ hl, get?_insert_of_ne _ _ hl]

theorem erase_of_get?_eq_none {m : SortedMap κ ν} {k : κ} (h : m.get? k = none) :
    m.erase k = m := by
  apply ext_get?
  intro l
  by_cases hl : l = k
  · rw [hl, get?_erase_self, h]
  · exact get?_erase_of_ne m hl

theorem get?_foldl_insert {es : List (κ × ν)} (hes : es.Pairwise fun a b => a.1 ≠ b.1)
    (m : SortedMap κ ν) (k : κ) (v : ν) :
    (es.foldl (fun m e => m.insert e.1 e.2) m).get? k = some v ↔
      (k, v) ∈ es ∨ (m.get? k = some v ∧ ∀ e ∈ es, e.1 ≠ k) := by
  induction es generalizing m with
  | nil => simp
  | cons d rest ih =>
    obtain ⟨hd, hrest⟩ := List.pairwise_cons.1 hes
    rw [List.foldl_cons, ih hrest, List.mem_cons]
    by_cases hk : d.1 = k
    · subst hk
      rw [get?_insert_self]
      constructor
      · rintro (h | ⟨h, _⟩)
        · exact .inl (.inr h)
        · exact .inl (.inl (by rw [← Option.some.inj h]))
      · rintro ((h | h) | ⟨_, h⟩)
        · exact .inr ⟨congrArg (fun e => some e.2) h.symm, fun e he => (hd e he).symm⟩
        · exact .inl h
        · exact absurd rfl (h d List.mem_cons_self)
    · rw [get?_insert_of_ne m d.2 (Ne.symm hk)]
      constructor
      · rintro (h | ⟨h, hne⟩)
        · exact .inl (.inr h)
        · exact .inr ⟨h, List.forall_mem_cons.2 ⟨hk, hne⟩⟩
      · rintro ((h | h) | ⟨h, hne⟩)
        · exact absurd (congrArg Prod.fst h).symm hk
        · exact .inl h
        · exact .inr ⟨h, (List.forall_mem_cons.1 hne).2⟩

/-- A map is the map of its entries. -/
theorem ofList_entries (m : SortedMap κ ν) : ofList m.entries = m := by
  apply ext_get?
  intro k
  apply Option.ext
  intro v
  unfold ofList
  rw [get?_foldl_insert (m.ascending.imp ne_of_compare_lt), get?_empty, get?_eq_some_iff]
  simp

/-! ## Counting -/

/-- The entries with one put in are this one and those of the other keys. -/
theorem entries_insert_perm (m : SortedMap κ ν) (k : κ) (v : ν) :
    (m.insert k v).entries.Perm ((k, v) :: (m.erase k).entries) := by
  have hfresh : (k, v) ∉ (m.erase k).entries := get?_eq_none_iff.1 (get?_erase_self m k) v
  have hnodup : ((k, v) :: (m.erase k).entries).Nodup :=
    List.nodup_cons.2 ⟨hfresh, (m.erase k).entries_nodup⟩
  refine (List.perm_ext_iff_of_nodup (m.insert k v).entries_nodup hnodup).2 ?_
  rintro ⟨l, w⟩
  rw [List.mem_cons, ← get?_eq_some_iff, ← get?_eq_some_iff, get?_insert_eq_some_iff,
    get?_erase_eq_some_iff, Prod.mk.injEq, eq_comm (a := v)]

/-- How many values of a map pass a test. -/
def count (p : ν → Bool) (m : SortedMap κ ν) : Nat :=
  m.values.countP p

theorem count_insert (p : ν → Bool) (m : SortedMap κ ν) (k : κ) (v : ν) :
    (m.insert k v).count p = (p v).toNat + (m.erase k).count p := by
  have hperm := (entries_insert_perm m k v).map Prod.snd
  have hcount : (m.insert k v).count p = (v :: (m.erase k).values).countP p := hperm.countP_eq p
  rw [hcount, List.countP_cons, Nat.add_comm]
  cases p v <;> rfl

theorem count_erase (p : ν → Bool) (m : SortedMap κ ν) (k : κ) :
    ((m.get? k).any p).toNat + (m.erase k).count p = m.count p := by
  cases hk : m.get? k with
  | none => simp [erase_of_get?_eq_none hk]
  | some v =>
    have hself : m.insert k v = m := by
      apply ext_get?
      intro l
      by_cases hl : l = k
      · rw [hl, get?_insert_self, hk]
      · exact get?_insert_of_ne m v hl
    rw [Option.any_some, ← count_insert, hself]

end Quarry.SortedMap
