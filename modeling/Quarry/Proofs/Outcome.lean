-- SUMMARY: Steps that may fail, one after the other.

/-!
# Outcomes of steps that may fail

A step that is applied to every item of a list fails with the error of the first item on which it fails, and
otherwise gives what it gives for each of them. Translating errors leaves alone what does not fail.
-/

namespace Quarry

variable {ε δ α β : Type}

/-! ## Translated errors -/

theorem mapError_eq_ok_iff {f : ε → δ} {x : Except ε α} {a : α} :
    x.mapError f = .ok a ↔ x = .ok a := by
  cases x with
  | error e => exact ⟨nofun, nofun⟩
  | ok b =>
    change Except.ok b = Except.ok a ↔ Except.ok b = Except.ok a
    rw [Except.ok.injEq, Except.ok.injEq]

theorem mapError_eq_error_iff {f : ε → δ} {x : Except ε α} {e : δ} :
    x.mapError f = .error e ↔ ∃ fault, x = .error fault ∧ f fault = e := by
  cases x with
  | error fault =>
    change Except.error (f fault) = Except.error e ↔ _
    simp
  | ok b => exact ⟨nofun, nofun⟩

/-! ## Outcomes without errors -/

theorem toOption_eq_some_iff {x : Except ε α} {a : α} : x.toOption = some a ↔ x = .ok a := by
  cases x with
  | error e => exact ⟨fun h => by contradiction, fun h => by contradiction⟩
  | ok b => simp [Except.toOption]

/-! ## One step after another -/

/-- Two steps succeed just if the second succeeds on what the first gives. -/
theorem bind_eq_ok_iff {x : Except ε α} {next : α → Except ε β} {b : β} :
    x >>= next = .ok b ↔ ∃ a, x = .ok a ∧ next a = .ok b := by
  cases x with
  | error e => simp [bind, Except.bind]
  | ok a => simp [bind, Except.bind]

/-- Two steps fail just if the first one fails, or the second one on what the first gives. -/
theorem bind_eq_error_iff {x : Except ε α} {next : α → Except ε β} {e : ε} :
    x >>= next = .error e ↔ x = .error e ∨ ∃ a, x = .ok a ∧ next a = .error e := by
  cases x with
  | error e' => simp [bind, Except.bind]
  | ok a => simp [bind, Except.bind]

/-! ## Lists -/

variable {f : α → Except ε β} {as : List α}

/-- A step that succeeds on every item succeeds on the list. -/
theorem mapM_of_ok {g : α → β} (h : ∀ a ∈ as, f a = .ok (g a)) : as.mapM f = .ok (as.map g) := by
  induction as with
  | nil => rfl
  | cons a as ih =>
    obtain ⟨ha, has⟩ := List.forall_mem_cons.1 h
    rw [List.mapM_cons, ha, ih has]
    rfl

/-- A step that fails on some item fails on the list, with the error for one of its items. -/
theorem exists_mapM_eq_error {a : α} {e : ε} (ha : a ∈ as) (h : f a = .error e) :
    ∃ a' ∈ as, ∃ e', f a' = .error e' ∧ as.mapM f = .error e' := by
  induction as with
  | nil => contradiction
  | cons b as ih =>
    rw [List.mapM_cons]
    cases hb : f b with
    | error e' => exact ⟨b, List.mem_cons_self, e', hb, rfl⟩
    | ok b' =>
      rcases List.mem_cons.1 ha with rfl | ha
      · rw [h] at hb
        contradiction
      · obtain ⟨a', ha', e', he', hlist⟩ := ih ha
        exact ⟨a', List.mem_cons_of_mem _ ha', e', he', by rw [hlist]; rfl⟩

/-- A step succeeds on a list just if it succeeds on the first item and on the others. -/
theorem mapM_cons_eq_ok_iff {a : α} {bs : List β} :
    (a :: as).mapM f = .ok bs ↔ ∃ b bs', f a = .ok b ∧ as.mapM f = .ok bs' ∧ bs = b :: bs' := by
  rw [List.mapM_cons, bind_eq_ok_iff]
  refine exists_congr fun b => ?_
  rw [bind_eq_ok_iff]
  simp [pure, Except.pure, eq_comm]

/-- A step that succeeds on every item succeeds on the list, whatever it gives. -/
theorem exists_mapM_eq_ok (h : ∀ a ∈ as, ∃ b, f a = .ok b) : ∃ bs, as.mapM f = .ok bs := by
  induction as with
  | nil => exact ⟨[], rfl⟩
  | cons a as ih =>
    obtain ⟨⟨b, hb⟩, has⟩ := List.forall_mem_cons.1 h
    obtain ⟨bs, hbs⟩ := ih has
    exact ⟨b :: bs, mapM_cons_eq_ok_iff.2 ⟨b, bs, hb, hbs, rfl⟩⟩

/-- What a step gives for a list it gives for the items. -/
theorem exists_of_mem_mapM {bs : List β} (h : as.mapM f = .ok bs) {b : β} (hb : b ∈ bs) :
    ∃ a ∈ as, f a = .ok b := by
  induction as generalizing bs with
  | nil =>
    obtain rfl : [] = bs := Except.ok.inj h
    contradiction
  | cons a as ih =>
    obtain ⟨b', bs', ha, has, rfl⟩ := mapM_cons_eq_ok_iff.1 h
    rcases List.mem_cons.1 hb with rfl | hb
    · exact ⟨a, List.mem_cons_self, ha⟩
    · obtain ⟨a', ha', hfa'⟩ := ih has hb
      exact ⟨a', List.mem_cons_of_mem _ ha', hfa'⟩

end Quarry
