-- SUMMARY: A write that fails changes nothing, and one that succeeds changes one collection.
import Quarry.Proofs.Store.Changes

/-!
# Atomic writes

A write is several steps: it takes a copy of its collection, changes the copy, and puts the copy in the place
of the collection. Here these steps are run one by one, on a store that keeps what was done to it before an
error. Every write puts its copy in place after the last point at which it can fail, so a write that fails,
or that finds nothing to remove, leaves the store as it was. Putting a record takes the previous version out
of the indexes of the copy before it can fail for want of an encoding; the collection does not see that.

The steps come to the same as `Store.put` and its siblings, which give a store and an answer, or an error.
-/

namespace Quarry

/-! ## Steps -/

/-- Steps on a store. What was done before an error stays done. -/
abbrev Writing := ExceptT StoreError (StateM Store)

/-- What a write tells its caller. -/
inductive Outcome where
  | done
  | generation (g : UInt32)
  | found (b : Bool)
  deriving DecidableEq

namespace Writing

/-- A copy of a collection. -/
def copy (name : String) : Writing Collection :=
  .mk fun s => (s.collection name, s)

/-- Puts a copy in the place of its collection. -/
def publish (name : String) (c : Collection) : Writing Unit :=
  modify (·.set name c)

def createCollection (name : String) : Writing Outcome := do
  modify (·.createCollection name)
  return .done

def put (name : String) (r : Record) : Writing Outcome := do
  let c ← copy name
  let previous := c.records.get? r.key
  let withdraw (ix : SecondaryIndex) : SecondaryIndex := (previous.map ix.remove).getD ix
  let c : Collection := { c with indexes := c.indexes.mapValues withdraw }
  let stored := Collection.stamp previous r
  if !Collection.encodable stored then throw (.encoding r.key)
  let c : Collection := { c with indexes := c.indexes.mapValues (·.insert stored) }
  publish name { c with records := c.records.insert r.key stored }
  return .generation stored.generation

def delete (name key : String) : Writing Outcome := do
  let c ← copy name
  match c.records.get? key with
  | none => return .found false
  | some previous =>
    let c : Collection := { c with records := c.records.erase key }
    publish name { c with indexes := c.indexes.mapValues (·.remove previous) }
    return .found true

def createIndex (name index field : String) (type : IndexType) : Writing Outcome := do
  let c ← copy name
  if c.indexes.contains index then throw (.indexExists index)
  let ix := c.records.values.foldl SecondaryIndex.insert (.empty ⟨name, index, field, type⟩)
  publish name { c with indexes := c.indexes.insert index ix }
  return .done

def dropIndex (name index : String) : Writing Outcome := do
  let c ← copy name
  if !c.indexes.contains index then return .found false
  publish name { c with indexes := c.indexes.erase index }
  return .found true

end Writing

/-- The steps of a change. -/
def Update.steps : Update → Writing Outcome
  | .createCollection name => .createCollection name
  | .put name r => .put name r
  | .delete name key => .delete name key
  | .createIndex name index field type => .createIndex name index field type
  | .dropIndex name index => .dropIndex name index

namespace Store

/-- What a store tells the caller of a change. -/
def answer (s : Store) : Update → Except StoreError Outcome
  | .createCollection _ => .ok .done
  | .put name r => (s.put name r).map fun t => .generation t.2
  | .delete name key => (s.delete name key).map fun t => .found t.2
  | .createIndex name index field type => (s.createIndex name index field type).map fun _ => .done
  | .dropIndex name index => (s.dropIndex name index).map fun t => .found t.2

end Store

/-! ## Running steps -/

namespace Writing

/-- What steps lead to from a store: what they return, and the store after them. -/
def exec {α : Type} (m : Writing α) (s : Store) : Except StoreError α × Store :=
  m.run s

variable {α β : Type} {m : Writing α} {k : α → Writing β} {s t : Store} {name : String}

theorem exec_bind_of_ok {a : α} (h : m.exec s = (.ok a, t)) : (m >>= k).exec s = (k a).exec t := by
  change ExceptT.bindCont k (m.exec s).1 (m.exec s).2 = (k a).exec t
  rw [h]
  rfl

theorem exec_bind_of_error {e : StoreError} (h : m.exec s = (.error e, t)) :
    (m >>= k).exec s = (.error e, t) := by
  change ExceptT.bindCont k (m.exec s).1 (m.exec s).2 = (.error e, t)
  rw [h]
  rfl

/-- Steps that begin with a copy of a collection come to an operation on the collection if they do so
    for every collection that can be copied; if there is none, both fail alike. -/
theorem exec_copy_bind {α : Type} {k : Collection → Writing Outcome}
    {f : Collection → Except StoreError α} (tell : α → Outcome) (after : α → Store)
    (h : ∀ c, (k c).exec s = ((f c).map tell, ((f c).toOption.map after).getD s)) :
    (copy name >>= k).exec s =
      ((s.collection name >>= f).map tell, ((s.collection name >>= f).toOption.map after).getD s) := by
  have hcopy : (copy name).exec s = (s.collection name, s) := rfl
  cases hc : s.collection name with
  | error e =>
    rw [hc] at hcopy
    exact exec_bind_of_error hcopy
  | ok c =>
    rw [hc] at hcopy
    rw [exec_bind_of_ok hcopy]
    exact h c

/-! ## Steps and operations -/

theorem exec_createCollection (s : Store) (name : String) :
    (createCollection name).exec s =
      (s.answer (.createCollection name), s.update (.createCollection name)) := rfl

theorem exec_put (s : Store) (name : String) (r : Record) :
    (put name r).exec s = (s.answer (.put name r), s.update (.put name r)) := by
  refine exec_copy_bind (fun t => .generation t.2) Prod.fst fun c => ?_
  -- a record is encodable or not whatever generation it is given
  have hstored : Collection.encodable (Collection.stamp (c.records.get? r.key) r) =
      Collection.encodable r := rfl
  simp only [hstored, SortedMap.mapValues_mapValues]
  cases Collection.encodable r <;> rfl

theorem exec_delete (s : Store) (name key : String) :
    (delete name key).exec s = (s.answer (.delete name key), s.update (.delete name key)) := by
  refine exec_copy_bind (fun t => .found t.2) Prod.fst fun c => ?_
  unfold Collection.delete?
  cases c.records.get? key <;> rfl

theorem exec_createIndex (s : Store) (name index field : String) (type : IndexType) :
    (createIndex name index field type).exec s =
      (s.answer (.createIndex name index field type), s.update (.createIndex name index field type)) := by
  have hupdate : s.update (.createIndex name index field type) =
      ((s.createIndex name index field type).toOption.map id).getD s := by
    rw [Option.map_id]
    rfl
  rw [hupdate]
  refine exec_copy_bind (fun _ => .done) id fun c => ?_
  cases c.indexes.contains index <;> rfl

theorem exec_dropIndex (s : Store) (name index : String) :
    (dropIndex name index).exec s =
      (s.answer (.dropIndex name index), s.update (.dropIndex name index)) := by
  refine exec_copy_bind (fun t => .found t.2) Prod.fst fun c => ?_
  unfold Collection.dropIndex?
  cases c.indexes.contains index <;> rfl

/-- The steps of a change come to the change of the store and to its answer. -/
theorem exec_steps (s : Store) (u : Update) : u.steps.exec s = (s.answer u, s.update u) := by
  cases u with
  | createCollection name => exact exec_createCollection s name
  | put name r => exact exec_put s name r
  | delete name key => exact exec_delete s name key
  | createIndex name index field type => exact exec_createIndex s name index field type
  | dropIndex name index => exact exec_dropIndex s name index

end Writing

/-! ## Failures -/

/-- The reasons for which a store refuses a change. -/
inductive Update.Refused (s : Store) : Update → StoreError → Prop
  | missing {u : Update} (h : s.collections.get? u.collection = none)
    (hwrite : u ≠ .createCollection u.collection) : Refused s u (.collectionNotFound u.collection)
  | taken {name index field : String} {type : IndexType} {c : Collection}
    (hc : s.collections.get? name = some c) (h : c.indexes.contains index = true) :
    Refused s (.createIndex name index field type) (.indexExists index)
  | unencodable {name : String} {r : Record} {c : Collection}
    (hc : s.collections.get? name = some c) (h : ∃ bin ∈ r.bins.keys, '\x00' ∈ bin.toList) :
    Refused s (.put name r) (.encoding r.key)

namespace Store

variable {s : Store}

theorem encodable_eq_false_iff {r : Record} :
    Collection.encodable r = false ↔ ∃ bin ∈ r.bins.keys, '\x00' ∈ bin.toList := by
  simp [Collection.encodable]

theorem collection_eq_error_iff {name : String} {e : StoreError} :
    s.collection name = .error e ↔
      s.collections.get? name = none ∧ e = .collectionNotFound name := by
  unfold collection
  split
  · next c hc => simp [hc]
  · next hc => simp [hc, eq_comm]

/-- An operation on a collection fails if the collection is missing, and otherwise as it fails there. -/
theorem bind_collection_eq_error_iff {α : Type} {name : String}
    {f : Collection → Except StoreError α} {e : StoreError} :
    (s.collection name >>= f) = .error e ↔
      (s.collections.get? name = none ∧ e = .collectionNotFound name) ∨
      ∃ c, s.collections.get? name = some c ∧ f c = .error e := by
  rw [bind_eq_error_iff, collection_eq_error_iff]
  simp only [collection_eq_ok_iff]

theorem map_eq_error_iff {α β : Type} {f : α → β} {x : Except StoreError α} {e : StoreError} :
    x.map f = .error e ↔ x = .error e := by
  cases x <;> simp [Except.map]

theorem put_eq_error_iff {name : String} {r : Record} {e : StoreError} :
    s.put name r = .error e ↔ (Update.put name r).Refused s e := by
  unfold put
  rw [bind_collection_eq_error_iff]
  constructor
  · rintro (⟨hnone, rfl⟩ | ⟨c, hc, hput⟩)
    · exact .missing (u := .put name r) hnone (by simp)
    · split at hput
      · contradiction
      · next hencodable =>
        obtain rfl := Except.error.inj hput
        exact .unencodable hc (encodable_eq_false_iff.1 (by simpa using hencodable))
  · intro h
    cases h with
    | missing hnone => exact .inl ⟨hnone, rfl⟩
    | @unencodable _ _ c hc hbin =>
      refine .inr ⟨c, hc, ?_⟩
      rw [encodable_eq_false_iff.2 hbin]
      rfl

theorem delete_eq_error_iff {name key : String} {e : StoreError} :
    s.delete name key = .error e ↔ (Update.delete name key).Refused s e := by
  unfold delete
  rw [bind_collection_eq_error_iff]
  constructor
  · rintro (⟨hnone, rfl⟩ | ⟨c, hc, hdelete⟩)
    · exact .missing (u := .delete name key) hnone (by simp)
    · split at hdelete <;> contradiction
  · intro h
    cases h with
    | missing hnone => exact .inl ⟨hnone, rfl⟩

theorem createIndex_eq_error_iff {name index field : String} {type : IndexType} {e : StoreError} :
    s.createIndex name index field type = .error e ↔
      (Update.createIndex name index field type).Refused s e := by
  unfold createIndex
  rw [bind_collection_eq_error_iff]
  constructor
  · rintro (⟨hnone, rfl⟩ | ⟨c, hc, hcreate⟩)
    · exact .missing (u := .createIndex name index field type) hnone (by simp)
    · split at hcreate
      · next htaken =>
        obtain rfl := Except.error.inj hcreate
        exact .taken hc htaken
      · contradiction
  · intro h
    cases h with
    | missing hnone => exact .inl ⟨hnone, rfl⟩
    | @taken _ _ _ _ c hc htaken =>
      refine .inr ⟨c, hc, ?_⟩
      rw [htaken]
      rfl

theorem dropIndex_eq_error_iff {name index : String} {e : StoreError} :
    s.dropIndex name index = .error e ↔ (Update.dropIndex name index).Refused s e := by
  unfold dropIndex
  rw [bind_collection_eq_error_iff]
  constructor
  · rintro (⟨hnone, rfl⟩ | ⟨c, hc, hdrop⟩)
    · exact .missing (u := .dropIndex name index) hnone (by simp)
    · split at hdrop <;> contradiction
  · intro h
    cases h with
    | missing hnone => exact .inl ⟨hnone, rfl⟩

/-- A store refuses a change for these reasons and no other. -/
theorem answer_eq_error_iff {u : Update} {e : StoreError} :
    s.answer u = .error e ↔ u.Refused s e := by
  cases u with
  | createCollection name =>
    constructor
    · intro h
      contradiction
    · intro h
      cases h with
      | missing _ hwrite => exact absurd rfl hwrite
  | put name r => exact map_eq_error_iff.trans put_eq_error_iff
  | delete name key => exact map_eq_error_iff.trans delete_eq_error_iff
  | createIndex name index field type => exact map_eq_error_iff.trans createIndex_eq_error_iff
  | dropIndex name index => exact map_eq_error_iff.trans dropIndex_eq_error_iff

/-! ## Atomicity -/

theorem update_of_error {u : Update} {e : StoreError} (h : s.answer u = .error e) : s.update u = s := by
  cases u with
  | createCollection name => contradiction
  | put name r =>
    refine getD_of_toOption_fst (P := (· = s)) rfl fun t ht => ?_
    simp [answer, ht, Except.map] at h
  | delete name key =>
    refine getD_of_toOption_fst (P := (· = s)) rfl fun t ht => ?_
    simp [answer, ht, Except.map] at h
  | createIndex name index field type =>
    refine getD_of_toOption (P := (· = s)) rfl fun t ht => ?_
    simp [answer, ht, Except.map] at h
  | dropIndex name index =>
    refine getD_of_toOption_fst (P := (· = s)) rfl fun t ht => ?_
    simp [answer, ht, Except.map] at h

theorem fst_of_delete_eq_false {name key : String} {t : Store × Bool} (h : s.delete name key = .ok t)
    (hfound : t.2 = false) : t.1 = s := by
  obtain ⟨c, -, hdelete⟩ := exists_collection_of_bind_eq_ok h
  split at hdelete
  · obtain rfl := Except.ok.inj hdelete
    contradiction
  · exact (congrArg Prod.fst (Except.ok.inj hdelete)).symm

theorem fst_of_dropIndex_eq_false {name index : String} {t : Store × Bool}
    (h : s.dropIndex name index = .ok t) (hfound : t.2 = false) : t.1 = s := by
  obtain ⟨c, -, hdrop⟩ := exists_collection_of_bind_eq_ok h
  split at hdrop
  · obtain rfl := Except.ok.inj hdrop
    contradiction
  · exact (congrArg Prod.fst (Except.ok.inj hdrop)).symm

theorem update_of_not_found {u : Update} (h : s.answer u = .ok (.found false)) : s.update u = s := by
  cases u with
  | createCollection name => simp [answer] at h
  | put name r =>
    refine getD_of_toOption_fst (P := (· = s)) rfl fun t ht => ?_
    simp [answer, ht, Except.map] at h
  | delete name key =>
    refine getD_of_toOption_fst (P := (· = s)) rfl fun t ht => fst_of_delete_eq_false ht ?_
    simpa [answer, ht, Except.map] using h
  | createIndex name index field type =>
    refine getD_of_toOption (P := (· = s)) rfl fun t ht => ?_
    simp [answer, ht, Except.map] at h
  | dropIndex name index =>
    refine getD_of_toOption_fst (P := (· = s)) rfl fun t ht => fst_of_dropIndex_eq_false ht ?_
    simpa [answer, ht, Except.map] using h

/-- A put fails for want of an encoding if its collection is there and a bin has a NUL in its name, and
    only then. -/
theorem answer_put_eq_encoding_iff {name : String} {r : Record} :
    (∃ key, s.answer (.put name r) = .error (.encoding key)) ↔
      (∃ c, s.collections.get? name = some c) ∧ ∃ bin ∈ r.bins.keys, '\x00' ∈ bin.toList := by
  constructor
  · rintro ⟨key, h⟩
    cases answer_eq_error_iff.1 h with
    | unencodable hc hbin => exact ⟨⟨_, hc⟩, hbin⟩
  · rintro ⟨⟨c, hc⟩, hbin⟩
    exact ⟨r.key, answer_eq_error_iff.2 (.unencodable hc hbin)⟩

/-- Step by step, every change comes to what the store makes of it and answers. It is refused for the
    reasons given; if it is, or if it finds nothing, the store is as it was; and in no case are other
    collections touched. -/
theorem exec_steps_atomic (s : Store) (u : Update) :
    let answer := (u.steps.exec s).1
    let after := (u.steps.exec s).2
    (answer = s.answer u ∧ after = s.update u) ∧
    (∀ e, answer = .error e ↔ u.Refused s e) ∧
    (∀ name r, u = .put name r → ((∃ key, answer = .error (.encoding key)) ↔
      (∃ c, s.collections.get? name = some c) ∧ ∃ bin ∈ r.bins.keys, '\x00' ∈ bin.toList)) ∧
    ((∃ e, answer = .error e) ∨ answer = .ok (.found false) → after = s) ∧
    ∀ name, name ≠ u.collection → after.collections.get? name = s.collections.get? name := by
  intro answer after
  have hanswer : answer = s.answer u := congrArg Prod.fst (Writing.exec_steps s u)
  have hafter : after = s.update u := congrArg Prod.snd (Writing.exec_steps s u)
  rw [hanswer, hafter]
  refine ⟨⟨rfl, rfl⟩, fun e => answer_eq_error_iff, ?_, ?_, fun name hname => ?_⟩
  · rintro name r rfl
    exact answer_put_eq_encoding_iff
  · rintro (⟨e, herror⟩ | hfound)
    · exact update_of_error herror
    · exact update_of_not_found hfound
  · exact (effect_update s u).get?_of_ne hname

/-- A store with a number under an index. -/
def numbered : Store :=
  empty.updates
    [.createCollection "c", .createIndex "c" "i" "n" .numeric,
      .put "c" ⟨"a", .ofList [("n", .int 1)], 0, none⟩]

/-- A new version of the record that is there, with a NUL in the name of a bin. -/
def unencodable : Update :=
  .put "c" ⟨"a", .ofList [("n", .int 2), ("\x00", .bool true)], 0, none⟩

theorem exec_steps_atomic_unencodable :
    (unencodable.steps.exec numbered).1 = .error (.encoding "a") ∧
      (unencodable.steps.exec numbered).2 = numbered := by
  obtain ⟨-, -, -, hunchanged, -⟩ := exec_steps_atomic numbered unencodable
  have hrefused : (unencodable.steps.exec numbered).1 = .error (.encoding "a") := by rfl
  exact ⟨hrefused, hunchanged (.inl ⟨_, hrefused⟩)⟩

end Store

end Quarry
