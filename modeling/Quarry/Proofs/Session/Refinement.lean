-- SUMMARY: The answers about records in a session are those of a plain map.
import Quarry.Proofs.Session.Run
import Quarry.Proofs.Store.Plain

/-!
# Sessions over plain stores

Whatever a session went through, what it answers when records are written, read, counted or listed is
what a plain store answers that went through the changes of the store alone. Indexes, streams, cursors
and the policy have no part in it.
-/

namespace Quarry

/-! ## Answers -/

namespace Command

/-- Whether a command creates or drops an index. -/
def isIndexing : Command → Bool
  | .createIndex .. | .dropIndex .. => true
  | _ => false

/-- Whether a command writes, reads, counts or lists records of a collection. -/
def isPlain : Command → Bool
  | .createCollection _ | .put .. | .putMany .. | .delete .. | .get .. | .size _ | .isEmpty _
  | .scan _ => true
  | _ => false

end Command

/-- The answer that a result or a failure leads to. -/
def Answer.ofResult {α : Type} (answer : α → Answer) : Except StoreError α → Answer
  | .ok a => answer a
  | .error e => .storeError e

namespace PlainStore

/-- The generations of records that are stored one after the other, and the failures among them. -/
def generations (p : PlainStore) (name : String) : List Record → List (Except StoreError UInt32)
  | [] => []
  | r :: rs => (p.put name r).map Prod.snd :: (p.update (.put name r)).generations name rs

/-- What is answered to a listing of a collection: something about its records, each of them once and in
    the order of the bytes of the keys. -/
def Lists (p : PlainStore) (name : String) (answer : List Record → Answer) (a : Answer) : Prop :=
  match p name with
  | some m => ∃ keys, m.Listing keys ∧ a = answer (m.records keys)
  | none => a = .storeError (.collectionNotFound name)

/-- What is answered to a command about records. -/
def Answers (p : PlainStore) : Command → Answer → Prop
  | .createCollection _, a => a = .done
  | .put name r, a => a = .ofResult .generation ((p.put name r).map Prod.snd)
  | .putMany name rs, a => a = .generations (p.generations name rs)
  | .delete name key, a => a = .ofResult .flag ((p.delete name key).map Prod.snd)
  | .get name key, a => a = .ofResult .record (p.get name key)
  | .size name, a => p.Lists name (fun rs => .number rs.length) a
  | .isEmpty name, a => p.Lists name (fun rs => .flag rs.isEmpty) a
  | .scan name, a => p.Lists name .records a
  | _, _ => True

variable {p : PlainStore}

theorem Lists.unique {name : String} {answer : List Record → Answer} {a b : Answer}
    (ha : p.Lists name answer a) (hb : p.Lists name answer b) : a = b := by
  unfold Lists at ha hb
  cases hname : p name with
  | none =>
    simp only [hname] at ha hb
    exact ha.trans hb.symm
  | some m =>
    simp only [hname] at ha hb
    obtain ⟨keys, hkeys, rfl⟩ := ha
    obtain ⟨others, hothers, rfl⟩ := hb
    rw [hkeys.unique hothers]

/-- A plain store leaves no choice. -/
theorem Answers.unique {c : Command} {a b : Answer} (hc : c.isPlain = true) (ha : p.Answers c a)
    (hb : p.Answers c b) : a = b := by
  cases c with
  | createCollection | put | putMany | delete | get => exact ha.trans hb.symm
  | size name =>
    have hlists : p.Lists name (fun rs => .number rs.length) a := ha
    exact hlists.unique hb
  | isEmpty name =>
    have hlists : p.Lists name (fun rs => .flag rs.isEmpty) a := ha
    exact hlists.unique hb
  | scan name =>
    have hlists : p.Lists name .records a := ha
    exact hlists.unique hb
  | _ => contradiction

end PlainStore

/-! ## Sessions -/

namespace Session

variable {s : Session}

theorem snd_change {α : Type} (answer : α → Answer) (result : Except StoreError (Store × α)) :
    (s.change answer result).2 = .ofResult answer (result.map Prod.snd) := by
  cases result <;> rfl

theorem snd_reply {α : Type} (answer : α → Answer) (result : Except StoreError α) :
    (s.reply answer result).2 = .ofResult answer result := by
  cases result <;> rfl

theorem snd_put (name : String) (r : Record) :
    (s.store.put name r).map Prod.snd = (s.store.plain.put name r).map Prod.snd := by
  rw [← Store.plain_put]
  cases s.store.put name r <;> rfl

theorem snd_delete (name key : String) :
    (s.store.delete name key).map Prod.snd = (s.store.plain.delete name key).map Prod.snd := by
  rw [← Store.plain_delete]
  cases s.store.delete name key <;> rfl

/-- Each record finds the store that those before it left, on both sides. -/
theorem snd_putMany (name : String) (rs : List Record) :
    (s.putMany name rs).2 = s.store.plain.generations name rs := by
  induction rs generalizing s with
  | nil => rfl
  | cons r rs ih =>
    have hfirst := snd_put (s := s) name r
    have hplain := Store.plain_update s.store (.put name r)
    unfold putMany PlainStore.generations
    rw [← hfirst, ← hplain]
    cases hput : s.store.put name r with
    | ok result => simp [ih, update_put_of_ok hput, Except.map]
    | error e => simp [ih, update_put_of_error hput, Except.map]

/-- What is made of the records of a collection is an answer to a listing. -/
theorem lists_records (hs : s.store.Consistent) {α : Type} {result : Except StoreError α}
    {name : String} {f : List Record → α} (answer : α → Answer)
    (h : result = (s.store.collection name).map fun c => f c.records.values) :
    s.store.plain.Lists name (fun rs => answer (f rs)) (s.reply answer result).2 := by
  rw [snd_reply, h]
  unfold PlainStore.Lists Store.plain Store.collection
  cases hc : s.store.collections.get? name with
  | none => rfl
  | some c =>
    refine ⟨c.records.keys, c.listing_keys, ?_⟩
    rw [(hs name c hc).records_plain]
    rfl

/-- A session answers to a command about records as the plain store of its store does. -/
theorem answers_step (hs : s.store.Consistent) (c : Command) :
    s.store.plain.Answers c (s.step c).2 := by
  cases c with
  | createCollection name => rfl
  | put name r => exact (snd_change _ _).trans (congrArg _ (snd_put name r))
  | putMany name rs => exact congrArg Answer.generations (snd_putMany name rs)
  | delete name key => exact (snd_change _ _).trans (congrArg _ (snd_delete name key))
  | get name key => exact (snd_reply _ _).trans (congrArg _ (hs.plain_get name key))
  | size name => exact lists_records hs .number (s.store.size_eq name)
  | isEmpty name => exact lists_records hs .flag (s.store.isEmpty_eq name)
  | scan name => exact lists_records hs (f := id) .records (s.store.records_scan name)
  | _ => trivial

/-! ## Runs -/

/-- A run makes the changes of its commands. -/
theorem store_run (cs : List Command) :
    (s.run cs).store = s.store.updates (cs.flatMap (·.updates)) := by
  induction cs generalizing s with
  | nil => rfl
  | cons c cs ih => simp [ih, store_step, Store.updates]

section

variable (test : GeometryTest) (config : Config) (ev : Evaluator) (readerOf : Store → Reader)

theorem plain_run (cs : List Command) :
    ((start test config ev readerOf).run cs).store.plain =
      PlainStore.updates .empty (cs.flatMap (·.updates)) := by
  rw [store_run, Store.plain_updates]
  rfl

theorem consistent_run (cs : List Command) :
    ((start test config ev readerOf).run cs).store.Consistent := by
  rw [store_run]
  exact (Store.Reachable.updates .empty _).consistent

end

/-- Creating and dropping indexes leaves no trace in a plain store. -/
theorem updates_filter_isIndexing (p : PlainStore) (cs : List Command) :
    p.updates ((cs.filter (!·.isIndexing)).flatMap (·.updates)) =
      p.updates (cs.flatMap (·.updates)) := by
  induction cs generalizing p with
  | nil => rfl
  | cons c cs ih =>
    cases hindexing : c.isIndexing with
    | false => simpa [hindexing, PlainStore.updates] using ih (p.updates c.updates)
    | true =>
      have hsame : p.updates c.updates = p := by
        cases c with
        | createIndex | dropIndex => rfl
        | _ => contradiction
      rw [List.flatMap_cons, PlainStore.updates_append, hsame, ← ih]
      simp [hindexing]

/-- After every run from the empty store a command about records is answered as by a plain store after
    the same changes, and as after the run without what was done to indexes. -/
theorem answers_plain (test : GeometryTest) (config : Config) (ev : Evaluator)
    (readerOf : Store → Reader) (cs : List Command) (c : Command) :
    let empty := start test config ev readerOf
    let p := PlainStore.updates .empty (cs.flatMap (·.updates))
    p.Answers c ((empty.run cs).step c).2 ∧
      (c.isPlain = true →
        (∀ a, p.Answers c a → a = ((empty.run cs).step c).2) ∧
        ((empty.run (cs.filter (!·.isIndexing))).step c).2 = ((empty.run cs).step c).2) := by
  intro empty p
  have hanswers (ds : List Command) :
      (PlainStore.updates .empty (ds.flatMap (·.updates))).Answers c ((empty.run ds).step c).2 := by
    have hstep := answers_step (consistent_run test config ev readerOf ds) c
    rwa [plain_run] at hstep
  refine ⟨hanswers cs, fun hc => ⟨fun a ha => ha.unique hc (hanswers cs), ?_⟩⟩
  have hwithout := hanswers (cs.filter (!·.isIndexing))
  rw [updates_filter_isIndexing] at hwithout
  exact hwithout.unique hc (hanswers cs)

/-- A record is stored, stored again, removed and stored once more, under an index that comes and
    goes. -/
def rewriting : List Command :=
  let r : Record := ⟨"a", .ofList [("n", .int 1)], 7, none⟩
  [.createCollection "c", .put "c" r, .createIndex "c" "i" "n" .numeric, .put "c" r, .delete "c" "a",
    .put "c" r, .dropIndex "c" "i"]

/-- The record, whatever generation it comes with. -/
def rewritten : Command :=
  .put "c" ⟨"a", .empty, 7, none⟩

theorem answers_plain_rewriting :
    let empty := start .containment {} .containment (Store.reader .containment)
    let p := PlainStore.updates .empty (rewriting.flatMap (·.updates))
    rewritten.isPlain = true ∧ p.Answers rewritten (.generation 2) ∧
      (∀ a, p.Answers rewritten a → a = .generation 2) ∧
      ((empty.run (rewriting.filter (!·.isIndexing))).step rewritten).2 = .generation 2 := by
  have hgeneration : (((start .containment {} .containment
      (Store.reader .containment)).run rewriting).step rewritten).2 = .generation 2 := by rfl
  obtain ⟨hanswers, hplain⟩ :=
    answers_plain .containment {} .containment (Store.reader .containment) rewriting rewritten
  obtain ⟨hunique, hwithout⟩ := hplain rfl
  rw [hgeneration] at hanswers hunique hwithout
  exact ⟨rfl, hanswers, hunique, hwithout⟩

end Session

end Quarry
