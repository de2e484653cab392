-- SUMMARY: Predicates, index queries and records survive being written and read.
import Quarry.Index.Encoding
import Quarry.PredicateTree.Encoding
import Quarry.Proofs.Predicate.WellFormed
import Quarry.Proofs.SortedMap
import Quarry.Proofs.Value.Encoding
import Quarry.Record.Encoding

/-!
# Reading back predicates, index queries and records

These are structures with optional parts. An absent operand, selector or bound is left out of the document
and an absent expiration is written as null; the reader takes both for absent. The condition that a
predicate is written as is built anew when it is read, which succeeds since it is the condition that the
predicate was built from.
-/

namespace Quarry

/-! ## Texts -/

/-- Decoding a text is decoding the document in it, if the text ends with the document. -/
theorem decodeText_of_read {α : Type} (decode : Json → Except DecodeError α) {text : String} {j : Json}
    (h : Json.read text = ⟨j, true⟩) : decodeText decode text = decode j := by
  simp only [decodeText, h]
  cases decode j with
  | error e => simp
  | ok a => simp

theorem decodeText_render {α : Type} (decode : Json → Except DecodeError α) {j : Json}
    (hj : j.textual = true) : decodeText decode j.render = decode j :=
  decodeText_of_read decode (Json.read_render hj)

/-! ## Operators and selectors -/

theorem Operator.ofTag?_tag (op : Operator) : ofTag? op.tag = some op := by
  cases op <;> rfl

theorem Selector.ofTag?_tag (s : Selector) : ofTag? s.tag = some s := by
  cases s <;> rfl

theorem Operator.ofJson?_toJson (op : Operator) (d : Nat) : ofJson? d op.toJson = some op := by
  simp [ofJson?, toJson, Json.name?, Json.ofString, ofTag?_tag]

theorem Selector.ofJson?_toJson (s : Selector) (d : Nat) : ofJson? d s.toJson = some s := by
  simp [ofJson?, toJson, Json.name?, Json.ofString, ofTag?_tag]

theorem Selector.toJson_ne_null (s : Selector) : s.toJson ≠ .null := by
  simp [toJson, Json.ofString]

/-! ## Operands -/

/-- An operand that has to be there and one that may be absent are read from what they are written as. -/
theorem Value.ofJson?_operands {v : Value} {w : Option Value} {d : Nat} (hv : v.toJson.depth ≤ d)
    (hw : ∀ u ∈ w, u.toJson.depth ≤ d)
    (hfloats : ∀ x ∈ v.floats ++ w.toList.flatMap floats, x.Legible) :
    ofJson? d v.toJson = some v ∧
      Json.defaulted? none (Json.optional? (ofJson? d)) (w.map toJson) = some w := by
  constructor
  · exact v.ofJson?_toJson hv fun x hx => hfloats x (List.mem_append_left _ hx)
  · refine Json.defaulted?_optional? toJson_ne_null fun u hu => ?_
    refine u.ofJson?_toJson (hw u hu) fun x hx => hfloats x (List.mem_append_right _ ?_)
    exact List.mem_flatMap.2 ⟨u, Option.mem_toList.2 hu, hx⟩

/-! ## Predicates -/

namespace Predicate

/-- The doubles in the operands of a predicate. -/
def floats (p : Predicate) : List Binary64 :=
  p.value1.floats ++ p.value2.toList.flatMap Value.floats

/-- The fields of the document of a predicate. -/
def fields (p : Predicate) : List (String × Option Json) :=
  [("field", some (.ofString p.field)), ("operator", some p.operator.toJson),
    ("value1", some p.value1.toJson), ("value2", p.value2.map Value.toJson),
    ("ignore_case", some (.bool p.ignoreCase)), ("selector", p.selector.map Selector.toJson)]

theorem toJson_eq_present (p : Predicate) : p.toJson = .ofMembers (Json.present p.fields) := by
  unfold toJson fields
  cases p.value2 <;> cases p.selector <;> rfl

theorem textual_toJson (p : Predicate) : p.toJson.textual = true := by
  rw [toJson_eq_present]
  refine Json.textual_present ?_
  simp [fields, Operator.toJson, Selector.toJson, Value.textual_toJson]

/-- The document of a predicate spells out its condition. -/
theorem condition_ofJson?_toJson {p : Predicate} {d : Nat} (hd : p.toJson.depth ≤ d)
    (hfloats : ∀ x ∈ p.floats, x.Legible) : Condition.ofJson? d p.toJson = some p.condition := by
  rw [toJson_eq_present] at hd ⊢
  obtain ⟨d, rfl, hdepths⟩ := Json.exists_of_depth_present_le hd
  have hfields : (Json.ofMembers (Json.present p.fields)).fields? (d + 1)
      ["field", "operator", "value1", "value2", "ignore_case", "selector"] =
        some (p.fields.map Prod.snd) :=
    Json.fields?_present p.fields (by simp [fields]) d
  have hdepth1 : p.value1.toJson.depth ≤ d := hdepths ("value1", _) (by simp [fields]) _ rfl
  have hdepth2 : ∀ v ∈ p.value2, v.toJson.depth ≤ d := fun v hv =>
    hdepths ("value2", p.value2.map Value.toJson) (by simp [fields]) _ (Option.mem_map_of_mem _ hv)
  obtain ⟨hvalue1, hvalue2⟩ := Value.ofJson?_operands hdepth1 hdepth2 hfloats
  have hoptional := Json.optional?_of_ne_null (Value.ofJson? d) p.value1.toJson_ne_null
  have hselector : Json.defaulted? none (Json.optional? (Selector.ofJson? d))
      (p.selector.map Selector.toJson) = some p.selector :=
    Json.defaulted?_optional? Selector.toJson_ne_null fun s _ => s.ofJson?_toJson d
  unfold Condition.ofJson?
  simp only [hfields]
  simp [fields, condition, p.operator.ofJson?_toJson, hoptional, hvalue1, hvalue2, hselector]

/-- Reading the document of a predicate gives the predicate. -/
theorem ofJson_toJson {p : Predicate} {d : Nat} (hd : p.toJson.depth ≤ d)
    (hfloats : ∀ x ∈ p.floats, x.Legible) : ofJson d p.toJson = .ok p := by
  have hbuild : p.condition.build = .ok p := p.build_condition
  unfold ofJson
  rw [condition_ofJson?_toJson hd hfloats]
  change (p.condition.build).mapError DecodeError.predicate = .ok p
  rw [hbuild]
  rfl

end Predicate

/-! ## Index queries -/

namespace IndexQuery

/-- The doubles in the bounds of a query. -/
def floats (q : IndexQuery) : List Binary64 :=
  q.bound1.floats ++ q.bound2.toList.flatMap Value.floats

/-- The fields of the document of a query. -/
def fields (q : IndexQuery) : List (String × Option Json) :=
  [("field", some (.ofString q.field)), ("operator", some q.operator.toJson),
    ("bound1", some q.bound1.toJson), ("bound2", q.bound2.map Value.toJson)]

theorem toJson_eq_present (q : IndexQuery) : q.toJson = .ofMembers (Json.present q.fields) := by
  unfold toJson fields
  cases q.bound2 <;> rfl

theorem textual_toJson (q : IndexQuery) : q.toJson.textual = true := by
  rw [toJson_eq_present]
  refine Json.textual_present ?_
  simp [fields, Operator.toJson, Value.textual_toJson]

/-- Reading the document of a query gives the query. -/
theorem ofJson?_toJson {q : IndexQuery} {d : Nat} (hd : q.toJson.depth ≤ d)
    (hfloats : ∀ x ∈ q.floats, x.Legible) : ofJson? d q.toJson = some q := by
  rw [toJson_eq_present] at hd ⊢
  obtain ⟨d, rfl, hdepths⟩ := Json.exists_of_depth_present_le hd
  have hfields : (Json.ofMembers (Json.present q.fields)).fields? (d + 1)
      ["field", "operator", "bound1", "bound2"] = some (q.fields.map Prod.snd) :=
    Json.fields?_present q.fields (by simp [fields]) d
  have hdepth1 : q.bound1.toJson.depth ≤ d := hdepths ("bound1", _) (by simp [fields]) _ rfl
  have hdepth2 : ∀ v ∈ q.bound2, v.toJson.depth ≤ d := fun v hv =>
    hdepths ("bound2", q.bound2.map Value.toJson) (by simp [fields]) _ (Option.mem_map_of_mem _ hv)
  obtain ⟨hbound1, hbound2⟩ := Value.ofJson?_operands hdepth1 hdepth2 hfloats
  unfold ofJson?
  simp only [hfields]
  simp [fields, q.operator.ofJson?_toJson, hbound1, hbound2]

end IndexQuery

/-! ## Records -/

namespace Record

/-- The doubles in the bins of a record. -/
def floats (r : Record) : List Binary64 :=
  r.bins.values.flatMap Value.floats

/-- The document of the bins of a record. -/
def binsToJson (bins : SortedMap String Value) : Json :=
  .ofMembers (bins.entries.map fun e => (e.1, e.2.toJson))

/-- The fields of the document of a record. -/
def fields (r : Record) : List (String × Option Json) :=
  [("key", some (.ofString r.key)), ("bins", some (binsToJson r.bins)),
    ("generation", some (.ofInt r.generation.toNat)),
    ("expiration", some ((r.expiration.map fun t => Json.ofInt t.toInt).getD .null))]

theorem toJson_eq_present (r : Record) : r.toJson = .ofMembers (Json.present r.fields) := rfl

theorem textual_toJson (r : Record) : r.toJson.textual = true := by
  have hbins : (binsToJson r.bins).textual = true := by
    refine Json.textual_ofMembers _ fun m hm => ?_
    obtain ⟨e, -, rfl⟩ := List.mem_map.1 hm
    exact e.2.textual_toJson
  have hexpiration : ((r.expiration.map fun t => Json.ofInt t.toInt).getD .null).textual = true := by
    cases r.expiration <;> rfl
  rw [toJson_eq_present]
  refine Json.textual_present ?_
  simp [fields, hbins, hexpiration]

/-- Bins are listed in the order of their names and named once each, so none is lost or replaced. -/
theorem binsOfJson?_binsToJson {bins : SortedMap String Value} {d : Nat}
    (hd : (binsToJson bins).depth ≤ d) (hfloats : ∀ v ∈ bins.values, ∀ x ∈ v.floats, x.Legible) :
    binsOfJson? d (binsToJson bins) = some bins := by
  obtain ⟨d, rfl, hdepths⟩ := Json.exists_of_depth_ofMembers_le hd
  have hentries : ((bins.entries.map fun e => (e.1, e.2.toJson)).map fun m => (some m.1, m.2)).mapM
      (fun m : Option String × Json => do return (← m.1, ← Value.ofJson? d m.2)) =
        some bins.entries := by
    rw [List.map_map]
    refine Json.mapM_map_eq_some fun e he => ?_
    have hv := e.2.ofJson?_toJson (hdepths _ (List.mem_map_of_mem he))
      (hfloats e.2 (List.mem_map_of_mem he))
    simp [hv]
  unfold binsOfJson? binsToJson Json.ofMembers
  simp only [hentries]
  simp [SortedMap.ofList_entries]

/-- An expiration, written as a number or as null, is read as what it was. -/
theorem optional?_expiration (t : Option Int64) :
    Json.optional? Json.int64? ((t.map fun t => Json.ofInt t.toInt).getD .null) = some t := by
  cases t with
  | none => rfl
  | some t =>
    have hne : Json.ofInt t.toInt ≠ .null := by simp [Json.ofInt]
    simp [Json.optional?_of_ne_null _ hne, Json.int64?_ofInt]

/-- Reading the document of a record gives the record. -/
theorem ofJson?_toJson {r : Record} {d : Nat} (hd : r.toJson.depth ≤ d)
    (hfloats : ∀ x ∈ r.floats, x.Legible) : ofJson? d r.toJson = some r := by
  rw [toJson_eq_present] at hd ⊢
  obtain ⟨d, rfl, hdepths⟩ := Json.exists_of_depth_present_le hd
  have hfields : (Json.ofMembers (Json.present r.fields)).fields? (d + 1)
      ["key", "bins", "generation", "expiration"] = some (r.fields.map Prod.snd) :=
    Json.fields?_present r.fields (by simp [fields]) d
  have hbins : binsOfJson? d (binsToJson r.bins) = some r.bins := by
    have hdepth : (binsToJson r.bins).depth ≤ d := hdepths ("bins", _) (by simp [fields]) _ rfl
    exact binsOfJson?_binsToJson hdepth fun v hv x hx => hfloats x (List.mem_flatMap.2 ⟨v, hv, hx⟩)
  have hgeneration : (Json.ofInt r.generation.toNat).uint32? = some r.generation :=
    Json.uint32?_ofInt r.generation
  unfold ofJson?
  simp only [hfields]
  simp [fields, hbins, hgeneration, optional?_expiration]

end Record

/-! ## Written and read -/

/-- Values, predicates, index queries and records are read from the texts that they are written as. -/
theorem decodeText_toJson_render :
    (∀ v : Value, v.toJson.depth ≤ Json.nestingLimit → (∀ x ∈ v.floats, x.Legible) →
      decodeText (fun j => orMalformed (Value.ofJson? Json.nestingLimit j)) v.toJson.render = .ok v) ∧
    (∀ p : Predicate, p.toJson.depth ≤ Json.nestingLimit → (∀ x ∈ p.floats, x.Legible) →
      decodeText (Predicate.ofJson Json.nestingLimit) p.toJson.render = .ok p) ∧
    (∀ q : IndexQuery, q.toJson.depth ≤ Json.nestingLimit → (∀ x ∈ q.floats, x.Legible) →
      decodeText (fun j => orMalformed (IndexQuery.ofJson? Json.nestingLimit j)) q.toJson.render = .ok q) ∧
    (∀ r : Record, r.toJson.depth ≤ Json.nestingLimit → (∀ x ∈ r.floats, x.Legible) →
      decodeText (fun j => orMalformed (Record.ofJson? Json.nestingLimit j)) r.toJson.render = .ok r) := by
  refine ⟨fun v hd hfloats => ?_, fun p hd hfloats => ?_, fun q hd hfloats => ?_,
    fun r hd hfloats => ?_⟩
  · rw [decodeText_render _ v.textual_toJson, v.ofJson?_toJson hd hfloats]
    rfl
  · rw [decodeText_render _ p.textual_toJson, Predicate.ofJson_toJson hd hfloats]
  · rw [decodeText_render _ q.textual_toJson, IndexQuery.ofJson?_toJson hd hfloats]
    rfl
  · rw [decodeText_render _ r.textual_toJson, Record.ofJson?_toJson hd hfloats]
    rfl

/-- A map with a key that occurs twice and keys that are no texts, in texts characters that are escaped or
    outside ASCII, and every kind of geometry. -/
def Value.sample : Value :=
  .map [
    (.string "\x01\"\\é", .float ⟨0x8000000000000000⟩),
    (.string "\x01\"\\é", .int (-9223372036854775808)),
    (.list [.bool true, .map []], .geo (.polygon [⟨⟨0x3FF8000000000000⟩, ⟨0x3FB999999999999A⟩⟩])),
    (.geo (.circle ⟨⟨0⟩, ⟨0⟩⟩ ⟨0x407F400000000000⟩), .geo (.point ⟨⟨0⟩, ⟨0x4341C37937E08000⟩⟩))]

def Predicate.sample : Predicate :=
  ⟨"a.b", .between, .float ⟨0x3FF8000000000000⟩, some (.int 7), false, none, rfl⟩

def IndexQuery.sample : IndexQuery :=
  ⟨"n", .eq, .string "\n", none⟩

def Record.sample : Record :=
  ⟨"k", .ofList [("\x00", .sample), ("", .float ⟨0⟩)], 4294967295, none⟩

theorem decodeText_toJson_render_sample :
    decodeText (fun j => orMalformed (Value.ofJson? Json.nestingLimit j)) Value.sample.toJson.render =
      .ok .sample ∧
    decodeText (Predicate.ofJson Json.nestingLimit) Predicate.sample.toJson.render = .ok .sample ∧
    decodeText (fun j => orMalformed (IndexQuery.ofJson? Json.nestingLimit j))
      IndexQuery.sample.toJson.render = .ok .sample ∧
    decodeText (fun j => orMalformed (Record.ofJson? Json.nestingLimit j)) Record.sample.toJson.render =
      .ok .sample := by
  obtain ⟨hvalue, hpredicate, hquery, hrecord⟩ := decodeText_toJson_render
  exact ⟨hvalue .sample (by decide +kernel) (by decide +kernel),
    hpredicate .sample (by decide +kernel) (by decide +kernel),
    hquery .sample (by decide +kernel) (by decide +kernel),
    hrecord .sample (by decide +kernel) (by decide +kernel)⟩

end Quarry
