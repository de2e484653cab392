-- SUMMARY: Predicates that are built, read from documents or made by a shorthand pass one validation.
import Quarry.Proofs.Documents

/-!
# Ways to make a predicate

A document of a predicate is read as a condition first. What is written there is optional but for the field
and the operator, and what is left out or null is absent from the condition, so that the order of the members
does not matter and nothing is decided while they are read. The condition is then built like any other, and
what a shorthand makes is built from its parts as well. So all ways accept the same parts, and refuse others
for the same reason.
-/

namespace Quarry

/-! ## Documents of conditions -/

namespace Json

/-- How a part that may be absent stands in a document: as it is written, or left out or null if there is
    none. -/
inductive SpellsOptional {α : Type} (write : α → Json) : Option α → Option Json → Prop
  | written (a : α) : SpellsOptional write (some a) (some (write a))
  | leftOut : SpellsOptional write none none
  | null : SpellsOptional write none (some .null)

/-- How a flag stands in a document: as it is, or left out if it is not set. -/
inductive SpellsFlag : Bool → Option Json → Prop
  | written (b : Bool) : SpellsFlag b (some (.bool b))
  | leftOut : SpellsFlag false none

theorem SpellsOptional.read {α : Type} {write : α → Json} {read? : Json → Option α} {a : Option α}
    {j : Option Json} (h : SpellsOptional write a j) (hnull : ∀ b, write b ≠ .null)
    (hread : ∀ b ∈ a, j = some (write b) → read? (write b) = some b) :
    defaulted? none (optional? read?) j = some a := by
  cases h with
  | written b =>
    rw [defaulted?_some, optional?_of_ne_null read? (hnull b), hread b rfl rfl]
    rfl
  | leftOut => rfl
  | null => rfl

theorem SpellsOptional.textual {α : Type} {write : α → Json} {a : Option α} {j : Option Json}
    (h : SpellsOptional write a j) (hwrite : ∀ b, (write b).textual = true) :
    ∀ i ∈ j, i.textual = true := by
  cases h with
  | written b =>
    rintro _ ⟨rfl⟩
    exact hwrite b
  | leftOut =>
    intro i hi
    contradiction
  | null =>
    rintro _ ⟨rfl⟩
    rfl

theorem SpellsFlag.textual {b : Bool} {j : Option Json} (h : SpellsFlag b j) :
    ∀ i ∈ j, i.textual = true := by
  cases h with
  | written b =>
    rintro _ ⟨rfl⟩
    rfl
  | leftOut =>
    intro i hi
    contradiction

theorem SpellsFlag.read {b : Bool} {j : Option Json} (h : SpellsFlag b j) :
    defaulted? false bool? j = some b := by
  cases h with
  | written => rfl
  | leftOut => rfl

end Json

namespace Condition

/-- The names of the members of the document of a condition. -/
def memberNames : List String :=
  ["field", "operator", "value1", "value2", "ignore_case", "selector"]

/-- The members spell out the parts of a condition, in any order, each of them once. -/
structure SpelledBy (c : Condition) (members : List (String × Json)) : Prop where
  known : ∀ m ∈ members, m.1 ∈ memberNames
  distinct : (members.map Prod.fst).Nodup
  field : members.lookup "field" = some (.ofString c.field)
  operator : members.lookup "operator" = some c.operator.toJson
  value1 : Json.SpellsOptional Value.toJson c.value1 (members.lookup "value1")
  value2 : Json.SpellsOptional Value.toJson c.value2 (members.lookup "value2")
  ignoreCase : Json.SpellsFlag c.ignoreCase (members.lookup "ignore_case")
  selector : Json.SpellsOptional Selector.toJson c.selector (members.lookup "selector")

/-- The doubles in the operands of a condition. -/
def floats (c : Condition) : List Binary64 :=
  c.value1.toList.flatMap Value.floats ++ c.value2.toList.flatMap Value.floats

variable {c : Condition} {members : List (String × Json)}

/-- An operand that is written in the document is read as what it was. -/
theorem read_operand {d : Nat} {v : Option Value} {k : String}
    (h : Json.SpellsOptional Value.toJson v (members.lookup k))
    (hdepths : ∀ m ∈ members, m.2.depth ≤ d)
    (hfloats : ∀ x ∈ v.toList.flatMap Value.floats, x.Legible) :
    Json.defaulted? none (Json.optional? (Value.ofJson? d)) (members.lookup k) = some v := by
  refine h.read Value.toJson_ne_null fun u hu hj => ?_
  have hdepth : u.toJson.depth ≤ d := hdepths _ (Json.mem_of_lookup hj)
  refine u.ofJson?_toJson hdepth fun x hx => hfloats x ?_
  exact List.mem_flatMap.2 ⟨u, Option.mem_toList.2 hu, hx⟩

/-- A document that spells out a condition is read as this condition. -/
theorem SpelledBy.ofJson? (h : c.SpelledBy members) {d : Nat} (hd : (Json.ofMembers members).depth ≤ d)
    (hfloats : ∀ x ∈ c.floats, x.Legible) : ofJson? d (.ofMembers members) = some c := by
  obtain ⟨d, rfl, hdepths⟩ := Json.exists_of_depth_ofMembers_le hd
  have hfields : (Json.ofMembers members).fields? (d + 1) memberNames =
      some (memberNames.map fun n => members.lookup n) :=
    Json.fields?_ofMembers memberNames members (by decide) h.known h.distinct d
  have hvalue1 := read_operand h.value1 hdepths fun x hx => hfloats x (List.mem_append_left _ hx)
  have hvalue2 := read_operand h.value2 hdepths fun x hx => hfloats x (List.mem_append_right _ hx)
  have hignoreCase := h.ignoreCase.read
  have hselector : Json.defaulted? none (Json.optional? (Selector.ofJson? d))
      (members.lookup "selector") = some c.selector :=
    h.selector.read Selector.toJson_ne_null fun s _ _ => s.ofJson?_toJson d
  unfold memberNames at hfields
  unfold Condition.ofJson?
  simp only [hfields]
  simp [h.field, h.operator, c.operator.ofJson?_toJson, hvalue1, hvalue2, hignoreCase, hselector]

/-- Building follows reading. -/
theorem SpelledBy.ofJson (h : c.SpelledBy members) {d : Nat} (hd : (Json.ofMembers members).depth ≤ d)
    (hfloats : ∀ x ∈ c.floats, x.Legible) :
    Predicate.ofJson d (.ofMembers members) = c.build.mapError .predicate := by
  unfold Predicate.ofJson
  rw [h.ofJson? hd hfloats]
  rfl

/-- A document that spells out a condition has a text. -/
theorem SpelledBy.textual (h : c.SpelledBy members) : (Json.ofMembers members).textual = true := by
  refine Json.textual_ofMembers members fun m hm => ?_
  obtain ⟨k, j⟩ := m
  have hlookup : members.lookup k = some j := Json.lookup_of_mem h.distinct hm
  have hknown : k ∈ memberNames := h.known _ hm
  simp only [memberNames, List.mem_cons, List.not_mem_nil, or_false] at hknown
  obtain rfl | rfl | rfl | rfl | rfl | rfl := hknown
  · rw [← Option.some.inj (h.field.symm.trans hlookup)]
    exact Json.textual_ofString c.field
  · rw [← Option.some.inj (h.operator.symm.trans hlookup)]
    exact Json.textual_ofString c.operator.tag
  · exact h.value1.textual Value.textual_toJson j hlookup
  · exact h.value2.textual Value.textual_toJson j hlookup
  · exact h.ignoreCase.textual j hlookup
  · exact h.selector.textual (fun s => Json.textual_ofString s.tag) j hlookup

end Condition

/-! ## Shorthands -/

/-- A shorthand with what it is called with. -/
inductive Shorthand where
  | eq (field : String) (v : Value)
  | notEq (field : String) (v : Value)
  | lt (field : String) (v : Value)
  | ltEq (field : String) (v : Value)
  | gt (field : String) (v : Value)
  | gtEq (field : String) (v : Value)
  | containing (field : String) (v : Value)
  | between (field : String) (lower upper : Value)
  | startsWith (field start : String)
  | endsWith (field ending : String)
  | isIn (field : String) (candidates : List Value)
  | geoWithin (field : String) (region : Geometry)
  | expiry (op : Operator) (v : Value)
  | generation (op : Operator) (v : Value)

namespace Shorthand

/-- What the shorthand makes. -/
def make : Shorthand → Except PredicateError Predicate
  | eq field v => Predicate.eq field v
  | notEq field v => Predicate.notEq field v
  | lt field v => Predicate.lt field v
  | ltEq field v => Predicate.ltEq field v
  | gt field v => Predicate.gt field v
  | gtEq field v => Predicate.gtEq field v
  | containing field v => Predicate.containing field v
  | between field lower upper => Predicate.between field lower upper
  | startsWith field start => Predicate.startsWith field start
  | endsWith field ending => Predicate.endsWith field ending
  | isIn field candidates => Predicate.isIn field candidates
  | geoWithin field region => Predicate.geoWithin field region
  | expiry op v => Predicate.expiry op v
  | generation op v => Predicate.generation op v

/-- The parts that the shorthand stands for. -/
def parts : Shorthand → Condition
  | eq field v => .comparison field v false .eq
  | notEq field v => .comparison field v false .notEq
  | lt field v => .comparison field v false .lt
  | ltEq field v => .comparison field v false .ltEq
  | gt field v => .comparison field v false .gt
  | gtEq field v => .comparison field v false .gtEq
  | containing field v => .comparison field v false .containing
  | between field lower upper => ⟨field, .between, some lower, some upper, false, none⟩
  | startsWith field start => .comparison field (.string start) false .startsWith
  | endsWith field ending => .comparison field (.string ending) false .endsWith
  | isIn field candidates => .comparison field (.list candidates) false .isIn
  | geoWithin field region => .comparison field (.geo region) false .geoWithin
  | expiry op v => .comparison "@expiration" v false op
  | generation op v => .comparison "@generation" v false op

theorem make_eq (s : Shorthand) : s.make = s.parts.build := by
  cases s <;> rfl

end Shorthand

/-! ## All ways -/

/-- A text that spells out a condition, with its members in any order and absent parts left out or null, is
    read as the predicate that is built from the condition. If that cannot be built, the text is refused with
    the same error, which names the field, the operator and the first thing that is wrong. A shorthand
    makes what is built from the parts it stands for. -/
theorem Condition.construction_agrees :
    (∀ (c : Condition) (members : List (String × Json)), c.SpelledBy members →
      (Json.ofMembers members).depth ≤ Json.nestingLimit → (∀ x ∈ c.floats, x.Legible) →
      Json.read (Json.ofMembers members).render = ⟨.ofMembers members, true⟩ ∧
      ∀ text, Json.read text = ⟨.ofMembers members, true⟩ →
        decodeText (Predicate.ofJson Json.nestingLimit) text = c.build.mapError .predicate) ∧
    (∀ (c : Condition) (p : Predicate), c.build = .ok p ↔ p.condition = c) ∧
    (∀ (c : Condition) (e : PredicateError), c.build = .error e ↔
      ∃ fault, c.fault? = some fault ∧ e = ⟨c.field, c.operator, fault⟩) ∧
    ∀ s : Shorthand, s.make = s.parts.build := by
  refine ⟨fun c members hspelled hd hfloats => ⟨?_, fun text htext => ?_⟩, fun c p => ?_, fun c e => ?_,
    Shorthand.make_eq⟩
  · exact Json.read_render hspelled.textual
  · rw [decodeText_of_read _ htext, hspelled.ofJson hd hfloats]
  · exact build_eq_ok_iff
  · exact build_eq_error_iff

/-- The members of the document of a range from 3/2 up, out of order and with a selector that is null. -/
def Condition.rangeMembers (upper : Value) : List (String × Json) :=
  [("selector", .null), ("value2", upper.toJson), ("operator", Operator.between.toJson),
    ("value1", (Value.float ⟨0x3FF8000000000000⟩).toJson), ("field", .ofString "a.b")]

theorem Condition.rangeMembers_spell (upper : Value) :
    (Shorthand.between "a.b" (.float ⟨0x3FF8000000000000⟩) upper).parts.SpelledBy (rangeMembers upper) where
  known := by simp [rangeMembers, memberNames]
  distinct := by simp [rangeMembers]
  field := rfl
  operator := rfl
  value1 := .written _
  value2 := .written upper
  ignoreCase := .leftOut
  selector := .null

/-- A number and a text are no range, whoever makes it. -/
theorem Condition.construction_agrees_range :
    decodeText (Predicate.ofJson Json.nestingLimit) (Json.ofMembers (rangeMembers (.int 7))).render =
      .ok .sample ∧
    decodeText (Predicate.ofJson Json.nestingLimit) (Json.ofMembers (rangeMembers (.string "b"))).render =
      .error (.predicate ⟨"a.b", .between, .mixedBounds⟩) ∧
    (Shorthand.between "a.b" (.float ⟨0x3FF8000000000000⟩) (.string "b")).make =
      .error ⟨"a.b", .between, .mixedBounds⟩ := by
  obtain ⟨hread, hok, herror, hshorthand⟩ := construction_agrees
  obtain ⟨htext, hdecode⟩ := hread _ _ (rangeMembers_spell (.int 7)) (by decide +kernel) (by decide +kernel)
  obtain ⟨htext', hdecode'⟩ :=
    hread _ _ (rangeMembers_spell (.string "b")) (by decide +kernel) (by decide +kernel)
  have hbuild := (hok (Shorthand.between "a.b" (.float ⟨0x3FF8000000000000⟩) (.int 7)).parts .sample).2 rfl
  have hrefused := (herror (Shorthand.between "a.b" (.float ⟨0x3FF8000000000000⟩) (.string "b")).parts
    ⟨"a.b", .between, .mixedBounds⟩).2 ⟨_, rfl, rfl⟩
  refine ⟨?_, ?_, ?_⟩
  · rw [hdecode _ htext, hbuild]
    rfl
  · rw [hdecode' _ htext', hrefused]
    rfl
  · rw [hshorthand, hrefused]

end Quarry
