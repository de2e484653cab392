-- SUMMARY: Every location in a record has a path that leads to it, and paths lead nowhere else.
import Quarry.Proofs.Evaluation.Branches
import Quarry.Proofs.Record.Segments

/-!
# Locations and their paths

A location in a record is a bin and a way down from its value, to the first entry of a map under some text or
to an item of a list. The name of the bin and the steps, joined by dots, are its path. As long as no dot
stands in the name or in a step, a path is taken apart into just these, empty ones included, and each
of them is the step that the value at hand allows: a key where it is a map, a position where it is a list.

Only a bin that has the whole path for its name comes before the location. So a path finds the bin that it
names, or else what is at the location that it writes, and nothing when there is neither.
-/

namespace Quarry

/-! ## Locations -/

namespace Value

/-- One step down into a value, and the segment that writes it: a key without a dot, which stands for the
    first entry that has it, or a position in a list. Positions are machine words. -/
inductive Step : Value → String → Value → Prop
  | entry {before after : List (Value × Value)} {key : String} {v : Value} (hdot : '.' ∉ key.toList)
      (hfirst : ∀ e ∈ before, e.1 ≠ .string key) :
      Step (.map (before ++ (.string key, v) :: after)) key v
  | item {items : List Value} {position : UInt64} {v : Value} (hitem : items[position.toNat]? = some v)
      (plus : Bool) (zeros : Nat) : Step (.list items) (Path.decimal plus zeros position.toNat) v

/-- A way down, step by step. -/
inductive Leads : Value → List String → Value → Prop
  | here {v : Value} : Leads v [] v
  | down {u v w : Value} {segment : String} {segments : List String} (hstep : u.Step segment v)
      (hrest : v.Leads segments w) : Leads u (segment :: segments) w

end Value

/-- A bin, and a way from its value down to `v`. No dot stands in the name of the bin. -/
structure Record.Locates (r : Record) (name : String) (segments : List String) (v : Value) : Prop where
  undotted : '.' ∉ name.toList
  reaches : ∃ u, r.bin? name = some u ∧ u.Leads segments v

/-! ## Steps -/

namespace Value

variable {u v : Value} {segment : String} {segments : List String}

theorem Step.undotted (h : u.Step segment v) : '.' ∉ segment.toList := by
  cases h with
  | entry hdot => exact hdot
  | item _ plus zeros => exact Path.undotted_decimal plus zeros _

theorem Leads.undotted (h : u.Leads segments v) : ∀ s ∈ segments, '.' ∉ s.toList := by
  induction h with
  | here => simp
  | down hstep _ ih => exact List.forall_mem_cons.2 ⟨hstep.undotted, ih⟩

theorem string?_eq_some_iff {s : String} : v.string? = some s ↔ v = .string s := by
  cases v <;> simp [string?]

/-- The value that a text leads to in a map is that of the first entry with this text as its key. -/
theorem get?_map_eq_some_iff {entries : List (Value × Value)} {key : String} :
    (map entries).get? key = some v ↔
      ∃ before after, entries = before ++ (.string key, v) :: after ∧
        ∀ e ∈ before, e.1 ≠ .string key := by
  have hkey (e : Value × Value) : (e.1.string? == some key) = true ↔ e.1 = .string key := by
    rw [beq_iff_eq, string?_eq_some_iff]
  have hget : (map entries).get? key =
      (entries.find? fun e => e.1.string? == some key).map Prod.snd := rfl
  rw [hget, Option.map_eq_some_iff]
  constructor
  · rintro ⟨⟨k, w⟩, hfind, rfl⟩
    obtain ⟨hk, before, after, rfl, hbefore⟩ := List.find?_eq_some_iff_append.1 hfind
    obtain rfl : k = .string key := (hkey (k, w)).1 hk
    refine ⟨before, after, rfl, fun e he heq => ?_⟩
    simpa [(hkey e).2 heq] using hbefore e he
  · rintro ⟨before, after, rfl, hbefore⟩
    refine ⟨(.string key, v), List.find?_eq_some_iff_append.2 ⟨(hkey _).2 rfl, before, after, rfl, ?_⟩, rfl⟩
    intro e he
    simpa using mt (hkey e).1 (hbefore e he)

/-- A segment without a dot takes the step that it writes. -/
theorem step?_eq_some_iff (hdot : '.' ∉ segment.toList) :
    Path.step? segment.toList u = some v ↔ u.Step segment v := by
  constructor
  · intro h
    cases u with
    | map entries =>
      rw [Path.step?, String.ofList_toList, get?_map_eq_some_iff] at h
      obtain ⟨before, after, rfl, hfirst⟩ := h
      exact .entry hdot hfirst
    | list items =>
      obtain ⟨n, hindex, hitem⟩ := Option.bind_eq_some_iff.1 h
      obtain ⟨hlt, plus, zeros, hsegment⟩ := Path.index?_eq_some_iff.1 hindex
      obtain rfl := String.toList_inj.1 hsegment
      obtain ⟨position, rfl⟩ : ∃ position : UInt64, n = position.toNat :=
        ⟨.ofNat n, (UInt64.toNat_ofNat_of_lt' hlt).symm⟩
      exact .item hitem plus zeros
    | _ => contradiction
  · intro h
    cases h with
    | @entry before after _ v _ hfirst =>
      rw [Path.step?, String.ofList_toList]
      exact get?_map_eq_some_iff.2 ⟨before, after, rfl, hfirst⟩
    | @item items position v hitem plus zeros =>
      have hindex := Path.index?_eq_some_iff.2 ⟨position.toNat_lt, plus, zeros, rfl⟩
      exact Option.bind_eq_some_iff.2 ⟨_, hindex, hitem⟩

/-- Segments without dots walk the way that they write. -/
theorem walk?_eq_some_iff (hdots : ∀ s ∈ segments, '.' ∉ s.toList) :
    Path.walk? (segments.map String.toList) u = some v ↔ u.Leads segments v := by
  induction segments generalizing u with
  | nil =>
    rw [List.map_nil, Path.walk?, Option.some.injEq]
    constructor
    · rintro rfl
      exact .here
    · rintro ⟨⟩
      rfl
  | cons s segments ih =>
    obtain ⟨hs, hrest⟩ := List.forall_mem_cons.1 hdots
    have hwalk : Path.walk? ((s :: segments).map String.toList) u = some v ↔
        ∃ w, u.Step s w ∧ w.Leads segments v := by
      rw [List.map_cons, Path.walk?]
      simp only [bind, Option.bind_eq_some_iff, step?_eq_some_iff hs, ih hrest]
    rw [hwalk]
    constructor
    · rintro ⟨w, hstep, hleads⟩
      exact .down hstep hleads
    · rintro ⟨⟩
      next w hstep hleads => exact ⟨w, hstep, hleads⟩

end Value

/-! ## Records -/

namespace Record

variable {r : Record} {path name : String} {segments : List String} {v : Value}

theorem Locates.undotted_segments (h : r.Locates name segments v) :
    ∀ s ∈ name :: segments, '.' ∉ s.toList := by
  obtain ⟨u, -, hleads⟩ := h.reaches
  exact List.forall_mem_cons.2 ⟨h.undotted, hleads.undotted⟩

/-- A path that names no bin finds what is at the location that it is joined from. -/
theorem atPath?_ofSegments (hdots : ∀ s ∈ name :: segments, '.' ∉ s.toList)
    (hbin : r.bin? (Path.ofSegments name segments) = none) :
    r.atPath? (Path.ofSegments name segments) = some v ↔ r.Locates name segments v := by
  obtain ⟨hname, hsegments⟩ := List.forall_mem_cons.1 hdots
  rw [atPath?, hbin, Path.segments_ofSegments hdots]
  simp only [String.ofList_toList, bind, Option.bind_eq_some_iff, Value.walk?_eq_some_iff hsegments]
  exact ⟨fun h => ⟨hname, h⟩, Locates.reaches⟩

/-- A path finds the bin that it names, and if it names none, what is at the location that it writes. -/
theorem atPath?_eq_some_iff :
    r.atPath? path = some v ↔
      r.bin? path = some v ∨
        r.bin? path = none ∧
          ∃ name segments, path = Path.ofSegments name segments ∧ r.Locates name segments v := by
  cases hbin : r.bin? path with
  | some w => simp [atPath?, hbin]
  | none =>
    simp only [reduceCtorEq, false_or, true_and]
    constructor
    · intro h
      obtain ⟨name, segments, rfl, hdots⟩ := Path.exists_eq_ofSegments path
      exact ⟨name, segments, rfl, (atPath?_ofSegments hdots hbin).1 h⟩
    · rintro ⟨name, segments, rfl, hlocates⟩
      exact (atPath?_ofSegments hlocates.undotted_segments hbin).2 hlocates

/-- A location whose path is not the name of a bin, or that is a bin itself, is found at its path, as a
    value and, unless metadata go by this path, as a field. A bin is found under its name, whatever
    location has the name for its path. -/
theorem locations_addressable (r : Record) :
    (∀ (name : String) (segments : List String) (v : Value), r.Locates name segments v →
      segments = [] ∨ r.bin? (Path.ofSegments name segments) = none →
      r.atPath? (Path.ofSegments name segments) = some v ∧
      (isMetadataField (Path.ofSegments name segments) = false →
        r.resolve? (Path.ofSegments name segments) = some v)) ∧
    ∀ (path : String) (v : Value), r.bin? path = some v →
      r.atPath? path = some v ∧ (isMetadataField path = false → r.resolve? path = some v) := by
  have hfield {path : String} {v : Value} (h : r.atPath? path = some v) :
      isMetadataField path = false → r.resolve? path = some v := by
    intro hpath
    rw [resolve?_of_not_metadata hpath, h]
  refine ⟨fun name segments v hlocates hpath => ?_, fun path v hbin => ?_⟩
  · have hfound : r.atPath? (Path.ofSegments name segments) = some v := by
      rcases hpath with rfl | hnone
      · obtain ⟨u, hbin, hleads⟩ := hlocates.reaches
        cases hleads
        exact atPath?_eq_some_iff.2 (.inl hbin)
      · exact atPath?_eq_some_iff.2 (.inr ⟨hnone, name, segments, rfl, hlocates⟩)
    exact ⟨hfound, hfield hfound⟩
  · have hfound := atPath?_eq_some_iff.2 (.inl hbin)
    exact ⟨hfound, hfield hfound⟩

/-- Items of a list, the second one a map with a key that occurs twice. -/
def nestedItems : List Value :=
  [.int 1, .map [(.string "k", .bool true), (.string "k", .bool false)]]

/-- A record with a key of another kind before an empty one, and a bin whose name is also a path. -/
def nested : Record where
  key := "k"
  bins := .ofList [
    ("a", .map [(.int 7, .bool true), (.string "", .list nestedItems)]),
    ("a..0", .string "literally")]
  generation := 1
  expiration := none

theorem locations_addressable_nested :
    nested.Locates "a" ["", "01", "k"] (.bool true) ∧ nested.bin? "a..01.k" = none ∧
    nested.atPath? "a..01.k" = some (.bool true) ∧ nested.resolve? "a..01.k" = some (.bool true) ∧
    nested.Locates "a" ["", "0"] (.int 1) ∧ nested.bin? "a..0" = some (.string "literally") ∧
    nested.atPath? "a..0" = some (.string "literally") := by
  obtain ⟨hlocation, hname⟩ := locations_addressable nested
  have hempty := @Value.Step.entry [(.int 7, .bool true)] [] "" (.list nestedItems) (by decide) (by simp)
  have hdeep : nested.Locates "a" ["", "01", "k"] (.bool true) := by
    have hitem := @Value.Step.item nestedItems 1 _ rfl false 1
    have hkey := @Value.Step.entry [] [(.string "k", .bool false)] "k" (.bool true) (by decide)
      (by simp)
    exact ⟨by decide, _, rfl, .down hempty (.down hitem (.down hkey .here))⟩
  have hshallow : nested.Locates "a" ["", "0"] (.int 1) := by
    have hitem := @Value.Step.item nestedItems 0 _ rfl false 0
    exact ⟨by decide, _, rfl, .down hempty (.down hitem .here)⟩
  have hnone : nested.bin? "a..01.k" = none := rfl
  have hbin : nested.bin? "a..0" = some (.string "literally") := rfl
  obtain ⟨hfound, hfield⟩ := hlocation "a" ["", "01", "k"] _ hdeep (.inr hnone)
  exact ⟨hdeep, hnone, hfound, hfield (by decide), hshallow, hbin, (hname _ _ hbin).1⟩

end Record

end Quarry
