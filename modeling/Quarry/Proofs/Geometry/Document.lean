-- SUMMARY: A geometry is read back from its text just if a text can describe it.
import Quarry.Geometry.Document
import Quarry.Proofs.Number.Nearest
import Quarry.Proofs.Outcome
import Quarry.Proofs.Value.Encoding

/-!
# Geometries and their texts

Every geometry has a text, but not every geometry is read from one. A coordinate that is not finite is
written as null and then missed as a number, a ring may be too short and a radius below zero. Apart from
this the text of a geometry is read as the geometry: its document is one that the reader takes in as a
whole, and the members that the reader looks for are the two that are written.

What is read from a text, on the other hand, comes from numbers that do not exceed the doubles and has
passed both checks. So reading, writing and reading again stops at the first geometry.
-/

namespace Quarry

/-! ## Signs -/

namespace Binary64

theorem isNaN_of_isFinite {x : Binary64} (h : x.isFinite = true) : x.isNaN = false := by
  unfold isFinite at h
  unfold isNaN
  rw [decide_eq_true_eq] at h
  exact decide_eq_false (Nat.lt_asymm h)

theorem units_eq_zero_iff {x : Binary64} : x.units = 0 ↔ x.magnitude = 0 := by
  refine ⟨magnitude_eq_zero_of_units, fun h => ?_⟩
  rw [units_of_lt (by omega), h]

/-- A finite number that is not below zero has no negative value. Both zeros are such numbers. -/
theorem belowZero_eq_false_iff {x : Binary64} (h : x.isFinite = true) :
    x.belowZero = false ↔ 0 ≤ x.signedUnits := by
  have hzero := @units_eq_zero_iff x
  unfold belowZero signedMagnitude signedUnits
  rw [isNaN_of_isFinite h, Bool.not_false, Bool.true_and, decide_eq_false_iff_not]
  cases x.negative with
  | false => simp
  | true =>
    simp only [if_true]
    omega

end Binary64

/-! ## Documents that are taken in as a whole -/

namespace Json

theorem plainItems_iff {d : Nat} {items : List Json} :
    plainItems d items = true ↔ ∀ j ∈ items, j.plain d = true := by
  induction items with
  | nil => simp [plainItems]
  | cons j items ih => rw [plainItems, Bool.and_eq_true, ih, List.forall_mem_cons]

theorem plain_array {d : Nat} {items : List Json} (h : ∀ j ∈ items, j.plain d = true) :
    (array items).plain (d + 1) = true := by
  simpa [plain] using plainItems_iff.2 h

theorem plain_ofMembers {d : Nat} (members : List (String × Json))
    (h : ∀ m ∈ members, m.2.plain d = true) : (ofMembers members).plain (d + 1) = true := by
  have hmembers : plainMembers d (members.map fun m => (some m.1, m.2)) = true := by
    induction members with
    | nil => rfl
    | cons m members ih =>
      obtain ⟨hm, hrest⟩ := List.forall_mem_cons.1 h
      simp [plainMembers, hm, ih hrest]
  simpa [ofMembers, plain] using hmembers

@[simp] theorem plain_ofString (s : String) (d : Nat) : (ofString s).plain d = true := by
  simp [ofString, plain]

/-- A double is written as a number that the reader takes in, or as null. -/
theorem plain_ofFloat {x : Binary64} (h : x.isFinite = true → x.Legible) (d : Nat) :
    (ofFloat x).plain d = true := by
  unfold ofFloat
  split
  · next hx => rw [plain, (h hx).readsBack, hx]
  · rfl

mutual

/-- In a document that is taken in as a whole every literal is a text. -/
theorem textual_of_plain (j : Json) {d : Nat} (h : j.plain d = true) : j.textual = true := by
  cases j with
  | null => rfl
  | bool b => rfl
  | number n => rfl
  | string s => simpa [plain, textual] using h
  | array items =>
    rw [plain, Bool.and_eq_true] at h
    exact textualItems_of_plainItems items h.2
  | object members =>
    rw [plain, Bool.and_eq_true] at h
    exact textualMembers_of_plainMembers members h.2
  | broken => contradiction

theorem textualItems_of_plainItems (items : List Json) {d : Nat} (h : plainItems d items = true) :
    textualItems items = true := by
  match items with
  | [] => rfl
  | j :: rest =>
    obtain ⟨hj, hrest⟩ := Bool.and_eq_true_iff.1 h
    rw [textualItems, textual_of_plain j hj, textualItems_of_plainItems rest hrest, Bool.and_self]

theorem textualMembers_of_plainMembers (members : List (Option String × Json)) {d : Nat}
    (h : plainMembers d members = true) : textualMembers members = true := by
  match members with
  | [] => rfl
  | (key, j) :: rest =>
    obtain ⟨hmember, hrest⟩ := Bool.and_eq_true_iff.1 h
    obtain ⟨hkey, hj⟩ := Bool.and_eq_true_iff.1 hmember
    simp [textualMembers, hkey, textual_of_plain j hj, textualMembers_of_plainMembers rest hrest]

end

theorem float?_ofFloat_of_isFinite {x : Binary64} (h : x.isFinite = true → x.Legible) :
    (ofFloat x).float? = if x.isFinite then some x else none := by
  split
  · next hx => exact float?_ofFloat (h hx)
  · next hx => simp [ofFloat, hx, float?]

theorem isFinite_of_float? {j : Json} {x : Binary64} (h : j.float? = some x) : x.isFinite = true := by
  unfold float? at h
  split at h
  · next n =>
    split at h
    · next hn =>
      obtain rfl := Option.some.inj h
      exact hn
    · contradiction
  · contradiction

end Json

/-! ## Positions -/

namespace Position

variable {p : Position}

theorem plain_toGeoJson (h : ∀ x ∈ [p.lon, p.lat], x.isFinite = true → x.Legible) (d : Nat) :
    p.toGeoJson.plain (d + 1) = true := by
  have hlon := h p.lon (by simp)
  have hlat := h p.lat (by simp)
  refine Json.plain_array ?_
  simp [Json.plain_ofFloat hlon, Json.plain_ofFloat hlat]

/-- A position is read from its document unless one of its numbers became null. -/
theorem ofGeoJson_toGeoJson (h : ∀ x ∈ [p.lon, p.lat], x.isFinite = true → x.Legible) :
    ofGeoJson p.toGeoJson = if p.isFinite then .ok p else .error .notNumeric := by
  have hlon := h p.lon (by simp)
  have hlat := h p.lat (by simp)
  simp only [toGeoJson, ofGeoJson, Json.float?_ofFloat_of_isFinite hlon,
    Json.float?_ofFloat_of_isFinite hlat]
  by_cases hx : p.lon.isFinite = true <;> by_cases hy : p.lat.isFinite = true <;>
    simp [isFinite, hx, hy]

/-- The positions of a ring are read if all of them are. -/
theorem mapM_ofGeoJson_toGeoJson {ring : List Position}
    (h : ∀ p ∈ ring, ∀ x ∈ [p.lon, p.lat], x.isFinite = true → x.Legible) :
    (ring.map toGeoJson).mapM ofGeoJson =
      if ring.all isFinite then .ok ring else .error .notNumeric := by
  induction ring with
  | nil => rfl
  | cons p ring ih =>
    obtain ⟨hp, hring⟩ := List.forall_mem_cons.1 h
    rw [List.map_cons, List.mapM_cons, ofGeoJson_toGeoJson hp, ih hring, List.all_cons]
    cases p.isFinite <;> cases ring.all isFinite <;> rfl

/-- The numbers of a position that is read are numbers of the document. -/
theorem isFinite_of_ofGeoJson {j : Json} (h : ofGeoJson j = .ok p) : p.isFinite = true := by
  unfold ofGeoJson at h
  split at h
  · split at h
    · next hlon hlat =>
      obtain rfl := Except.ok.inj h
      exact Bool.and_eq_true_iff.2 ⟨Json.isFinite_of_float? hlon, Json.isFinite_of_float? hlat⟩
    · contradiction
  · contradiction

end Position

/-! ## What texts can describe -/

namespace Geometry

variable {g : Geometry}

/-- What all geometries have in common that are read from texts. -/
structure Describable (g : Geometry) : Prop where
  finite : ∀ x ∈ g.floats, x.isFinite = true
  ring : ∀ ring, g = .polygon ring → 3 ≤ ring.length
  radius : ∀ centre radius, g = .circle centre radius → 0 ≤ radius.signedUnits

/-- What is found to be wrong with a geometry when its text is read. -/
def fault? : Geometry → Option GeoFault
  | .point p => if p.isFinite then none else some .notNumeric
  | .polygon ring =>
    if ring.all Position.isFinite then if ring.length < 3 then some .shortRing else none
    else some .notNumeric
  | .circle centre radius =>
    if centre.isFinite then
      if radius.isFinite then if radius.belowZero then some .negativeRadius else none
      else some .missingRadius
    else some .notNumeric

theorem describable_point {p : Position} : (point p).Describable ↔ p.isFinite = true := by
  have hfinite : (∀ x ∈ (point p).floats, x.isFinite = true) ↔ p.isFinite = true := by
    simp [floats, Position.isFinite]
  rw [← hfinite]
  exact ⟨Describable.finite, fun h => ⟨h, fun _ heq => by contradiction, fun _ _ heq => by contradiction⟩⟩

theorem describable_polygon {ring : List Position} :
    (polygon ring).Describable ↔ ring.all Position.isFinite = true ∧ 3 ≤ ring.length := by
  have hfinite : (∀ x ∈ (polygon ring).floats, x.isFinite = true) ↔
      ring.all Position.isFinite = true := by
    rw [floats, List.forall_mem_flatMap]
    simp [Position.isFinite]
  rw [← hfinite]
  refine ⟨fun h => ⟨h.finite, h.ring ring rfl⟩, fun h => ⟨h.1, ?_, fun _ _ heq => by contradiction⟩⟩
  rintro _ ⟨⟩
  exact h.2

theorem describable_circle {centre : Position} {radius : Binary64} :
    (circle centre radius).Describable ↔
      centre.isFinite = true ∧ radius.isFinite = true ∧ radius.belowZero = false := by
  have hfinite : (∀ x ∈ (circle centre radius).floats, x.isFinite = true) ↔
      centre.isFinite = true ∧ radius.isFinite = true := by
    simp [floats, Position.isFinite, and_assoc]
  constructor
  · intro h
    obtain ⟨hcentre, hradius⟩ := hfinite.1 h.finite
    exact ⟨hcentre, hradius, (Binary64.belowZero_eq_false_iff hradius).2 (h.radius centre radius rfl)⟩
  · rintro ⟨hcentre, hradius, hbelow⟩
    refine ⟨hfinite.2 ⟨hcentre, hradius⟩, fun _ heq => by contradiction, ?_⟩
    rintro _ _ ⟨⟩
    exact (Binary64.belowZero_eq_false_iff hradius).1 hbelow

/-- Nothing is wrong with a geometry that texts can describe. -/
theorem fault?_eq_none_iff : g.fault? = none ↔ g.Describable := by
  cases g with
  | point p =>
    rw [describable_point, fault?]
    cases p.isFinite <;> simp
  | polygon ring =>
    rw [describable_polygon, fault?]
    cases ring.all Position.isFinite <;> simp
  | circle centre radius =>
    rw [describable_circle, fault?]
    cases centre.isFinite <;> cases radius.isFinite <;> cases radius.belowZero <;> simp

/-! ## Reading what was written -/

/-- Of the document of a geometry the reader finds the type and the coordinates. -/
theorem ofGeoJson_ofMembers (type : String) (coordinates : Json) :
    ofGeoJson (.ofMembers [("coordinates", coordinates), ("type", .ofString type)]) =
      ofCoordinates type coordinates := by
  simp [ofGeoJson, Json.member?, Json.ofMembers, Json.ofString]

theorem ofGeoJson_toGeoJson (h : ∀ x ∈ g.floats, x.isFinite = true → x.Legible) :
    ofGeoJson g.toGeoJson = g.fault?.elim (.ok g) .error := by
  cases g with
  | point p =>
    have hp : Position.ofGeoJson p.toGeoJson = _ := Position.ofGeoJson_toGeoJson h
    rw [toGeoJson, ofGeoJson_ofMembers]
    simp only [ofCoordinates, hp, fault?]
    cases p.isFinite <;> rfl
  | polygon ring =>
    have hring := Position.mapM_ofGeoJson_toGeoJson (List.forall_mem_flatMap.1 h)
    rw [toGeoJson, ofGeoJson_ofMembers]
    simp only [ofCoordinates, Json.item?, List.getElem?_cons_zero, hring, fault?]
    cases ring.all Position.isFinite with
    | false => rfl
    | true =>
      change (if ring.length < 3 then Except.error GeoFault.shortRing else .ok (polygon ring)) =
        (if ring.length < 3 then some GeoFault.shortRing else none).elim (.ok (polygon ring)) .error
      split <;> rfl
  | circle centre radius =>
    have hcentre := Position.ofGeoJson_toGeoJson (p := centre) fun x hx =>
      h x (List.mem_append_left [radius] hx)
    have hradius := Json.float?_ofFloat_of_isFinite (h radius (by simp [floats]))
    rw [toGeoJson, ofGeoJson_ofMembers]
    simp only [ofCoordinates, Json.item?, List.getElem?_cons_zero, List.getElem?_cons_succ,
      Option.bind_some, hcentre, hradius, fault?]
    cases centre.isFinite with
    | false => rfl
    | true =>
      cases radius.isFinite with
      | false => rfl
      | true =>
        change (if radius.belowZero then Except.error GeoFault.negativeRadius
            else .ok (circle centre radius)) =
          (if radius.belowZero then some GeoFault.negativeRadius else none).elim
            (.ok (circle centre radius)) .error
        split <;> rfl

/-- The document of a geometry opens four arrays and objects at once at most. -/
theorem plain_toGeoJson (h : ∀ x ∈ g.floats, x.isFinite = true → x.Legible) (d : Nat) :
    g.toGeoJson.plain (d + 4) = true := by
  cases g with
  | point p =>
    have hp : p.toGeoJson.plain (d + 3) = true := Position.plain_toGeoJson h (d + 2)
    exact Json.plain_ofMembers _ (by simpa using hp)
  | polygon ring =>
    have hring : (Json.array (ring.map Position.toGeoJson)).plain (d + 2) = true := by
      refine Json.plain_array fun j hj => ?_
      obtain ⟨p, hp, rfl⟩ := List.mem_map.1 hj
      exact Position.plain_toGeoJson (List.forall_mem_flatMap.1 h p hp) d
    have hcoordinates : (Json.array [.array (ring.map Position.toGeoJson)]).plain (d + 3) = true :=
      Json.plain_array (by simpa using hring)
    exact Json.plain_ofMembers _ (by simpa using hcoordinates)
  | circle centre radius =>
    have hcentre := Position.plain_toGeoJson (p := centre)
      (fun x hx => h x (List.mem_append_left [radius] hx)) (d + 1)
    have hradius := Json.plain_ofFloat (h radius (by simp [floats])) (d + 2)
    have hcoordinates : (Json.array [centre.toGeoJson, .ofFloat radius]).plain (d + 3) = true :=
      Json.plain_array (by simp [hcentre, hradius])
    exact Json.plain_ofMembers _ (by simpa using hcoordinates)

/-- The text of a geometry is read as the geometry, or refused for what is wrong with the geometry. -/
theorem parse_display (h : ∀ x ∈ g.floats, x.isFinite = true → x.Legible) :
    parse g.display = g.fault?.elim (.ok g) .error := by
  have hplain : g.toGeoJson.plain Json.nestingLimit = true := plain_toGeoJson h 123
  unfold parse display
  rw [Json.read_render (Json.textual_of_plain _ hplain)]
  simp only [hplain, Bool.and_self, if_true]
  exact ofGeoJson_toGeoJson h

/-! ## Texts that are read -/

/-- Coordinates that are accepted are finite, and those of a shape have passed its check. -/
theorem describable_of_ofCoordinates {type : String} {coordinates : Json}
    (h : ofCoordinates type coordinates = .ok g) : g.Describable := by
  unfold ofCoordinates at h
  split at h
  · obtain ⟨p, hp, hg⟩ := bind_eq_ok_iff.1 h
    obtain rfl := Except.ok.inj hg
    exact describable_point.2 (Position.isFinite_of_ofGeoJson hp)
  · split at h
    · obtain ⟨ring, hring, hg⟩ := bind_eq_ok_iff.1 h
      split at hg
      · contradiction
      · next hlength =>
        obtain rfl := Except.ok.inj hg
        refine describable_polygon.2 ⟨List.all_eq_true.2 fun p hp => ?_, Nat.not_lt.1 hlength⟩
        obtain ⟨j, -, hj⟩ := exists_of_mem_mapM hring hp
        exact Position.isFinite_of_ofGeoJson hj
    · contradiction
  · split at h
    · obtain ⟨centre, hcentre, hg⟩ := bind_eq_ok_iff.1 h
      split at hg
      · next radius hradius =>
        split at hg
        · contradiction
        · next hbelow =>
          obtain rfl := Except.ok.inj hg
          obtain ⟨j, -, hj⟩ := Option.bind_eq_some_iff.1 hradius
          exact describable_circle.2 ⟨Position.isFinite_of_ofGeoJson hcentre,
            Json.isFinite_of_float? hj, eq_false_of_ne_true hbelow⟩
      · contradiction
    · contradiction
  · contradiction

theorem describable_of_parse {text : String} (h : parse text = .ok g) : g.Describable := by
  unfold parse ofGeoJson at h
  dsimp only at h
  split at h
  · split at h
    · split at h
      · exact describable_of_ofCoordinates h
      · contradiction
    · contradiction
  · contradiction

/-- Where finite numbers read back from their texts, a geometry is read from its own text just if texts can
    describe it, and from this text nothing else is read. And every text that is read describes such a
    geometry, whose own text is then read as the same geometry. -/
theorem parse_display_exact :
    (∀ g : Geometry, (∀ x ∈ g.floats, x.isFinite = true → x.Legible) →
      (parse g.display = .ok g ↔ g.Describable) ∧
      (¬ g.Describable → ∃ fault, parse g.display = .error fault)) ∧
    ∀ (text : String) (g : Geometry), parse text = .ok g →
      g.Describable ∧ ((∀ x ∈ g.floats, x.isFinite = true → x.Legible) → parse g.display = .ok g) := by
  have hread {g : Geometry} (hfloats : ∀ x ∈ g.floats, x.isFinite = true → x.Legible)
      (hg : g.Describable) : parse g.display = .ok g := by
    rw [parse_display hfloats, fault?_eq_none_iff.2 hg]
    rfl
  refine ⟨fun g hfloats => ⟨⟨describable_of_parse, hread hfloats⟩, fun hg => ?_⟩, fun text g htext => ?_⟩
  · obtain ⟨fault, hfault⟩ := Option.ne_none_iff_exists'.1 (mt fault?_eq_none_iff.1 hg)
    exact ⟨fault, by rw [parse_display hfloats, hfault]; rfl⟩
  · have hg := describable_of_parse htext
    exact ⟨hg, fun hfloats => hread hfloats hg⟩

/-- Two positions, one of them at infinity. -/
def segment : Geometry :=
  .polygon [⟨⟨0⟩, ⟨0x8000000000000000⟩⟩, ⟨⟨0x7FF0000000000000⟩, ⟨0x3FB999999999999A⟩⟩]

/-- A circle with the radius -0. -/
def dot : Geometry :=
  .circle ⟨⟨0x3FB999999999999A⟩, ⟨0x4046800000000000⟩⟩ ⟨0x8000000000000000⟩

/-- The text of a circle with other members and more coordinates than it needs, members in another order,
    integers and white space. -/
def looseText : String :=
  "\n\x7b \"crs\": null, \"coordinates\": [[-0.5, 3, 9], 1e2, []],\t\"type\": \"AeroCircle\" \x7d "

def loose : Geometry :=
  .circle ⟨⟨0xBFE0000000000000⟩, ⟨0x4008000000000000⟩⟩ ⟨0x4059000000000000⟩

theorem parse_display_exact_loose :
    (∃ fault, parse segment.display = .error fault) ∧ parse dot.display = .ok dot ∧
    parse looseText = .ok loose ∧ loose.Describable ∧ parse loose.display = .ok loose := by
  obtain ⟨hwritten, hread⟩ := parse_display_exact
  have hsegment : ¬ segment.Describable := by
    intro h
    exact absurd (describable_polygon.1 h).2 (by decide)
  have hdot : dot.Describable := fault?_eq_none_iff.1 (by decide +kernel)
  have hloose : parse looseText = .ok loose := toOption_eq_some_iff.1 (by decide +kernel)
  obtain ⟨hdescribable, hagain⟩ := hread looseText loose hloose
  exact ⟨(hwritten segment (by decide +kernel)).2 hsegment,
    (hwritten dot (by decide +kernel)).1.2 hdot, hloose, hdescribable, hagain (by decide +kernel)⟩

end Geometry

end Quarry
