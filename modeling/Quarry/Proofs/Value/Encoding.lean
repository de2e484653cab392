-- SUMMARY: Reading the document of a value gives the value back.
import Quarry.Proofs.Json.Access
import Quarry.Value.Encoding

/-!
# Reading back values

A value is read back from its document when the doubles in it are read back from their texts and the
document is not nested deeper than the reader allows. Nothing else can stand in the way: texts are written
as they are, and maps as arrays of pairs, so that neither their keys nor their order are lost.

A list opens two arrays or objects around its items, and a map three around its keys and values. These are
the levels that the reader takes off.
-/

namespace Quarry

/-! ## Geometries -/

namespace Geometry

/-- The coordinates and the radius of a geometry. -/
def floats : Geometry → List Binary64
  | .point p => [p.lon, p.lat]
  | .polygon ring => ring.flatMap fun p => [p.lon, p.lat]
  | .circle c radius => [c.lon, c.lat, radius]

theorem textual_toJson (g : Geometry) : g.toJson.textual = true := by
  cases g with
  | point p =>
    refine Json.textual_tagged _ (Json.textual_ofMembers _ ?_)
    simp [Json.textual_ofFloat]
  | polygon ring =>
    refine Json.textual_tagged _ (Json.textual_array fun j hj => ?_)
    obtain ⟨p, -, rfl⟩ := List.mem_map.1 hj
    exact Json.textual_array (by simp [Json.textual_ofFloat])
  | circle c radius =>
    refine Json.textual_tagged _ (Json.textual_ofMembers _ ?_)
    simp [Json.textual_ofFloat]

theorem pair?_toJson {p : Position} (hlon : p.lon.Legible) (hlat : p.lat.Legible) (d : Nat) :
    pair? (d + 1) (.array [.ofFloat p.lon, .ofFloat p.lat]) = some p := by
  simp [pair?, Json.items?, Json.float?_ofFloat hlon, Json.float?_ofFloat hlat]

/-- Reading the document of a geometry gives the geometry. -/
theorem ofJson?_toJson {g : Geometry} {d : Nat} (hd : g.toJson.depth ≤ d)
    (hfloats : ∀ x ∈ g.floats, x.Legible) : ofJson? d g.toJson = some g := by
  cases g with
  | point p =>
    obtain ⟨d, rfl, hbody⟩ := Json.exists_of_depth_tagged_le hd
    obtain ⟨d, rfl, -⟩ := Json.exists_of_depth_ofMembers_le hbody
    have hlon : p.lon.Legible := hfloats _ (by simp [floats])
    have hlat : p.lat.Legible := hfloats _ (by simp [floats])
    have hfields := Json.fields?_ofMembers ["lon", "lat"]
      [("lon", .ofFloat p.lon), ("lat", .ofFloat p.lat)] (by decide) (by simp) (by simp) d
    simp [toJson, ofJson?, Json.tagged, ofTagged?, hfields, List.lookup_cons, Json.float?_ofFloat hlon,
      Json.float?_ofFloat hlat]
  | polygon ring =>
    obtain ⟨d, rfl, hbody⟩ := Json.exists_of_depth_tagged_le hd
    obtain ⟨d, rfl, hitems⟩ := Json.exists_of_depth_array_le hbody
    have hring : (ring.map fun p => .array [.ofFloat p.lon, .ofFloat p.lat]).mapM (pair? d) =
        some ring := by
      refine Json.mapM_map_eq_some fun p hp => ?_
      obtain ⟨e, rfl, -⟩ := Json.exists_of_depth_array_le (hitems _ (List.mem_map_of_mem hp))
      have hlon : p.lon ∈ (polygon ring).floats := List.mem_flatMap.2 ⟨p, hp, by simp⟩
      have hlat : p.lat ∈ (polygon ring).floats := List.mem_flatMap.2 ⟨p, hp, by simp⟩
      exact pair?_toJson (hfloats _ hlon) (hfloats _ hlat) e
    simp [toJson, ofJson?, Json.tagged, ofTagged?, Json.items?, hring]
  | circle c radius =>
    obtain ⟨d, rfl, hbody⟩ := Json.exists_of_depth_tagged_le hd
    obtain ⟨d, rfl, -⟩ := Json.exists_of_depth_ofMembers_le hbody
    have hlon : c.lon.Legible := hfloats _ (by simp [floats])
    have hlat : c.lat.Legible := hfloats _ (by simp [floats])
    have hradius : radius.Legible := hfloats _ (by simp [floats])
    have hfields := Json.fields?_ofMembers ["lon", "lat", "radius"]
      [("lon", .ofFloat c.lon), ("lat", .ofFloat c.lat), ("radius", .ofFloat radius)]
      (by decide) (by simp) (by simp) d
    simp [toJson, ofJson?, Json.tagged, ofTagged?, hfields, List.lookup_cons, Json.float?_ofFloat hlon,
      Json.float?_ofFloat hlat, Json.float?_ofFloat hradius]

end Geometry

/-! ## Values -/

namespace Value

mutual

/-- The doubles in a value. -/
def floats : Value → List Binary64
  | .float x => [x]
  | .list items => floatsOfItems items
  | .map entries => floatsOfEntries entries
  | .geo g => g.floats
  | _ => []

def floatsOfItems : List Value → List Binary64
  | [] => []
  | v :: rest => v.floats ++ floatsOfItems rest

def floatsOfEntries : List (Value × Value) → List Binary64
  | [] => []
  | (k, v) :: rest => k.floats ++ v.floats ++ floatsOfEntries rest

end

/-! ### Texts -/

mutual

theorem textual_toJson (v : Value) : v.toJson.textual = true := by
  cases v with
  | int n => rfl
  | float x => exact Json.textual_tagged _ (Json.textual_ofFloat x)
  | string s => rfl
  | bool b => rfl
  | list items => exact Json.textual_tagged _ (textualItems_itemsToJson items)
  | map entries => exact Json.textual_tagged _ (textualItems_entriesToJson entries)
  | geo g => exact Json.textual_tagged _ g.textual_toJson

theorem textualItems_itemsToJson (items : List Value) :
    Json.textualItems (itemsToJson items) = true := by
  match items with
  | [] => rfl
  | v :: rest =>
    simp [itemsToJson, Json.textualItems, textual_toJson v, textualItems_itemsToJson rest]

theorem textualItems_entriesToJson (entries : List (Value × Value)) :
    Json.textualItems (entriesToJson entries) = true := by
  match entries with
  | [] => rfl
  | (k, v) :: rest =>
    have hpair : (Json.array [k.toJson, v.toJson]).textual = true :=
      Json.textual_array (by simp [textual_toJson k, textual_toJson v])
    simp [entriesToJson, Json.textualItems, hpair, textualItems_entriesToJson rest]

end

/-! ### Reading -/

theorem toJson_ne_null (v : Value) : v.toJson ≠ .null := by
  cases v <;> simp [toJson, Json.tagged]

theorem ofJson?_tagged {tag : String} (hlist : tag ≠ "list") (hmap : tag ≠ "map") (d : Nat) (body : Json) :
    ofJson? (d + 1) (.tagged tag body) = ofTagged? d tag body := by
  unfold ofJson? Json.tagged
  simp only [if_neg hlist, if_neg hmap]

mutual

/-- Reading the document of a value gives the value. -/
theorem ofJson?_toJson (v : Value) {d : Nat} (hd : v.toJson.depth ≤ d)
    (hfloats : ∀ x ∈ v.floats, x.Legible) : ofJson? d v.toJson = some v := by
  cases v with
  | int n =>
    obtain ⟨d, rfl, -⟩ := Json.exists_of_depth_tagged_le hd
    simp [toJson, ofJson?_tagged, ofTagged?, Json.int64?_ofInt]
  | float x =>
    obtain ⟨d, rfl, -⟩ := Json.exists_of_depth_tagged_le hd
    have hx : x.Legible := hfloats x (by simp [floats])
    simp [toJson, ofJson?_tagged, ofTagged?, Json.float?_ofFloat hx]
  | string s =>
    obtain ⟨d, rfl, -⟩ := Json.exists_of_depth_tagged_le hd
    simp [toJson, ofJson?_tagged, ofTagged?]
  | bool b =>
    obtain ⟨d, rfl, -⟩ := Json.exists_of_depth_tagged_le hd
    simp [toJson, ofJson?_tagged, ofTagged?]
  | list items =>
    obtain ⟨d, rfl, hbody⟩ := Json.exists_of_depth_tagged_le hd
    obtain ⟨d, rfl, hdepths⟩ := Json.exists_of_depth_array_le hbody
    have hitems := mapM_itemsToJson items hdepths hfloats
    simp [toJson, Json.tagged, ofJson?, hitems]
  | map entries =>
    obtain ⟨d, rfl, hbody⟩ := Json.exists_of_depth_tagged_le hd
    obtain ⟨d, rfl, hdepths⟩ := Json.exists_of_depth_array_le hbody
    cases entries with
    | nil => simp [toJson, entriesToJson, Json.tagged, ofJson?]
    | cons e entries =>
      obtain ⟨d, rfl, -⟩ := Json.exists_of_depth_array_le (hdepths _ (List.mem_cons_self ..))
      have hentries := mapM_entriesToJson (e :: entries) hdepths hfloats
      simp only [toJson, Json.tagged, entriesToJson] at hentries ⊢
      simp [ofJson?, hentries]
  | geo g =>
    obtain ⟨d, rfl, hbody⟩ := Json.exists_of_depth_tagged_le hd
    have hg : Geometry.ofJson? d g.toJson = some g := Geometry.ofJson?_toJson hbody hfloats
    simp [toJson, ofJson?_tagged, ofTagged?, hg]

theorem mapM_itemsToJson (items : List Value) {d : Nat}
    (hdepths : ∀ j ∈ itemsToJson items, j.depth ≤ d)
    (hfloats : ∀ x ∈ floatsOfItems items, x.Legible) :
    (itemsToJson items).mapM (ofJson? d) = some items := by
  match items with
  | [] => rfl
  | v :: rest =>
    obtain ⟨hv, hrest⟩ := List.forall_mem_cons.1 hdepths
    obtain ⟨hvfloats, hrestfloats⟩ := List.forall_mem_append.1 hfloats
    simp [itemsToJson, ofJson?_toJson v hv hvfloats, mapM_itemsToJson rest hrest hrestfloats]

theorem mapM_entriesToJson (entries : List (Value × Value)) {d : Nat}
    (hdepths : ∀ j ∈ entriesToJson entries, j.depth ≤ d + 1)
    (hfloats : ∀ x ∈ floatsOfEntries entries, x.Legible) :
    (entriesToJson entries).mapM (ofJson?.pair? d) = some entries := by
  match entries with
  | [] => rfl
  | (k, v) :: rest =>
    obtain ⟨hpair, hrest⟩ := List.forall_mem_cons.1 hdepths
    obtain ⟨hpairfloats, hrestfloats⟩ := List.forall_mem_append.1 hfloats
    obtain ⟨hkfloats, hvfloats⟩ := List.forall_mem_append.1 hpairfloats
    obtain ⟨e, he, hboth⟩ := Json.exists_of_depth_array_le hpair
    obtain rfl : e = d := by omega
    have hk := ofJson?_toJson k (hboth _ (by simp)) hkfloats
    have hv := ofJson?_toJson v (hboth _ (by simp)) hvfloats
    simp [entriesToJson, ofJson?.pair?, hk, hv, mapM_entriesToJson rest hrest hrestfloats]

end

end Value

end Quarry
