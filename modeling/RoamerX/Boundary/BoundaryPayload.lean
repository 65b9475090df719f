import RoamerX.Boundary.PolygonChecks
import RoamerX.Center.RouteSnapshot
import RoamerX.Lib.Excepts

set_option autoImplicit false

/-! # What an operator saves as a boundary

`normalize_boundary_payload` of `navigation_boundary_service.py`: the body of a request becomes the outer
polygon and the zones that are stored, or the request is refused with the reason. -/

namespace RoamerX

def JsonNumber.finite? : JsonNumber → Option ℚ
  | .int n => some n
  | .float q => some q
  | .nonfinite => none

namespace NavigationBoundaryService

open RouteSnapshots (given)

/-- How the checks end a request that they refuse. -/
inductive PayloadError
  /-- `ValidationError(detail)`. -/
  | validation (detail : String)
  /-- The value of `zones` cannot be iterated over. -/
  | typeError
  deriving DecidableEq

/-- An entry of `zones` as it is stored. -/
structure ZonePayload where
  id : Json
  name : String
  zoneType : ZoneType
  polygon : List (ℚ × ℚ)
  description : String
  active : Bool
  speedLimitMps : Option ℚ
  warningDistanceM : ℚ

/-- What `normalize_boundary_payload` returns. -/
structure BoundaryPayload where
  outerPolygon : List (ℚ × ℚ)
  safetyMarginM : ℚ
  zones : List ZonePayload

/-- `round(value, digits)`. -/
def roundTo (digits : ℕ) (q : ℚ) : ℚ := roundHalfEven (q * 10 ^ digits) / 10 ^ digits

/-- `polygon.pop()`, where the last point is the first again. -/
def withoutClosing (polygon : List (ℚ × ℚ)) : List (ℚ × ℚ) :=
  if polygon.head? = polygon.getLast? then polygon.dropLast else polygon

variable (texts : Texts)

/-! ## The checks -/

/-- `_point`. An integer too large for a float is refused too, though by no text of its own. -/
def point (value : Json) (label : String) : Except PayloadError (ℚ × ℚ) :=
  match value with
  | .arr [x, y] =>
    match texts.float? x, texts.float? y with
    | some x, some y =>
      match x.finite?, y.finite? with
      | some x, some y => .ok (roundTo 6 x, roundTo 6 y)
      | _, _ => .error (.validation (label ++ "坐标必须是有限数值"))
    | _, _ => .error (.validation (label ++ "坐标必须是数值"))
  | _ => .error (.validation (label ++ "必须是 [x, y]"))

/-- The checks of `normalize_polygon` on the points. -/
def checkPolygon (polygon : List (ℚ × ℚ)) (label : String) : Except PayloadError (List (ℚ × ℚ)) :=
  if polygon.length < 3 then .error (.validation (label ++ "至少需要三个不同顶点"))
  else if |polygonArea polygon| < 1 / 10 ^ 6 then .error (.validation (label ++ "面积不能为零"))
  else if polygonSelfIntersects polygon then .error (.validation (label ++ "不能自相交"))
  else .ok polygon

/-- `normalize_polygon`, of a polygon that is required. -/
def normalizePolygon (value : Option Json) (label : String) : Except PayloadError (List (ℚ × ℚ)) :=
  match value with
  | some (.arr items) =>
    if items.length < 3 then .error (.validation (label ++ "至少需要三个顶点"))
    else do
      let polygon ← items.zipIdx.mapM fun (item, index) =>
        point texts item (label ++ "第 " ++ toString (index + 1) ++ " 个点")
      checkPolygon (withoutClosing polygon) label
  | _ => .error (.validation (label ++ "至少需要三个顶点"))

/-- `float(value)` within a range, or the texts under which it is refused. -/
def numberWithin (value : Json) (within : ℚ → Bool) (noNumber outOfRange : String) : Except PayloadError ℚ :=
  match texts.float? value with
  | none => .error (.validation noNumber)
  | some number =>
    match number.finite? with
    | none => .error (.validation outOfRange)
    | some q => if within q then .ok q else .error (.validation outOfRange)

/-- `safety_margin_m`. -/
def safetyMargin (payload : List (String × Json)) : Except PayloadError ℚ :=
  numberWithin texts ((Json.get? payload "safety_margin_m").getD (.num (.float (1 / 5))))
    (fun q => decide (0 ≤ q ∧ q ≤ 5)) "安全距离必须是数值" "安全距离必须在 0 到 5 米之间"

/-- `zone_type in ZONE_TYPES`. -/
def zoneTypeOf? : String → Option ZoneType
  | "forbidden" => some .forbidden
  | "warning" => some .warning
  | "restricted" => some .restricted
  | _ => none

/-- `speed_limit_mps`, of a restricted zone only. -/
def speedLimit (zoneType : ZoneType) (raw : List (String × Json)) (label : String) :
    Except PayloadError (Option ℚ) :=
  if zoneType = .restricted then
    let value := Json.get? raw "speed_limit_mps"
    some <$> numberWithin texts (if given value then value.getD .null else .num (.float (3 / 20)))
      (fun q => decide (0 < q ∧ q ≤ 3)) (label ++ "限速值必须是数值")
      (label ++ "限速值必须大于 0 且不超过 3.00 m/s")
  else .ok none

/-- `warning_distance_m`. -/
def warningDistance (raw : List (String × Json)) (label : String) : Except PayloadError ℚ :=
  numberWithin texts ((Json.get? raw "warning_distance_m").getD (.num (.float (1 / 2))))
    (fun q => decide (0 ≤ q ∧ q ≤ 10)) (label ++ "提前警告距离必须是数值")
    (label ++ "提前警告距离必须在 0 到 10 米之间")

/-- A round of the loop over `zones`. -/
def normalizeZone (outer : List (ℚ × ℚ)) (raw : Json) (index : ℕ) : Except PayloadError ZonePayload :=
  let label := "第 " ++ toString (index + 1) ++ " 个"
  match raw with
  | .obj raw =>
    match zoneTypeOf? (texts.str (Json.getOr raw "zone_type" (.str "forbidden"))) with
    | none => .error (.validation (label ++ "内部区域类型无效"))
    | some zoneType => do
      let polygon ← normalizePolygon texts (Json.get? raw "polygon") (label ++ "内部区域")
      if polygon.any (fun vertex => !pointInPolygon vertex outer) then
        .error (.validation (label ++ "内部区域必须完全位于可行驶外边界内"))
      else do
        let speed ← speedLimit texts zoneType raw label
        let distance ← warningDistance texts raw label
        return {
          id := (Json.get? raw "id").getD .null
          name := String.ofList ((texts.str
            (Json.getOr raw "name" (.str ("区域" ++ toString (index + 1))))).toList.take 128)
          zoneType := zoneType
          polygon := polygon
          description := texts.str (Json.getOr raw "description" (.str ""))
          active := ((Json.get? raw "active").getD (.bool true)).truthy
          speedLimitMps := speed
          warningDistanceM := distance }
  | _ => .error (.validation (label ++ "内部区域格式无效"))

/-- What `payload.get("zones") or []` is iterated over: the characters of a text, the keys of an object. -/
def rawZones (payload : List (String × Json)) : Except PayloadError (List Json) :=
  match Json.getOr payload "zones" (.arr []) with
  | .arr items => .ok items
  | .str s => .ok (s.toList.map fun c => .str (String.singleton c))
  | .obj members => .ok (members.map fun member => .str member.1)
  | _ => .error .typeError

def normalizeBoundaryPayload (payload : List (String × Json)) : Except PayloadError BoundaryPayload := do
  let outer ← normalizePolygon texts (Json.get? payload "outer_polygon") "可行驶外边界"
  let margin ← safetyMargin texts payload
  let raws ← rawZones payload
  let zones ← raws.zipIdx.mapM fun (raw, index) => normalizeZone texts outer raw index
  return { outerPolygon := outer, safetyMarginM := roundTo 3 margin, zones := zones }

/-! ## The polygons of a request -/

def givenPoint : Json → ℚ × ℚ
  | .arr [x, y] =>
    (roundTo 6 (((texts.float? x).bind JsonNumber.finite?).getD 0),
      roundTo 6 (((texts.float? y).bind JsonNumber.finite?).getD 0))
  | _ => 0

/-- The vertices that are given, without the point that closes the polygon. -/
def givenPolygon : Option Json → List (ℚ × ℚ)
  | some (.arr items) => withoutClosing (items.map (givenPoint texts))
  | _ => []

/-- The vertices given for the outer polygon. -/
def givenOuter (payload : List (String × Json)) : List (ℚ × ℚ) :=
  givenPolygon texts (Json.get? payload "outer_polygon")

def givenZone : Json → List (ℚ × ℚ)
  | .obj raw => givenPolygon texts (Json.get? raw "polygon")
  | _ => []

/-- The vertices given for each of the zones. -/
def givenZones (payload : List (String × Json)) : List (List (ℚ × ℚ)) :=
  ((rawZones payload).toOption.getD []).map (givenZone texts)

/-! ## What is accepted -/

variable {texts} {payload : List (String × Json)} {polygon outer : List (ℚ × ℚ)}

theorem point_eq_givenPoint {item : Json} {label : String} {p : ℚ × ℚ} (h : point texts item label = .ok p) :
    p = givenPoint texts item := by
  unfold point at h
  split at h
  · next x y =>
    split at h
    · next u v hu hv =>
      split at h
      · next a b ha hb =>
        cases h
        rw [givenPoint, hu, hv, Option.bind_some, Option.bind_some, ha, hb]
        rfl
      · exact nomatch h
    · exact nomatch h
  · exact nomatch h

structure Checked (polygon : List (ℚ × ℚ)) : Prop where
  size : 3 ≤ polygon.length
  area : polygonArea polygon ≠ 0
  apart : polygonSelfIntersects polygon = false

theorem checkPolygon_eq_ok {label : String} {checked : List (ℚ × ℚ)} (h : checkPolygon polygon label = .ok checked) :
    checked = polygon ∧ Checked polygon := by
  unfold checkPolygon at h
  by_cases hsize : polygon.length < 3
  · rw [if_pos hsize] at h
    exact nomatch h
  · rw [if_neg hsize] at h
    by_cases harea : |polygonArea polygon| < 1 / 10 ^ 6
    · rw [if_pos harea] at h
      exact nomatch h
    · rw [if_neg harea] at h
      cases hself : polygonSelfIntersects polygon with
      | true =>
        rw [hself] at h
        exact nomatch h
      | false =>
        rw [hself] at h
        cases h
        refine ⟨rfl, not_lt.mp hsize, fun hzero => harea ?_, hself⟩
        rw [hzero, abs_zero]
        positivity

theorem normalizePolygon_eq_ok {value : Option Json} {label : String}
    (h : normalizePolygon texts value label = .ok polygon) :
    polygon = givenPolygon texts value ∧ Checked polygon := by
  unfold normalizePolygon at h
  split at h
  · next items =>
    split at h
    · exact nomatch h
    · obtain ⟨points, hpoints, hcheck⟩ := Excepts.bind_eq_ok h
      obtain ⟨rfl, hchecked⟩ := checkPolygon_eq_ok hcheck
      have hgiven : points = items.map (givenPoint texts) := by
        have hmap := Excepts.map_eq_of_mapM (π := id) (f := fun item : Json × ℕ => givenPoint texts item.1)
          (fun item p hp => point_eq_givenPoint hp) hpoints
        rw [List.map_id] at hmap
        rw [hmap, ← Function.comp_def (givenPoint texts) Prod.fst, ← List.map_map, List.zipIdx_map_fst]
      exact ⟨by rw [hgiven]; rfl, hchecked⟩
  · exact nomatch h

theorem normalizeZone_eq_ok {raw : Json} {index : ℕ} {zone : ZonePayload}
    (h : normalizeZone texts outer raw index = .ok zone) :
    zone.polygon = givenZone texts raw ∧ Checked zone.polygon := by
  unfold normalizeZone at h
  dsimp only at h
  split at h
  · next raw =>
    split at h
    · exact nomatch h
    · obtain ⟨polygon, hpolygon, h⟩ := Excepts.bind_eq_ok h
      obtain ⟨rfl, hchecked⟩ := normalizePolygon_eq_ok hpolygon
      split at h
      · exact nomatch h
      · obtain ⟨speed, -, h⟩ := Excepts.bind_eq_ok h
        obtain ⟨distance, -, h⟩ := Excepts.bind_eq_ok h
        cases h
        exact ⟨rfl, hchecked⟩
  · exact nomatch h

/-- **What is stored is what was given, and every polygon of it has passed the checks.** -/
theorem normalizeBoundaryPayload_eq_ok {boundary : BoundaryPayload}
    (h : normalizeBoundaryPayload texts payload = .ok boundary) :
    boundary.outerPolygon = givenOuter texts payload ∧
      boundary.zones.map (·.polygon) = givenZones texts payload ∧
      Checked boundary.outerPolygon ∧ ∀ zone ∈ boundary.zones, Checked zone.polygon := by
  unfold normalizeBoundaryPayload at h
  obtain ⟨outer, houter, h⟩ := Excepts.bind_eq_ok h
  obtain ⟨margin, -, h⟩ := Excepts.bind_eq_ok h
  obtain ⟨raws, hraws, h⟩ := Excepts.bind_eq_ok h
  obtain ⟨zones, hzones, h⟩ := Excepts.bind_eq_ok h
  cases h
  obtain ⟨rfl, hchecked⟩ := normalizePolygon_eq_ok houter
  refine ⟨rfl, ?_, hchecked, ?_⟩
  · have hmap := Excepts.map_eq_of_mapM (π := fun zone : ZonePayload => zone.polygon)
      (f := fun raw : Json × ℕ => givenZone texts raw.1)
      (fun raw zone hzone => (normalizeZone_eq_ok hzone).1) hzones
    dsimp only
    rw [hmap, givenZones, hraws, ← Function.comp_def (givenZone texts) Prod.fst, ← List.map_map,
      List.zipIdx_map_fst]
    rfl
  · intro zone hzone
    obtain ⟨raw, -, hstep⟩ := Excepts.exists_of_mem_mapM hzones hzone
    exact (normalizeZone_eq_ok hstep).2

end NavigationBoundaryService

end RoamerX
