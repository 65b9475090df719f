import RoamerX.Lib.Blocks
import RoamerX.Protocol.Json
import Mathlib.Data.Rat.Defs
import Mathlib.Algebra.Order.Ring.Rat

set_option autoImplicit false

/-! # The map-set coordinator

`build_segments` cuts a route into runs of waypoints on one submap, and `activate` loads the submap of
a segment. -/

namespace RoamerX

open Blocks

/-- `bounds` of a submap in the frame of the map. -/
structure SubmapBounds where
  minX : ℚ
  minY : ℚ
  maxX : ℚ
  maxY : ℚ
  deriving DecidableEq

/-- A submap of `route_snapshot["map_set"]`. -/
structure Submap where
  submapId : String
  localMapDir : String := ""
  /-- `metadata["bounds"]`. -/
  metadataBounds : Option SubmapBounds := none
  bounds : Option SubmapBounds := none
  deriving DecidableEq

structure RouteWaypoint where
  x : ℚ
  y : ℚ
  submapId : String := ""
  /-- `arrival_policy` is `pass_through`. -/
  passThrough : Bool := false
  deriving DecidableEq

/-- A segment, less its slice of the waypoints, which nothing reads. -/
structure RouteSegment where
  submapId : String
  startIndex : ℕ
  endIndex : ℕ
  /-- `by_id[submap_id]`. -/
  submap : Option Submap
  deriving DecidableEq

def SubmapBounds.contains (b : SubmapBounds) (w : RouteWaypoint) : Bool :=
  b.minX ≤ w.x && w.x ≤ b.maxX && b.minY ≤ w.y && w.y ≤ b.maxY

/-- `_submap_for_point`: the first submap whose bounds hold the point. -/
def submapForPoint (w : RouteWaypoint) (submaps : List Submap) : Option String :=
  (submaps.find? fun m => (m.metadataBounds.or m.bounds).any (·.contains w)).map (·.submapId)

/-- `by_id`: of two submaps of one id the later one. -/
def submapById (submaps : List Submap) (id : String) : Option Submap :=
  submaps.reverse.find? (·.submapId = id)

/-- The submap a waypoint is assigned to: its own, or the one it lies in. -/
def assignedSubmap (submaps : List Submap) (w : RouteWaypoint) : Option String :=
  let id := if w.submapId ≠ "" then w.submapId else (submapForPoint w submaps).getD ""
  if id = "" ∨ (submapById submaps id).isNone then none else some id

def assignments (submaps : List Submap) :
    ℕ → List RouteWaypoint → Except ProtocolError (List String)
  | _, [] => .ok []
  | index, w :: rest =>
    match assignedSubmap submaps w with
    | none =>
      .error ⟨"MAP_SET_ROUTE_OUT_OF_BOUNDS", s!"waypoint {index} is outside every submap"⟩
    | some id => (assignments submaps (index + 1) rest).map (id :: ·)

/-- The segment of a block of waypoints on one submap. -/
def routeSegment (submaps : List Submap) (b : Block String) : RouteSegment where
  submapId := b.key
  startIndex := b.start
  endIndex := b.stop
  submap := submapById submaps b.key

def buildSegments (waypoints : List RouteWaypoint) (submaps : List Submap) :
    Except ProtocolError (List RouteSegment) :=
  if submaps = [] then .ok []
  else (assignments submaps 0 waypoints).map fun ids =>
    (blocks ids).map (routeSegment submaps)

inductive SwitchState
  | idle | switching | failed | ready
  deriving DecidableEq

structure MapSetCoordinator where
  currentSubmapId : String := ""
  nextSubmapId : String := ""
  switchState : SwitchState := .idle
  failureReason : String := ""
  deriving DecidableEq

/-- `activate`. The answer is that of the map activation and the navigation stack, or the text of what
    they raise. -/
def MapSetCoordinator.activate (c : MapSetCoordinator) (segment : RouteSegment)
    (answer : Except String Unit) : Except String Unit × MapSetCoordinator :=
  let switching := { c with switchState := .switching, nextSubmapId := segment.submapId }
  if (segment.submap.map (·.localMapDir)).getD "" = "" then
    (.error s!"submap {segment.submapId} has no local map directory", switching)
  else
    match answer with
    | .error reason =>
      (.error reason, { switching with switchState := .failed, failureReason := reason })
    | .ok _ =>
      (.ok (), { switching with
        currentSubmapId := segment.submapId
        nextSubmapId := ""
        switchState := .ready
        failureReason := "" })

section Segments

variable {submaps : List Submap} {waypoints : List RouteWaypoint} {ids : List String}
variable {segs : List RouteSegment} {seg : RouteSegment} {n i : ℕ}

theorem assignments_iff (index : ℕ) :
    assignments submaps index waypoints = .ok ids ↔
      waypoints.map (assignedSubmap submaps) = ids.map some := by
  induction waypoints generalizing index ids with
  | nil => cases ids <;> simp [assignments]
  | cons w rest ih =>
    rw [assignments, List.map_cons]
    cases hw : assignedSubmap submaps w with
    | none => cases ids <;> simp
    | some id =>
      cases hrest : assignments submaps (index + 1) rest with
      | error e =>
        constructor
        · intro h
          exact absurd h (by simp [Except.map])
        · intro h
          cases ids with
          | nil => exact absurd h (by simp)
          | cons id' tail =>
            have htail : assignments submaps (index + 1) rest = .ok tail :=
              (ih (index + 1)).2 (List.cons.inj h).2
            exact absurd htail (by simp [hrest])
      | ok tail =>
        have htail := (ih (index + 1)).1 hrest
        rw [htail, ← List.map_cons, List.map_inj_right (fun _ _ => Option.some.inj)]
        simp [Except.map]

theorem assignments_length (index : ℕ) (h : assignments submaps index waypoints = .ok ids) :
    ids.length = waypoints.length := by
  have hmap := congrArg List.length ((assignments_iff index).1 h)
  simpa using hmap.symm

theorem buildSegments_eq (hsubmaps : submaps ≠ [])
    (h : buildSegments waypoints submaps = .ok segs) :
    ∃ ids, assignments submaps 0 waypoints = .ok ids ∧
      segs = (blocks ids).map (routeSegment submaps) := by
  rw [buildSegments, if_neg hsubmaps] at h
  cases hids : assignments submaps 0 waypoints with
  | error e => exact absurd h (by simp [hids, Except.map])
  | ok ids => exact ⟨ids, rfl, by simpa [hids, Except.map] using h.symm⟩

theorem segment_bounds (hsubmaps : submaps ≠ []) (h : buildSegments waypoints submaps = .ok segs)
    (hseg : segs[n]? = some seg) :
    seg.startIndex < seg.endIndex ∧ seg.endIndex ≤ waypoints.length := by
  obtain ⟨ids, hids, rfl⟩ := buildSegments_eq hsubmaps h
  obtain ⟨b, hb, rfl⟩ : ∃ b, (blocks ids)[n]? = some b ∧ routeSegment submaps b = seg := by
    simpa using hseg
  have hbounds := (tiles_blocks ids).bounds hb
  have hlen := assignments_length 0 hids
  exact ⟨hbounds.2.1, by simpa [routeSegment, ← hlen] using hbounds.2.2⟩

theorem segment_next (hsubmaps : submaps ≠ []) (h : buildSegments waypoints submaps = .ok segs)
    (hseg : segs[n]? = some seg) (hlt : seg.endIndex < waypoints.length) :
    ∃ next, segs[n + 1]? = some next ∧ next.startIndex = seg.endIndex := by
  obtain ⟨ids, hids, rfl⟩ := buildSegments_eq hsubmaps h
  obtain ⟨b, hb, rfl⟩ : ∃ b, (blocks ids)[n]? = some b ∧ routeSegment submaps b = seg := by
    simpa using hseg
  have hlen := assignments_length 0 hids
  obtain ⟨y, hy, hstart⟩ := (tiles_blocks ids).next hb (by simpa [routeSegment, hlen] using hlt)
  exact ⟨routeSegment submaps y, by simp [hy], hstart⟩

theorem exists_segment (hsubmaps : submaps ≠ []) (h : buildSegments waypoints submaps = .ok segs)
    (hi : i < waypoints.length) :
    ∃ (n : ℕ) (seg : RouteSegment),
      segs[n]? = some seg ∧ seg.startIndex ≤ i ∧ i < seg.endIndex := by
  obtain ⟨ids, hids, rfl⟩ := buildSegments_eq hsubmaps h
  have hlen := assignments_length 0 hids
  obtain ⟨n, b, hb, hin⟩ := (tiles_blocks ids).exists_block (Nat.zero_le i) (by omega)
  exact ⟨n, routeSegment submaps b, by simp [hb], hin⟩

theorem segment_unique (hsubmaps : submaps ≠ []) (h : buildSegments waypoints submaps = .ok segs)
    {m : ℕ} {seg' : RouteSegment} (hseg : segs[n]? = some seg) (hseg' : segs[m]? = some seg')
    (hi : seg.startIndex ≤ i ∧ i < seg.endIndex) (hi' : seg'.startIndex ≤ i ∧ i < seg'.endIndex) :
    n = m := by
  obtain ⟨ids, hids, rfl⟩ := buildSegments_eq hsubmaps h
  obtain ⟨b, hb, rfl⟩ : ∃ b, (blocks ids)[n]? = some b ∧ routeSegment submaps b = seg := by
    simpa using hseg
  obtain ⟨c, hc, rfl⟩ : ∃ c, (blocks ids)[m]? = some c ∧ routeSegment submaps c = seg' := by
    simpa using hseg'
  exact (tiles_blocks ids).unique hb hc hi hi'

theorem assigned_of_mem_segment (hsubmaps : submaps ≠ [])
    (h : buildSegments waypoints submaps = .ok segs) (hseg : segs[n]? = some seg)
    (hi : seg.startIndex ≤ i) (hlt : i < seg.endIndex) :
    waypoints[i]?.bind (assignedSubmap submaps) = some seg.submapId := by
  obtain ⟨ids, hids, rfl⟩ := buildSegments_eq hsubmaps h
  obtain ⟨b, hb, rfl⟩ : ∃ b, (blocks ids)[n]? = some b ∧ routeSegment submaps b = seg := by
    simpa using hseg
  have hkey : ids[i]? = some b.key := key_blocks (List.mem_of_getElem? hb) hi hlt
  have hmap := congrArg (fun l => l[i]?) ((assignments_iff 0).1 hids)
  rw [List.getElem?_map, List.getElem?_map, hkey] at hmap
  cases hw : waypoints[i]? with
  | none => exact absurd hmap (by simp [hw])
  | some w => simpa [hw, routeSegment] using hmap

theorem buildSegments_reverse (h : buildSegments waypoints submaps = .ok segs)
    (hone : segs.length ≤ 1) : buildSegments waypoints.reverse submaps = .ok segs := by
  by_cases hsubmaps : submaps = []
  · rw [buildSegments, if_pos hsubmaps] at h ⊢
    exact h
  · obtain ⟨ids, hids, rfl⟩ := buildSegments_eq hsubmaps h
    have hback : ids.reverse = ids := reverse_eq_of_length_le_one (by simpa using hone)
    have hreverse : assignments submaps 0 waypoints.reverse = .ok ids := by
      rw [assignments_iff, List.map_reverse, (assignments_iff 0).1 hids, ← List.map_reverse, hback]
    rw [buildSegments, if_neg hsubmaps, hreverse]
    rfl

end Segments

end RoamerX
