import EasyNav.PointPerceptions

namespace EasyNav.PointViews

open EasyNav.ExtendedArithmetic
open EasyNav.DoubleArithmetic
open EasyNav.PointPerceptions

universe u

structure Vector3 where
  x : Double
  y : Double
  z : Double
  deriving DecidableEq

def Vector3.isFinite (v : Vector3) : Bool := v.x.isFinite && v.y.isFinite && v.z.isFinite

/-- `pcl::PointXYZ`, with coordinates of the type `F`. -/
structure Point (F : Type u) where
  x : F
  y : F
  z : F
  deriving DecidableEq

/-- Conversions of coordinates: a `float` is a `double`, and comes back as it was. -/
structure Conversions (F : Type u) where
  toDouble : F → Double
  toFloat : Double → F
  /-- `static_cast<int>(std::floor(x))` -/
  floorToInt : Double → Int
  toFloat_toDouble : ∀ f, toFloat (toDouble f) = f

def exactConversions : Conversions Double where
  toDouble := id
  toFloat := id
  floorToInt
    | .fin x => ⌊x⌋
    | _ => 0
  toFloat_toDouble _ := rfl

structure Transform where
  apply : Vector3 → Vector3
  finite : ∀ v, v.isFinite = true → (apply v).isFinite = true

def Transform.identity : Transform where
  apply := id
  finite _ h := h

/-- The TF buffer at a moment: whether there is a transform to the robot's frame, and the
transform between two frames with its stamp, at a stamp or the latest one. -/
structure TfBuffer where
  canTransform : String → Stamp → Bool
  lookupTransform : String → String → Option Stamp → Option (Time × Transform)

def TfBuffer.empty : TfBuffer where
  canTransform _ _ := false
  lookupTransform _ _ _ := none

variable {F : Type u} (c : Conversions F)

def Conversions.vector (point : Point F) : Vector3 :=
  ⟨c.toDouble point.x, c.toDouble point.y, c.toDouble point.z⟩

def Conversions.point (v : Vector3) : Point F :=
  ⟨c.toFloat v.x, c.toFloat v.y, c.toFloat v.z⟩

@[simp] theorem Conversions.point_vector (point : Point F) :
    c.point (c.vector point) = point := by
  simp [Conversions.point, Conversions.vector, c.toFloat_toDouble]

/-- A component that is given and is a number. -/
def component (values : List Double) (k : Nat) : Option Double :=
  match values[k]? with
  | none | some .nan => none
  | value => value

/-- The bounds of a filter, with its components as they are given. -/
structure Bounds where
  min : List Double
  max : List Double

/-- Whether a coordinate stays within its bounds, as the comparisons have it. -/
def inRange (min max : Option Double) (x : Double) : Bool :=
  !(min.any fun min => decide (x < min)) && !(max.any fun max => decide (max < x))

def Bounds.contains (bounds : Bounds) (v : Vector3) : Bool :=
  inRange (component bounds.min 0) (component bounds.max 0) v.x &&
    inRange (component bounds.min 1) (component bounds.max 1) v.y &&
    inRange (component bounds.min 2) (component bounds.max 2) v.z

/-- The values that coordinates are collapsed to. -/
structure Collapse (F : Type u) where
  x : Option F := none
  y : Option F := none
  z : Option F := none

def Collapse.of (dims : List Double) : Collapse F where
  x := (component dims 0).map c.toFloat
  y := (component dims 1).map c.toFloat
  z := (component dims 2).map c.toFloat

def Collapse.apply (collapse : Collapse F) (point : Point F) : Point F where
  x := collapse.x.getD point.x
  y := collapse.y.getD point.y
  z := collapse.z.getD point.z

def Collapse.isNone (collapse : Collapse F) : Bool :=
  collapse.x.isNone && collapse.y.isNone && collapse.z.isNone

abbrev Cloud (F : Type u) := List (Point F)

/-- A perception with what the view keeps for it: the entries of its vectors at the same
place, which are as long as the container. -/
structure Slot (F : Type u) where
  perception : Option (PointPerception (Cloud F))
  indices : List Nat
  tfTransform : Transform := .identity
  tfValid : Bool := false
  tfFailed : Bool := false

/-- `perceptions` may be null pointers; each of the others is an object of its own. -/
structure PointPerceptionsOpsView (F : Type u) where
  owned : Bool
  slots : List (Slot F)
  targetFrame : Option String := none
  collapseTo : Collapse F := {}
  postFilter : Option Bounds := none

/-- The time of a TF lookup: that of the perception, or the latest one. -/
def queryTime (exactTime : Bool) (stamp : Stamp) : Option Stamp :=
  if exactTime then some stamp else none

namespace Slot

variable (slot : Slot F)

/-- The points there are; none if the perception is not valid. -/
def cloud : Cloud F :=
  match slot.perception with
  | none => []
  | some p => if p.valid then p.data else []

def create (perception : Option (PointPerception (Cloud F))) : Slot F :=
  let slot : Slot F := { perception := perception, indices := [] }
  { slot with indices := List.range slot.cloud.length }

/-- Where a point is, in the target frame if there is one. -/
def coordinates (fused : Bool) (point : Point F) : Vector3 :=
  if fused && slot.tfValid then slot.tfTransform.apply (c.vector point) else c.vector point

/-- The selected points, unless they are not in the target frame. -/
def selected (fused : Bool) : Cloud F :=
  if fused && slot.tfFailed then [] else slot.indices.filterMap fun i => slot.cloud[i]?

/-- Without its transform the bounds cannot be checked: such a perception is left out. -/
def filter (fused : Bool) (bounds : Bounds) : Slot F :=
  { slot with
    indices :=
      if slot.cloud.isEmpty || slot.indices.isEmpty || (fused && slot.tfFailed) then []
      else slot.indices.filter fun i =>
        match slot.cloud[i]? with
        | none => false
        | some point => bounds.contains (slot.coordinates c fused point) }

/-- The voxel of a point, in the frame of its sensor. -/
def voxelKey (collapseTo : Collapse F) (invRes : Double) (point : Point F) : Int × Int × Int :=
  (c.floorToInt (c.toDouble point.x * invRes), c.floorToInt (c.toDouble point.y * invRes),
    c.floorToInt (c.toDouble (collapseTo.z.getD point.z) * invRes))

/-- The first index of each voxel that is not in the set yet. -/
def firstOfVoxels (key : Nat → Option (Int × Int × Int)) :
    List Nat → List (Int × Int × Int) → List Nat
  | [], _ => []
  | i :: indices, voxels =>
      match key i with
      | none => firstOfVoxels key indices voxels
      | some voxel =>
          if voxel ∈ voxels then firstOfVoxels key indices voxels
          else i :: firstOfVoxels key indices (voxel :: voxels)

def downsample (collapseTo : Collapse F) (invRes : Double) : Slot F :=
  if slot.cloud.isEmpty || decide (slot.indices.length ≤ 1) then slot
  else
    { slot with
      indices :=
        firstOfVoxels (fun i => slot.cloud[i]?.map (voxelKey c collapseTo invRes))
          slot.indices [] }

def collapse (collapseTo : Collapse F) : Slot F :=
  { slot with
    perception := slot.perception.map fun p =>
      if p.valid then { p with data := p.data.map collapseTo.apply } else p }

/-- What a fuse makes of a perception, and the stamp of a transform that it obtained. -/
def fuse (tf : TfBuffer) (target : String) (exactTime : Bool) : Slot F × Option Stamp :=
  match slot.perception with
  | none => ({ slot with tfValid := false, tfFailed := false }, none)
  | some p =>
      let p := p.integratePendingPerceptions tf.canTransform
      let slot := { slot with perception := some p, tfFailed := false }
      if !p.valid || p.data.isEmpty then ({ slot with tfValid := false }, none)
      else if p.frameId = target then ({ slot with tfValid := false }, none)
      else
        match tf.lookupTransform target p.frameId (queryTime exactTime p.stamp) with
        | some (stamp, transform) =>
            ({ slot with tfTransform := transform, tfValid := true },
              some (if exactTime then p.stamp else ⟨stamp, p.stamp.clockType⟩))
        | none => ({ slot with tfValid := false, tfFailed := true }, none)

end Slot

/-- Times of different clocks cannot be ordered: the greater number counts. -/
def updateLatestStamp (stamp candidate : Stamp) : Stamp :=
  if candidate.nanoseconds = 0 then stamp
  else if stamp.nanoseconds = 0 then candidate
  else if stamp.clockType = candidate.clockType then
    if stamp.nanoseconds < candidate.nanoseconds then candidate else stamp
  else if stamp.nanoseconds < candidate.nanoseconds then
    ⟨candidate.nanoseconds, stamp.clockType⟩
  else stamp

namespace PointPerceptionsOpsView

variable (view : PointPerceptionsOpsView F)

def create (owned : Bool) (perceptions : List (Option (PointPerception (Cloud F)))) :
    PointPerceptionsOpsView F where
  owned := owned
  slots := perceptions.map Slot.create

def hasTargetFrame : Bool := view.targetFrame.isSome

/-- With a target frame, a lazy filter is left for the points that come out. -/
def filter (bounds : Bounds) (lazyPostFuse : Bool) : PointPerceptionsOpsView F :=
  if view.hasTargetFrame && lazyPostFuse then { view with postFilter := some bounds }
  else
    { view with
      postFilter := if lazyPostFuse then view.postFilter else none
      slots := view.slots.map fun slot => slot.filter c view.hasTargetFrame bounds }

def downsample (resolution : Double) : PointPerceptionsOpsView F :=
  if resolution ≤ 0 then view
  else
    { view with
      slots := view.slots.map fun slot =>
        slot.downsample c view.collapseTo (.fin 1 / resolution) }

def collapse (dims : List Double) (lazy : Bool) : PointPerceptionsOpsView F :=
  if lazy then { view with collapseTo := .of c dims }
  else if !view.owned || (Collapse.of c dims).isNone then view
  else
    { view with
      slots := view.slots.map fun slot => slot.collapse (.of c dims)
      collapseTo := {} }

/-- The fused view, and the latest of the stamp given and those of the transforms. -/
def fuse (tf : TfBuffer) (target : String) (exactTime : Bool) (stamp : Stamp) :
    PointPerceptionsOpsView F × Stamp :=
  let fused := view.slots.map fun slot => slot.fuse tf target exactTime
  ({ view with targetFrame := some target, slots := fused.map Prod.fst },
    (fused.filterMap Prod.snd).foldl updateLatestStamp stamp)

/-- What `add` makes of points: a perception without any buffered ones. -/
def added (points : Cloud F) (frame : String) (stamp : Stamp) : PointPerception (Cloud F) :=
  { PointPerception.create [] with
    valid := true
    frameId := frame
    stamp := stamp
    data := points }

def add (points : Cloud F) (frame : String) (stamp : Stamp) : PointPerceptionsOpsView F :=
  if !view.owned then view
  else
    { view with
      slots := view.slots ++
        [{ perception := some (added points frame stamp)
           indices := List.range points.length }] }

/-- Whether a point at these coordinates passes the lazy filter. -/
def passes (v : Vector3) : Bool := view.postFilter.all fun bounds => bounds.contains v

def output (v : Vector3) : Point F := view.collapseTo.apply (c.point v)

def asPoints : Cloud F :=
  view.slots.flatMap fun slot =>
    (slot.selected view.hasTargetFrame).filterMap fun point =>
      let v := slot.coordinates c view.hasTargetFrame point
      if view.passes v then some (view.output c v) else none

end PointPerceptionsOpsView

section Selecting

variable {slot : Slot F} {point : Point F} {fused : Bool}

theorem Slot.mem_cloud_of_selected (h : point ∈ slot.selected fused) :
    point ∈ slot.cloud ∧ (fused && slot.tfFailed) = false := by
  rw [Slot.selected] at h
  split at h
  · exact absurd h List.not_mem_nil
  · rename_i hkept
    obtain ⟨i, -, hi⟩ := List.mem_filterMap.mp h
    exact ⟨List.mem_of_getElem? hi, Bool.eq_false_of_not_eq_true hkept⟩

theorem Slot.mem_cloud_iff :
    point ∈ slot.cloud ↔ ∃ p, slot.perception = some p ∧ p.valid = true ∧ point ∈ p.data := by
  rw [Slot.cloud]
  cases slot.perception with
  | none => simp
  | some p => cases hvalid : p.valid <;> simp [hvalid]

/-- An eager filter keeps the selected points within its bounds, and moves none. -/
theorem Slot.selected_filter (bounds : Bounds) :
    (slot.filter c fused bounds).selected fused =
      (slot.selected fused).filter fun point =>
        bounds.contains (slot.coordinates c fused point) := by
  have hcloud : (slot.filter c fused bounds).cloud = slot.cloud := rfl
  have hfailed : (slot.filter c fused bounds).tfFailed = slot.tfFailed := rfl
  simp only [Slot.selected, hcloud, hfailed]
  split
  · rfl
  · rename_i hkept
    rw [Slot.filter]
    split
    · rename_i hempty
      simp only [Bool.or_eq_true, List.isEmpty_iff] at hempty
      rcases hempty with (hcloud | hindices) | hfailed
      · simp [hcloud]
      · simp [hindices]
      · exact absurd hfailed hkept
    · dsimp only
      induction slot.indices with
      | nil => rfl
      | cons i indices ih =>
          cases hi : slot.cloud[i]? with
          | none => simp [hi, ih]
          | some point =>
              by_cases hin : bounds.contains (slot.coordinates c fused point) = true
              · simp [hi, hin, ih]
              · simp [hi, hin, ih]

end Selecting

namespace PointPerceptionsOpsView

variable {view : PointPerceptionsOpsView F}

/-- Where the selected points are, in the target frame if there is one. -/
def coordinates (view : PointPerceptionsOpsView F) : List Vector3 :=
  view.slots.flatMap fun slot =>
    (slot.selected view.hasTargetFrame).map (slot.coordinates c view.hasTargetFrame)

theorem asPoints_eq (view : PointPerceptionsOpsView F) :
    view.asPoints c = ((view.coordinates c).filter view.passes).map (view.output c) := by
  rw [asPoints, coordinates]
  induction view.slots with
  | nil => rfl
  | cons slot slots ih =>
      rw [List.flatMap_cons, List.flatMap_cons, List.filter_append, List.map_append, ih]
      congr 1
      induction slot.selected view.hasTargetFrame with
      | nil => rfl
      | cons point points ih =>
          by_cases hpasses : view.passes (slot.coordinates c view.hasTargetFrame point) = true
          · simp [hpasses, ih]
          · simp [hpasses, ih]

theorem mem_asPoints {point : Point F} (h : point ∈ view.asPoints c) :
    ∃ slot ∈ view.slots, ∃ source ∈ slot.selected view.hasTargetFrame,
      point = view.output c (slot.coordinates c view.hasTargetFrame source) := by
  rw [asPoints_eq, List.mem_map] at h
  obtain ⟨v, hv, rfl⟩ := h
  obtain ⟨slot, hslot, hmem⟩ := List.mem_flatMap.mp (List.mem_filter.mp hv).1
  obtain ⟨source, hsource, rfl⟩ := List.mem_map.mp hmem
  exact ⟨slot, hslot, source, hsource, rfl⟩

end PointPerceptionsOpsView

end EasyNav.PointViews
