import EasyNav.ChainedFilters

namespace EasyNav.PostFusionFilters

open EasyNav.ExtendedArithmetic
open EasyNav.DoubleArithmetic
open EasyNav.PointPerceptions
open EasyNav.PointViews
open EasyNav.ChainedFilters

universe u

/-- `fill_bounds`: whether a component is used, and its value. -/
def fillBounds (src : List Double) (k : Nat) : Bool × Double :=
  match src[k]? with
  | none => (false, 0)
  | some value => if value = .nan then (false, 0) else (true, value)

/-- The checks that `as_points` makes of a stored filter. -/
def droppedFromOutput (postMin postMax : Nat → Bool × Double) (v : Vector3) : Bool :=
  ((postMin 0).1 && decide (v.x < (postMin 0).2)) ||
    ((postMin 1).1 && decide (v.y < (postMin 1).2)) ||
    ((postMin 2).1 && decide (v.z < (postMin 2).2)) ||
    ((postMax 0).1 && decide ((postMax 0).2 < v.x)) ||
    ((postMax 1).1 && decide ((postMax 1).2 < v.y)) ||
    ((postMax 2).1 && decide ((postMax 2).2 < v.z))

/-- Whether an eager filter uses a component: `bounds.size() > k && !std::isnan(bounds[k])`. -/
def usesComponent (bounds : List Double) (k : Nat) : Bool :=
  decide (k < bounds.length) && !decide (bounds.getD k 0 = .nan)

/-- The checks that an eager filter makes. -/
def droppedFromIndices (bounds : Bounds) (v : Vector3) : Bool :=
  (usesComponent bounds.min 0 && decide (v.x < bounds.min.getD 0 0)) ||
    (usesComponent bounds.min 1 && decide (v.y < bounds.min.getD 1 0)) ||
    (usesComponent bounds.min 2 && decide (v.z < bounds.min.getD 2 0)) ||
    (usesComponent bounds.max 0 && decide (bounds.max.getD 0 0 < v.x)) ||
    (usesComponent bounds.max 1 && decide (bounds.max.getD 1 0 < v.y)) ||
    (usesComponent bounds.max 2 && decide (bounds.max.getD 2 0 < v.z))

section Checks

variable (p : Double → Bool)

theorem fillBounds_check (src : List Double) (k : Nat) :
    ((fillBounds src k).1 && p (fillBounds src k).2) = (component src k).any p := by
  rw [fillBounds, component]
  cases src[k]? with
  | none => rfl
  | some value => cases value <;> simp

theorem usesComponent_check (src : List Double) (k : Nat) :
    (usesComponent src k && p (src.getD k 0)) = (component src k).any p := by
  rw [usesComponent, component, List.getD_eq_getElem?_getD]
  cases hvalue : src[k]? with
  | none =>
      have hshort : ¬ k < src.length := not_lt.mpr (List.getElem?_eq_none_iff.mp hvalue)
      simp [hshort]
  | some value =>
      obtain ⟨hlength, -⟩ := List.getElem?_eq_some_iff.mp hvalue
      cases value <;> simp [hlength]

theorem droppedFromOutput_eq (bounds : Bounds) (v : Vector3) :
    droppedFromOutput (fillBounds bounds.min) (fillBounds bounds.max) v =
      !bounds.contains v := by
  have hmin := fun (x : Double) k => fillBounds_check (fun low => decide (x < low)) bounds.min k
  have hmax := fun (x : Double) k => fillBounds_check (fun high => decide (high < x)) bounds.max k
  rw [droppedFromOutput, hmin, hmin, hmin, hmax, hmax, hmax, Bounds.contains, inRange, inRange,
    inRange]
  simp only [Bool.not_and, Bool.not_not]
  ac_rfl

theorem droppedFromIndices_eq (bounds : Bounds) (v : Vector3) :
    droppedFromIndices bounds v = !bounds.contains v := by
  have hmin := fun (x : Double) k =>
    usesComponent_check (fun low => decide (x < low)) bounds.min k
  have hmax := fun (x : Double) k =>
    usesComponent_check (fun high => decide (high < x)) bounds.max k
  rw [droppedFromIndices, hmin, hmin, hmin, hmax, hmax, hmax, Bounds.contains, inRange, inRange,
    inRange]
  simp only [Bool.not_and, Bool.not_not]
  ac_rfl

end Checks

variable {F : Type u} (c : Conversions F)

def filterChecked (view : PointPerceptionsOpsView F) (bounds : Bounds) (lazyPostFuse : Bool) :
    PointPerceptionsOpsView F :=
  if view.hasTargetFrame && lazyPostFuse then { view with postFilter := some bounds }
  else
    { view with
      postFilter := if lazyPostFuse then view.postFilter else none
      slots := view.slots.map fun slot =>
        { slot with
          indices :=
            if slot.cloud.isEmpty || slot.indices.isEmpty ||
                (view.hasTargetFrame && slot.tfFailed) then []
            else slot.indices.filter fun i =>
              match slot.cloud[i]? with
              | none => false
              | some point =>
                  !droppedFromIndices bounds (slot.coordinates c view.hasTargetFrame point) } }

/-- `as_points`, with its own checks of a stored filter. -/
def asPointsChecked (view : PointPerceptionsOpsView F) : Cloud F :=
  view.slots.flatMap fun slot =>
    (slot.selected view.hasTargetFrame).filterMap fun point =>
      let v := slot.coordinates c view.hasTargetFrame point
      if view.postFilter.any fun bounds =>
          droppedFromOutput (fillBounds bounds.min) (fillBounds bounds.max) v
      then none else some (view.output c v)

variable {view : PointPerceptionsOpsView F}

theorem filterChecked_eq (bounds : Bounds) (lazyPostFuse : Bool) :
    filterChecked c view bounds lazyPostFuse = view.filter c bounds lazyPostFuse := by
  simp only [filterChecked, droppedFromIndices_eq, Bool.not_not]
  rfl

theorem asPointsChecked_eq (view : PointPerceptionsOpsView F) :
    asPointsChecked c view = view.asPoints c := by
  rw [asPointsChecked, PointPerceptionsOpsView.asPoints]
  congr 1
  funext slot
  congr 1
  funext point
  cases hfilter : view.postFilter with
  | none => simp [PointPerceptionsOpsView.passes, hfilter]
  | some bounds =>
      simp only [PointPerceptionsOpsView.passes, hfilter, Option.any_some, Option.all_some,
        droppedFromOutput_eq]
      cases bounds.contains (slot.coordinates c view.hasTargetFrame point) <;> rfl

/-- What comes out is the same whether the filter is lazy or eager. -/
def FiltersAgree (view : PointPerceptionsOpsView F) (bounds : Bounds) : Prop :=
  asPointsChecked c (filterChecked c view bounds true) =
    asPointsChecked c (filterChecked c view bounds false)

theorem filtersAgree_of_fused (h : view.hasTargetFrame = true) (bounds : Bounds) :
    FiltersAgree c view bounds := by
  have hfiltered : ∀ lazyPostFuse, (filterAll c view [⟨bounds, lazyPostFuse⟩]).asPoints c =
      asPointsChecked c (filterChecked c view bounds lazyPostFuse) := by
    intro lazyPostFuse
    rw [asPointsChecked_eq, filterChecked_eq]
    rfl
  rw [FiltersAgree, ← hfiltered, ← hfiltered, asPoints_filterAll c h, asPoints_filterAll c h]
  rfl

theorem downsample_hasTargetFrame (resolution : Double) :
    (view.downsample c resolution).hasTargetFrame = view.hasTargetFrame := by
  rw [PointPerceptionsOpsView.downsample]
  split
  · rfl
  · rfl

/-- Once a view is fused, downsampled or not, a lazy filter and an eager one show the same
points. -/
theorem lazy_eager_agree (view : PointPerceptionsOpsView F) (tf : TfBuffer) (target : String)
    (exactTime : Bool) (stamp : Stamp) (bounds : Bounds) :
    FiltersAgree c (view.fuse tf target exactTime stamp).1 bounds ∧
      ∀ resolution, FiltersAgree c
        ((view.fuse tf target exactTime stamp).1.downsample c resolution) bounds := by
  have hfused : (view.fuse tf target exactTime stamp).1.hasTargetFrame = true := rfl
  refine ⟨filtersAgree_of_fused c hfused bounds, fun resolution => ?_⟩
  apply filtersAgree_of_fused
  rw [downsample_hasTargetFrame, hfused]

end EasyNav.PostFusionFilters
