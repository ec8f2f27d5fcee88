import EasyNav.PointViews

namespace EasyNav.ChainedFilters

open EasyNav.ExtendedArithmetic
open EasyNav.DoubleArithmetic
open EasyNav.PointPerceptions
open EasyNav.PointViews

universe u

def Within (min max : Option Double) (x : Double) : Prop :=
  (∀ low ∈ min, low ≤ x) ∧ ∀ high ∈ max, x ≤ high

instance (min max : Option Double) (x : Double) : Decidable (Within min max x) :=
  inferInstanceAs (Decidable (_ ∧ _))

structure Satisfies (bounds : Bounds) (v : Vector3) : Prop where
  x : Within (component bounds.min 0) (component bounds.max 0) v.x
  y : Within (component bounds.min 1) (component bounds.max 1) v.y
  z : Within (component bounds.min 2) (component bounds.max 2) v.z

theorem satisfies_iff {bounds : Bounds} {v : Vector3} :
    Satisfies bounds v ↔
      Within (component bounds.min 0) (component bounds.max 0) v.x ∧
        Within (component bounds.min 1) (component bounds.max 1) v.y ∧
        Within (component bounds.min 2) (component bounds.max 2) v.z :=
  ⟨fun ⟨hx, hy, hz⟩ => ⟨hx, hy, hz⟩, fun ⟨hx, hy, hz⟩ => ⟨hx, hy, hz⟩⟩

instance (bounds : Bounds) (v : Vector3) : Decidable (Satisfies bounds v) :=
  decidable_of_iff' _ satisfies_iff

structure FilterCall where
  bounds : Bounds
  lazyPostFuse : Bool

variable {F : Type u} (c : Conversions F)

def filterAll (view : PointPerceptionsOpsView F) (calls : List FilterCall) :
    PointPerceptionsOpsView F :=
  calls.foldl (fun view call => view.filter c call.bounds call.lazyPostFuse) view

/-- The bounds that the calls ask for, with those that the view holds already. -/
def asked (view : PointPerceptionsOpsView F) (calls : List FilterCall) : List Bounds :=
  view.postFilter.toList ++ calls.map FilterCall.bounds

/-- The bounds that are applied in the end: those of every eager call, and those of the
last call. -/
def inForce : Option Bounds → List FilterCall → List Bounds
  | lazyBounds, [] => lazyBounds.toList
  | _, call :: calls =>
      if call.lazyPostFuse then inForce (some call.bounds) calls
      else call.bounds :: inForce none calls

/-- The bounds of lazy calls that another call came after. -/
def forgotten : Option Bounds → List FilterCall → List Bounds
  | _, [] => []
  | lazyBounds, call :: calls =>
      lazyBounds.toList ++
        forgotten (if call.lazyPostFuse then some call.bounds else none) calls

/-- The points are in a target frame, and finite. -/
structure FiniteFused (view : PointPerceptionsOpsView F) : Prop where
  fused : view.hasTargetFrame = true
  finite : ∀ slot ∈ view.slots, ∀ point ∈ slot.cloud, (c.vector point).isFinite = true

/-- The selected points that satisfy the bounds of every call come out, in their order. -/
def AllApply (view : PointPerceptionsOpsView F) (calls : List FilterCall) : Prop :=
  (filterAll c view calls).asPoints c =
    ((view.coordinates c).filter fun v =>
      decide (∀ bounds ∈ asked view calls, Satisfies bounds v)).map (view.output c)

section Comparisons

theorem component_ne_nan {values : List Double} {k : Nat} {b : Double}
    (h : b ∈ component values k) : b ≠ .nan := by
  rintro rfl
  rw [component] at h
  split at h
  · contradiction
  · contradiction
  · rename_i hne
    exact hne h

theorem not_fin_lt_iff {x : ℚ} {b : Double} (hb : b ≠ .nan) :
    ¬ (.fin x : Double) < b ↔ b ≤ .fin x := by
  cases b with
  | nan => contradiction
  | negInf => exact iff_of_true (Extended.not_lt_negInf _) rfl
  | posInf => exact iff_of_false (fun h => h rfl) Bool.false_ne_true
  | fin y => simp

theorem not_lt_fin_iff {x : ℚ} {b : Double} (hb : b ≠ .nan) :
    ¬ b < (.fin x : Double) ↔ .fin x ≤ b := by
  cases b with
  | nan => contradiction
  | negInf => exact iff_of_false (fun h => h rfl) Bool.false_ne_true
  | posInf => exact iff_of_true (Extended.not_posInf_lt _) rfl
  | fin y => simp

theorem inRange_iff {mins maxs : List Double} {k : Nat} {x : Double}
    (hx : x.isFinite = true) :
    inRange (component mins k) (component maxs k) x = true ↔
      Within (component mins k) (component maxs k) x := by
  obtain ⟨q, rfl⟩ := Extended.isFinite_iff.mp hx
  rw [inRange, Bool.and_eq_true, Within]
  refine and_congr ?_ ?_
  · cases hlow : component mins k with
    | none => simp
    | some low =>
        have hne : low ≠ .nan := component_ne_nan hlow
        simp [not_fin_lt_iff hne]
  · cases hhigh : component maxs k with
    | none => simp
    | some high =>
        have hne : high ≠ .nan := component_ne_nan hhigh
        simp [not_lt_fin_iff hne]

theorem contains_iff {bounds : Bounds} {v : Vector3} (hv : v.isFinite = true) :
    bounds.contains v = true ↔ Satisfies bounds v := by
  simp only [Vector3.isFinite, Bool.and_eq_true] at hv
  obtain ⟨⟨hx, hy⟩, hz⟩ := hv
  rw [Bounds.contains, Bool.and_eq_true, Bool.and_eq_true, inRange_iff hx, inRange_iff hy,
    inRange_iff hz, satisfies_iff, and_assoc]

end Comparisons

section Calls

variable {view : PointPerceptionsOpsView F} {calls : List FilterCall}

theorem mem_asked_iff {bounds : Bounds} (lazyBounds : Option Bounds) (calls : List FilterCall) :
    bounds ∈ lazyBounds.toList ++ calls.map FilterCall.bounds ↔
      bounds ∈ inForce lazyBounds calls ∨ bounds ∈ forgotten lazyBounds calls := by
  induction calls generalizing lazyBounds with
  | nil => simp [inForce, forgotten]
  | cons call calls ih =>
      simp only [inForce, forgotten, List.map_cons]
      split
      · have hrest := ih (some call.bounds)
        simp only [Option.toList_some, List.mem_append, List.mem_cons, List.not_mem_nil,
          or_false] at hrest ⊢
        rw [hrest]
        tauto
      · have hrest := ih none
        simp only [Option.toList_none, List.nil_append] at hrest
        simp only [List.mem_append, List.mem_cons, hrest]
        tauto

theorem filter_of_lazy (h : view.hasTargetFrame = true) (bounds : Bounds) :
    view.filter c bounds true = { view with postFilter := some bounds } := by
  simp [PointPerceptionsOpsView.filter, h]

theorem filter_of_eager (bounds : Bounds) :
    view.filter c bounds false =
      { view with
        postFilter := none
        slots := view.slots.map fun slot => slot.filter c view.hasTargetFrame bounds } := by
  simp [PointPerceptionsOpsView.filter]

theorem coordinates_filter_of_eager (bounds : Bounds) :
    (view.filter c bounds false).coordinates c =
      (view.coordinates c).filter bounds.contains := by
  simp only [filter_of_eager, PointPerceptionsOpsView.coordinates, List.flatMap_map]
  change view.slots.flatMap (fun slot =>
    ((slot.filter c view.hasTargetFrame bounds).selected view.hasTargetFrame).map
      (slot.coordinates c view.hasTargetFrame)) = _
  induction view.slots with
  | nil => rfl
  | cons slot slots ih =>
      rw [List.flatMap_cons, List.flatMap_cons, List.filter_append, ih, Slot.selected_filter,
        List.filter_map]
      rfl

theorem asPoints_filterAll (h : view.hasTargetFrame = true) :
    (filterAll c view calls).asPoints c =
      ((view.coordinates c).filter fun v =>
        (inForce view.postFilter calls).all fun bounds => bounds.contains v).map
          (view.output c) := by
  induction calls generalizing view with
  | nil =>
      rw [filterAll, List.foldl_nil, PointPerceptionsOpsView.asPoints_eq]
      congr 2
      funext v
      cases hlazy : view.postFilter with
      | none => simp [PointPerceptionsOpsView.passes, inForce, hlazy]
      | some bounds => simp [PointPerceptionsOpsView.passes, inForce, hlazy]
  | cons call calls ih =>
      obtain ⟨bounds, lazyPostFuse⟩ := call
      rw [filterAll, List.foldl_cons]
      cases lazyPostFuse with
      | true =>
          rw [filter_of_lazy c h]
          have hrest := @ih { view with postFilter := some bounds } h
          exact hrest
      | false =>
          have hrest := @ih (view.filter c bounds false) (by rw [filter_of_eager]; exact h)
          rw [coordinates_filter_of_eager, List.filter_filter, filter_of_eager] at hrest
          rw [filter_of_eager]
          refine hrest.trans (congrArg (List.map (view.output c)) ?_)
          congr 1
          funext v
          simp [inForce, Bool.and_comm]

theorem isFinite_coordinates (h : FiniteFused c view) {v : Vector3}
    (hv : v ∈ view.coordinates c) : v.isFinite = true := by
  obtain ⟨slot, hslot, hmem⟩ := List.mem_flatMap.mp hv
  obtain ⟨point, hpoint, rfl⟩ := List.mem_map.mp hmem
  have hfinite := h.finite slot hslot point (Slot.mem_cloud_of_selected hpoint).1
  rw [Slot.coordinates]
  split
  · exact slot.tfTransform.finite _ hfinite
  · exact hfinite

/-- Of two selections, one stricter than the other, the same comes out just when it is
not. -/
theorem map_filter_eq_iff {α β : Type*} {l : List α} {p q : α → Bool} (f : α → β)
    (hstricter : ∀ v ∈ l, q v = true → p v = true) :
    (l.filter p).map f = (l.filter q).map f ↔ ∀ v ∈ l, p v = true → q v = true := by
  constructor
  · intro heq v hv hp
    have hnested : (l.filter p).filter q = l.filter q := by
      rw [List.filter_filter]
      refine List.filter_congr fun v hv => ?_
      cases hq : q v with
      | true => simp [hstricter v hv hq]
      | false => simp
    have hlength := congrArg List.length heq
    rw [List.length_map, List.length_map, ← hnested] at hlength
    exact List.length_filter_eq_length_iff.mp hlength.symm v (List.mem_filter.mpr ⟨hv, hp⟩)
  · intro hsame
    rw [List.filter_congr fun v hv => Bool.eq_iff_iff.mpr ⟨hsame v hv, hstricter v hv⟩]

/-- All filters apply just when no point within the bounds in force is outside those of a
lazy call that was forgotten. -/
theorem filters_apply_iff (h : FiniteFused c view) (calls : List FilterCall) :
    AllApply c view calls ↔
      ∀ v ∈ view.coordinates c,
        (∀ bounds ∈ inForce view.postFilter calls, Satisfies bounds v) →
          ∀ bounds ∈ forgotten view.postFilter calls, Satisfies bounds v := by
  have hforce : ∀ v ∈ view.coordinates c,
      ((inForce view.postFilter calls).all fun bounds => bounds.contains v) = true ↔
        ∀ bounds ∈ inForce view.postFilter calls, Satisfies bounds v := by
    intro v hv
    rw [List.all_eq_true]
    exact forall₂_congr fun bounds _ => contains_iff (isFinite_coordinates c h hv)
  have hasked : ∀ v, (∀ bounds ∈ asked view calls, Satisfies bounds v) ↔
      (∀ bounds ∈ inForce view.postFilter calls, Satisfies bounds v) ∧
        ∀ bounds ∈ forgotten view.postFilter calls, Satisfies bounds v := by
    intro v
    rw [← forall₂_or_left]
    exact forall_congr' fun bounds => imp_congr_left (mem_asked_iff _ _)
  rw [AllApply, asPoints_filterAll c h.fused, map_filter_eq_iff]
  · refine forall₂_congr fun v hv => ?_
    rw [hforce v hv, decide_eq_true_eq, hasked]
    exact ⟨fun hall hin => (hall hin).2, fun hall hin => ⟨hin, hall hin⟩⟩
  · intro v hv hall
    rw [decide_eq_true_eq, hasked] at hall
    exact (hforce v hv).mpr hall.1

end Calls

def atOrigin : PointPerceptionsOpsView Double :=
  ((PointPerceptionsOpsView.create true
    [some (PointPerceptionsOpsView.added [⟨.fin 0, .fin 0, .fin 0⟩] "map" ⟨1, .ros⟩)]).fuse
      .empty "map" false {}).1

theorem atOrigin_finiteFused : FiniteFused exactConversions atOrigin where
  fused := rfl
  finite := by decide +kernel

/-- A point with x = 0 passes a lazy filter for x from 1 on, once there is one for y. -/
theorem lazy_filter_forgotten :
    ¬ ∀ calls : List FilterCall, FiniteFused exactConversions atOrigin →
      AllApply exactConversions atOrigin calls := by
  intro h
  have hall := h [⟨⟨[.fin 1], []⟩, true⟩, ⟨⟨[], [.nan, .fin 1]⟩, true⟩] atOrigin_finiteFused
  rw [AllApply] at hall
  exact absurd hall (by decide +kernel)

/-- An eager filter is kept. -/
theorem filters_apply_iff_eager :
    AllApply exactConversions atOrigin
      [⟨⟨[.fin 1], []⟩, false⟩, ⟨⟨[], [.nan, .fin 1]⟩, true⟩] := by
  apply (filters_apply_iff exactConversions atOrigin_finiteFused _).mpr
  decide +kernel

end EasyNav.ChainedFilters
