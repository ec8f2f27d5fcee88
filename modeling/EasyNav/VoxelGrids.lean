import EasyNav.FirstOccurrences
import EasyNav.PointViews

namespace EasyNav.VoxelGrids

open EasyNav.ExtendedArithmetic
open EasyNav.ExtendedArithmetic.Extended
open EasyNav.DoubleArithmetic
open EasyNav.FirstOccurrences
open EasyNav.PointViews
open EasyNav.PointViews.Slot

universe u

variable {F : Type u} (c : Conversions F)

/-- The voxel of an index, which has none if there is no such point. -/
def keyOf (slot : Slot F) (collapseTo : Collapse F) (invRes : Double) (i : Nat) :
    Option (Int × Int × Int) :=
  slot.cloud[i]?.map (voxelKey c collapseTo invRes)

def downsampleInPlace (slot : Slot F) (collapseTo : Collapse F) (invRes : Double) : Slot F :=
  if slot.cloud.isEmpty || decide (slot.indices.length ≤ 1) then slot
  else { slot with indices := compact (keyOf c slot collapseTo invRes) slot.indices }

/-- `static_cast<int>` of a value that fits. -/
def toInt (q : ℚ) : Option Int :=
  if -2147483648 ≤ ⌊q⌋ ∧ ⌊q⌋ ≤ 2147483647 then some ⌊q⌋ else none

def voxelIndex (resolution x : Double) : Option Int :=
  match x / resolution with
  | .fin q => toInt q
  | _ => none

/-- The voxel of a point, with the value that `z` is collapsed to; none if its indices do not
fit in an `int`. -/
def voxel (collapseTo : Collapse F) (resolution : Double) (point : Point F) :
    Option (Int × Int × Int) :=
  match voxelIndex resolution (c.toDouble point.x), voxelIndex resolution (c.toDouble point.y),
    voxelIndex resolution (c.toDouble (collapseTo.z.getD point.z)) with
  | some x, some y, some z => some (x, y, z)
  | _, _, _ => none

/-- What fits in an `int` is rounded down. -/
def FloorsToInt : Prop := ∀ q i, toInt q = some i → c.floorToInt (.fin q) = i

/-- One point of each voxel is left of a perception: the first one. -/
structure Thinned (voxel : Point F → Option (Int × Int × Int)) (slot slot' : Slot F) : Prop where
  same : slot' = { slot with indices := slot'.indices }
  sublist : slot'.indices.Sublist slot.indices
  apart : slot'.indices.Pairwise fun i j => ∀ p q, slot.cloud[i]? = some p →
    slot.cloud[j]? = some q → voxel p ≠ voxel q
  shared : ∀ before i after p, slot.indices = before ++ i :: after → slot.cloud[i]? = some p →
    ∃ kept kept', kept.Sublist before ∧ kept'.Sublist after ∧
      (slot'.indices = kept ++ i :: kept' ∨
        slot'.indices = kept ++ kept' ∧
          ∃ j ∈ kept, ∃ q, slot.cloud[j]? = some q ∧ voxel q = voxel p)

section Loops

variable {c}

theorem firstOfVoxels_eq (key : Nat → Option (Int × Int × Int)) (indices : List Nat)
    (voxels : List (Int × Int × Int)) :
    firstOfVoxels key indices voxels = firsts key indices voxels := by
  induction indices generalizing voxels with
  | nil => rfl
  | cons i indices ih =>
      rw [firstOfVoxels, firsts]
      cases key i with
      | none => exact ih voxels
      | some voxel =>
          dsimp only
          rw [ih, ih]
          by_cases hseen : voxel ∈ voxels
          · rw [if_pos hseen, if_pos hseen]
          · rw [if_neg hseen, if_neg hseen]

variable (slot : Slot F) (collapseTo : Collapse F) (invRes : Double)

theorem downsample_eq_inPlace :
    slot.downsample c collapseTo invRes = downsampleInPlace c slot collapseTo invRes := by
  rw [Slot.downsample, downsampleInPlace, compact_eq, firstOfVoxels_eq]
  rfl

theorem downsample_cases :
    (slot.downsample c collapseTo invRes = slot ∧
        (slot.cloud = [] ∨ slot.indices.length ≤ 1)) ∨
      slot.downsample c collapseTo invRes =
        { slot with indices := firsts (keyOf c slot collapseTo invRes) slot.indices [] } := by
  rw [downsample_eq_inPlace, downsampleInPlace, compact_eq]
  split
  · rename_i hskip
    rw [Bool.or_eq_true, List.isEmpty_iff, decide_eq_true_eq] at hskip
    exact .inl ⟨rfl, hskip⟩
  · exact .inr rfl

theorem downsample_downsample :
    (slot.downsample c collapseTo invRes).downsample c collapseTo invRes =
      slot.downsample c collapseTo invRes := by
  rcases downsample_cases slot collapseTo invRes with ⟨hsame, -⟩ | hfirsts
  · rw [hsame, hsame]
  · rw [hfirsts]
    rcases downsample_cases
      { slot with indices := firsts (keyOf c slot collapseTo invRes) slot.indices [] }
      collapseTo invRes with ⟨hsame, -⟩ | htwice
    · exact hsame
    · rw [htwice]
      congr 1
      exact firsts_firsts slot.indices

end Loops

section Voxels

variable {c} {collapseTo : Collapse F} {resolution : Double}

theorem mul_inverse (hres : 0 < resolution) {x : Double} {q : ℚ} (h : x / resolution = .fin q) :
    x * (.fin 1 / resolution) = .fin q := by
  cases resolution with
  | fin r =>
      rw [zero_def, fin_lt_fin] at hres
      rw [div_fin hres.ne']
      cases x with
      | fin x =>
          rw [div_fin hres.ne', Extended.fin.injEq] at h
          rw [mul_fin, mul_one_div, h]
      | nan => cases h
      | posInf =>
          change (if r < 0 then negInf else posInf) = _ at h
          rw [if_neg hres.not_gt] at h
          cases h
      | negInf =>
          change (if r < 0 then posInf else negInf) = _ at h
          rw [if_neg hres.not_gt] at h
          cases h
  | posInf =>
      cases x with
      | fin x =>
          obtain rfl := Extended.fin.inj h
          change Extended.fin (x * 0) = _
          rw [mul_zero]
      | _ => cases h
  | negInf => exact absurd hres (not_lt_negInf _)
  | nan => exact absurd hres (not_lt_nan _)

theorem floorToInt_of_voxelIndex (hc : FloorsToInt c) (hres : 0 < resolution) {x : Double} {i : Int}
    (h : voxelIndex resolution x = some i) : c.floorToInt (x * (.fin 1 / resolution)) = i := by
  rw [voxelIndex] at h
  split at h
  · rename_i q hq
    rw [mul_inverse hres hq]
    exact hc q i h
  · cases h

theorem voxelKey_of_voxel (hc : FloorsToInt c) (hres : 0 < resolution) {point : Point F}
    {key : Int × Int × Int} (h : voxel c collapseTo resolution point = some key) :
    voxelKey c collapseTo (.fin 1 / resolution) point = key := by
  rw [voxel] at h
  split at h
  · rename_i x y z hx hy hz
    rw [voxelKey, floorToInt_of_voxelIndex hc hres hx, floorToInt_of_voxelIndex hc hres hy,
      floorToInt_of_voxelIndex hc hres hz]
    exact Option.some.inj h
  · cases h

theorem keyOf_eq (hc : FloorsToInt c) (hres : 0 < resolution) {slot : Slot F}
    (hfit : ∀ point ∈ slot.cloud, (voxel c collapseTo resolution point).isSome) {i : Nat}
    {point : Point F} (hi : slot.cloud[i]? = some point) :
    keyOf c slot collapseTo (.fin 1 / resolution) i = voxel c collapseTo resolution point := by
  obtain ⟨key, hkey⟩ := Option.isSome_iff_exists.mp (hfit point (List.mem_of_getElem? hi))
  rw [keyOf, hi, hkey, Option.map_some, voxelKey_of_voxel hc hres hkey]

theorem thinned_of_same {slot : Slot F} {voxel : Point F → Option (Int × Int × Int)}
    (h : slot.cloud = [] ∨ slot.indices.length ≤ 1) : Thinned voxel slot slot := by
  refine ⟨rfl, .refl _, ?_, fun before i after _ hsplit _ => ?_⟩
  · rcases h with hempty | hshort
    · rw [hempty]
      exact List.pairwise_of_forall fun i j p q hp => by simp at hp
    · generalize slot.indices = indices at hshort
      match indices with
      | [] => exact .nil
      | [i] => exact List.pairwise_singleton _ i
      | i :: j :: indices => simp at hshort
  · exact ⟨before, after, .refl _, .refl _, .inl hsplit⟩

theorem downsample_thinned (hc : FloorsToInt c) (hres : 0 < resolution) {slot : Slot F}
    (hfit : ∀ point ∈ slot.cloud, (voxel c collapseTo resolution point).isSome) :
    Thinned (voxel c collapseTo resolution) slot
      (slot.downsample c collapseTo (.fin 1 / resolution)) := by
  rcases downsample_cases slot collapseTo (.fin 1 / resolution) with ⟨hsame, hskip⟩ | hfirsts
  · rw [hsame]
    exact thinned_of_same hskip
  · rw [hfirsts]
    have hkey : ∀ {i : Nat} {point : Point F}, slot.cloud[i]? = some point →
        keyOf c slot collapseTo (.fin 1 / resolution) i = voxel c collapseTo resolution point :=
      keyOf_eq hc hres hfit
    refine ⟨rfl, firsts_sublist _ _, ?_, fun before i after point hsplit hi => ?_⟩
    · refine (firsts_pairwise slot.indices []).imp fun {i j} hne p q hp hq hsame => hne ?_
      rw [hkey hp, hkey hq, hsame]
    · obtain ⟨key, hsome⟩ := Option.isSome_iff_exists.mp (hfit point (List.mem_of_getElem? hi))
      have hi' := (hkey hi).trans hsome
      obtain ⟨kept, kept', hbefore, hafter, hcases⟩ := firsts_split hi' before after
      refine ⟨kept, kept', hbefore, hafter, ?_⟩
      dsimp only
      rw [hsplit]
      rcases hcases with hmem | ⟨hdropped, j, hj, hshared⟩
      · exact .inl hmem
      · obtain ⟨q, hq, -⟩ := Option.map_eq_some_iff.mp (hshared.trans hi')
        refine .inr ⟨hdropped, j, hj, q, hq, ?_⟩
        rw [← hkey hq, ← hkey hi, hshared]

end Voxels

theorem not_le_zero {resolution : Double} (hres : 0 < resolution) : ¬ resolution ≤ 0 := by
  cases resolution with
  | fin r =>
      rw [zero_def, fin_lt_fin] at hres
      rw [zero_def, fin_le_fin]
      exact hres.not_ge
  | posInf => exact (by decide : ¬ (posInf : Double) ≤ 0)
  | negInf => exact absurd hres (not_lt_negInf _)
  | nan => exact absurd hres (not_lt_nan _)

theorem downsample_of_pos {c : Conversions F} (view : PointPerceptionsOpsView F)
    {resolution : Double} (hres : 0 < resolution) :
    view.downsample c resolution =
      { view with
        slots := view.slots.map fun slot =>
          slot.downsample c view.collapseTo (.fin 1 / resolution) } := by
  rw [PointPerceptionsOpsView.downsample, if_neg (not_le_zero hres)]

/-- The loop of the source keeps the first point of every voxel, and a second one keeps
them all. -/
theorem downsample_keeps_firsts {c : Conversions F} (hc : FloorsToInt c)
    (view : PointPerceptionsOpsView F) {resolution : Double} (hres : 0 < resolution)
    (hfit : ∀ slot ∈ view.slots, ∀ point ∈ slot.cloud,
      (voxel c view.collapseTo resolution point).isSome) :
    view.downsample c resolution =
        { view with
          slots := view.slots.map fun slot =>
            downsampleInPlace c slot view.collapseTo (.fin 1 / resolution) } ∧
      List.Forall₂ (Thinned (voxel c view.collapseTo resolution)) view.slots
        (view.downsample c resolution).slots ∧
      (view.downsample c resolution).downsample c resolution = view.downsample c resolution := by
  refine ⟨?_, ?_, ?_⟩
  · rw [downsample_of_pos view hres]
    simp only [downsample_eq_inPlace]
  · rw [downsample_of_pos view hres, List.forall₂_map_right_iff, List.forall₂_same]
    exact fun slot hslot => downsample_thinned hc hres (hfit slot hslot)
  · rw [downsample_of_pos view hres, downsample_of_pos _ hres, List.map_map]
    congr 1
    refine List.map_congr_left fun slot _ => ?_
    exact downsample_downsample slot view.collapseTo _

theorem exactConversions_floorsToInt : FloorsToInt exactConversions := by
  intro q i h
  rw [toInt] at h
  split at h
  · exact Option.some.inj h
  · cases h

def exampleView : PointPerceptionsOpsView Double :=
  .create false [some { PointPerceptions.PointPerception.create [] with
    valid := true
    data := [⟨.fin 1, .fin 1, .fin 0⟩, ⟨.fin (6 / 5), .fin 1, .fin 0⟩, ⟨.fin 2, .fin 1, .fin 0⟩] }]

theorem downsample_keeps_firsts_shared :
    (exampleView.downsample exactConversions (.fin (1 / 2))).slots.map Slot.indices = [[0, 2]] ∧
      List.Forall₂ (Thinned (voxel exactConversions {} (.fin (1 / 2)))) exampleView.slots
        (exampleView.downsample exactConversions (.fin (1 / 2))).slots := by
  refine ⟨by decide +kernel, ?_⟩
  have hres : (0 : Double) < .fin (1 / 2) := by decide +kernel
  exact (downsample_keeps_firsts exactConversions_floorsToInt exampleView hres
    (by decide +kernel)).2.1

end EasyNav.VoxelGrids
