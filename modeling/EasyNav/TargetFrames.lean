import EasyNav.PointViews
import EasyNav.Runs

namespace EasyNav.TargetFrames

open EasyNav.ExtendedArithmetic
open EasyNav.DoubleArithmetic
open EasyNav.PointPerceptions
open EasyNav.PointViews
open EasyNav.Runs

universe u

structure FuseCall where
  tf : TfBuffer
  target : String
  exactTime : Bool

inductive Operation (F : Type u) where
  | fuse (call : FuseCall)
  | add (points : Cloud F) (frame : String) (stamp : Stamp)
  | filter (bounds : Bounds) (lazyPostFuse : Bool)
  | downsample (resolution : Double)
  | collapse (dims : List Double)

variable {F : Type u} (c : Conversions F)

/-- Collapses are lazy: the perceptions' data do not change. -/
def step (view : PointPerceptionsOpsView F) : Operation F → PointPerceptionsOpsView F
  | .fuse call => (view.fuse call.tf call.target call.exactTime {}).1
  | .add points frame stamp => view.add points frame stamp
  | .filter bounds lazyPostFuse => view.filter c bounds lazyPostFuse
  | .downsample resolution => view.downsample c resolution
  | .collapse dims => view.collapse c dims true

def IsCreated (view : PointPerceptionsOpsView F) : Prop :=
  ∃ owned perceptions, view = PointPerceptionsOpsView.create owned perceptions

abbrev History (F : Type u) := List (PointPerceptionsOpsView F × Operation F)

def lastFuse : History F → Option FuseCall
  | [] => none
  | (_, .fuse call) :: _ => some call
  | _ :: past => lastFuse past

/-- The perceptions added since the last fuse. -/
def addedSince : History F → List (PointPerception (Cloud F))
  | [] => []
  | (_, .fuse _) :: _ => []
  | (_, .add points frame stamp) :: past =>
      PointPerceptionsOpsView.added points frame stamp :: addedSince past
  | _ :: past => addedSince past

/-- Where a point of a perception may be shown after a fuse: as it is, if the perception is
in the target frame or one of these, or through the transform that the fuse obtained. -/
inductive Placed (call : FuseCall) (taken : List (PointPerception (Cloud F)))
    (p : PointPerception (Cloud F)) (source : Point F) : Point F → Prop
  | inTarget (h : p.frameId = call.target) : Placed call taken p source source
  | transformed {stamp : Time} {transform : Transform}
      (h : call.tf.lookupTransform call.target p.frameId (queryTime call.exactTime p.stamp) =
        some (stamp, transform)) :
      Placed call taken p source (c.point (transform.apply (c.vector source)))
  | asItIs (h : p ∈ taken) : Placed call taken p source source

/-- Every point that comes out is, but for a collapse, a point of a perception at such a
place. -/
def ComesFrom (view : PointPerceptionsOpsView F) (call : FuseCall)
    (taken : List (PointPerception (Cloud F))) : Prop :=
  ∀ point ∈ view.asPoints c, ∃ p source placed,
    some p ∈ view.slots.map Slot.perception ∧ p.valid = true ∧ source ∈ p.data ∧
      Placed c call taken p source placed ∧ point = view.collapseTo.apply placed

/-- How the points of a perception get into the target frame. -/
def Settled (call : FuseCall) (taken : List (PointPerception (Cloud F))) (slot : Slot F) : Prop :=
  ∀ p, slot.perception = some p → p.valid = true → p.data ≠ [] → slot.tfFailed = false →
    (slot.tfValid = false ∧ (p.frameId = call.target ∨ p ∈ taken)) ∨
      (slot.tfValid = true ∧ ∃ stamp, call.tf.lookupTransform call.target p.frameId
        (queryTime call.exactTime p.stamp) = some (stamp, slot.tfTransform))

structure Fused (call : FuseCall) (taken : List (PointPerception (Cloud F)))
    (view : PointPerceptionsOpsView F) : Prop where
  target : view.hasTargetFrame = true
  settled : ∀ slot ∈ view.slots, Settled call taken slot

section Steps

variable {view : PointPerceptionsOpsView F} {call : FuseCall}
  {taken : List (PointPerception (Cloud F))}

theorem fuse_settled (slot : Slot F) :
    Settled call taken (slot.fuse call.tf call.target call.exactTime).1 := by
  intro p hp hvalid hdata hfailed
  rw [Slot.fuse] at hp hfailed ⊢
  cases hperception : slot.perception with
  | none => simp [hperception] at hp
  | some before =>
      simp only [hperception] at hp hfailed ⊢
      generalize before.integratePendingPerceptions call.tf.canTransform = fused at hp hfailed ⊢
      by_cases hempty : (!fused.valid || fused.data.isEmpty) = true
      · simp only [hempty, if_true, Option.some.injEq] at hp
        subst hp
        simp [hvalid, hdata] at hempty
      · simp only [hempty] at hp hfailed ⊢
        by_cases hframe : fused.frameId = call.target
        · simp only [hframe] at hp ⊢
          obtain rfl := Option.some.inj hp
          exact Or.inl ⟨rfl, Or.inl hframe⟩
        · cases hlookup : call.tf.lookupTransform call.target fused.frameId
            (queryTime call.exactTime fused.stamp) with
          | none => simp [hframe, hlookup] at hfailed
          | some found =>
              simp only [hframe, hlookup] at hp ⊢
              obtain rfl := Option.some.inj hp
              exact Or.inr ⟨rfl, found.1, hlookup⟩

theorem Settled.of_same {slot slot' : Slot F} (h : Settled call taken slot)
    (hperception : slot'.perception = slot.perception) (hvalid : slot'.tfValid = slot.tfValid)
    (hfailed : slot'.tfFailed = slot.tfFailed) (htransform : slot'.tfTransform = slot.tfTransform) :
    Settled call taken slot' := by
  intro p hp hpvalid hdata hpfailed
  rw [hvalid, htransform]
  exact h p (hperception.symm.trans hp) hpvalid hdata (hfailed.symm.trans hpfailed)

theorem Settled.mono {taken' : List (PointPerception (Cloud F))} {slot : Slot F}
    (h : Settled call taken slot) (hsub : taken ⊆ taken') : Settled call taken' slot := by
  intro p hp hvalid hdata hfailed
  rcases h p hp hvalid hdata hfailed with ⟨hno, hframe | htaken⟩ | htransform
  · exact Or.inl ⟨hno, Or.inl hframe⟩
  · exact Or.inl ⟨hno, Or.inr (hsub htaken)⟩
  · exact Or.inr htransform

theorem filter_fused (h : Fused call taken view) (bounds : Bounds) (lazyPostFuse : Bool) :
    Fused call taken (view.filter c bounds lazyPostFuse) := by
  rw [PointPerceptionsOpsView.filter]
  split
  · exact ⟨h.target, h.settled⟩
  · refine ⟨h.target, fun slot hslot => ?_⟩
    obtain ⟨before, hbefore, rfl⟩ := List.mem_map.mp hslot
    exact (h.settled before hbefore).of_same rfl rfl rfl rfl

theorem downsample_fused (h : Fused call taken view) (resolution : Double) :
    Fused call taken (view.downsample c resolution) := by
  rw [PointPerceptionsOpsView.downsample]
  split
  · exact h
  · refine ⟨h.target, fun slot hslot => ?_⟩
    obtain ⟨before, hbefore, rfl⟩ := List.mem_map.mp hslot
    rw [Slot.downsample]
    split
    · exact h.settled before hbefore
    · exact (h.settled before hbefore).of_same rfl rfl rfl rfl

theorem add_fused (h : Fused call taken view) (points : Cloud F) (frame : String)
    (stamp : Stamp) :
    Fused call (PointPerceptionsOpsView.added points frame stamp :: taken)
      (view.add points frame stamp) := by
  have hkept : ∀ slot ∈ view.slots,
      Settled call (PointPerceptionsOpsView.added points frame stamp :: taken) slot :=
    fun slot hslot => (h.settled slot hslot).mono (List.subset_cons_self _ _)
  rw [PointPerceptionsOpsView.add]
  split
  · exact ⟨h.target, hkept⟩
  · refine ⟨h.target, fun slot hslot => ?_⟩
    rcases List.mem_append.mp hslot with hslot | hslot
    · exact hkept slot hslot
    · rw [List.mem_singleton.mp hslot]
      rintro p hp - - -
      obtain rfl := Option.some.inj hp
      exact Or.inl ⟨rfl, Or.inr List.mem_cons_self⟩

/-- What settled the perceptions of a view is its last fuse. -/
theorem run_fused {past : History F} (hrun : Run (step c) IsCreated view past)
    (hlast : lastFuse past = some call) : Fused call (addedSince past) view := by
  induction hrun with
  | init h => contradiction
  | @next view past hrun operation ih =>
      cases operation with
      | fuse latest =>
          obtain rfl := Option.some.inj hlast
          refine ⟨rfl, fun slot hslot => ?_⟩
          obtain ⟨fused, hfused, rfl⟩ := List.mem_map.mp hslot
          obtain ⟨before, -, rfl⟩ := List.mem_map.mp hfused
          exact fuse_settled before
      | add points frame stamp => exact add_fused (ih hlast) points frame stamp
      | filter bounds lazyPostFuse => exact filter_fused c (ih hlast) bounds lazyPostFuse
      | downsample resolution => exact downsample_fused c (ih hlast) resolution
      | collapse dims => exact ⟨(ih hlast).target, (ih hlast).settled⟩

/-- Every point of a fused view comes from a perception in the target frame, as it is,
or through the transform that the last fuse obtained, or from a perception added since, as
it is. -/
theorem shown_in_target_frame {past : History F} (hrun : Run (step c) IsCreated view past)
    (hlast : lastFuse past = some call) : ComesFrom c view call (addedSince past) := by
  have h := run_fused c hrun hlast
  intro point hpoint
  obtain ⟨slot, hslot, source, hsource, rfl⟩ := view.mem_asPoints c hpoint
  rw [h.target] at hsource ⊢
  obtain ⟨hcloud, hfailed⟩ := Slot.mem_cloud_of_selected hsource
  obtain ⟨p, hp, hvalid, hdata⟩ := Slot.mem_cloud_iff.mp hcloud
  have hmem : some p ∈ view.slots.map Slot.perception := List.mem_map.mpr ⟨slot, hslot, hp⟩
  rcases h.settled slot hslot p hp hvalid (List.ne_nil_of_mem hdata) hfailed with
    ⟨hno, hplace⟩ | ⟨htransformed, stamp, hlookup⟩
  · refine ⟨p, source, source, hmem, hvalid, hdata, ?_, ?_⟩
    · rcases hplace with hframe | htaken
      · exact .inTarget hframe
      · exact .asItIs htaken
    · simp [PointPerceptionsOpsView.output, Slot.coordinates, hno]
  · refine ⟨p, source, _, hmem, hvalid, hdata, .transformed hlookup, ?_⟩
    simp [PointPerceptionsOpsView.output, Slot.coordinates, htransformed]

end Steps

def toMap : FuseCall := ⟨.empty, "map", false⟩

def addedInOdom : List (Operation Double) :=
  [.fuse toMap, .add [⟨.fin 1, .fin 0, .fin 0⟩] "odom" ⟨1, .ros⟩]

def emptyView : PointPerceptionsOpsView Double := .create true []

theorem addedInOdom_run :
    Run (step exactConversions) IsCreated (addedInOdom.foldl (step exactConversions) emptyView)
      (history (step exactConversions) emptyView addedInOdom []) :=
  (Run.init ⟨true, [], rfl⟩).foldl addedInOdom

theorem shown_in_target_frame_odom :
    ComesFrom exactConversions (addedInOdom.foldl (step exactConversions) emptyView) toMap
      (addedSince (history (step exactConversions) emptyView addedInOdom [])) :=
  shown_in_target_frame exactConversions addedInOdom_run rfl

/-- What comes out is not in the target frame only. -/
theorem shown_in_other_frame :
    ¬ ∀ (view : PointPerceptionsOpsView Double) (past : History Double) (call : FuseCall),
      Run (step exactConversions) IsCreated view past → lastFuse past = some call →
        ComesFrom exactConversions view call [] := by
  intro h
  have hcomes := h _ _ toMap addedInOdom_run rfl
  have hshown : (⟨.fin 1, .fin 0, .fin 0⟩ : Point Double) ∈
      (addedInOdom.foldl (step exactConversions) emptyView).asPoints exactConversions := by
    decide +kernel
  obtain ⟨p, source, placed, hmem, -, -, hplaced, -⟩ := hcomes _ hshown
  have hperception : p = PointPerceptionsOpsView.added [⟨.fin 1, .fin 0, .fin 0⟩] "odom"
      ⟨1, .ros⟩ := by
    obtain ⟨slot, hslot, hp⟩ := List.mem_map.mp hmem
    obtain rfl := List.mem_singleton.mp hslot
    exact (Option.some.inj hp).symm
  cases hplaced with
  | inTarget hframe =>
      rw [hperception] at hframe
      exact absurd hframe (by decide)
  | transformed hlookup => contradiction
  | asItIs htaken => exact absurd htaken List.not_mem_nil

end EasyNav.TargetFrames
