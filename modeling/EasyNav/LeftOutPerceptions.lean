import EasyNav.ChainedFilters
import EasyNav.TargetFrames

namespace EasyNav.LeftOutPerceptions

open EasyNav.ExtendedArithmetic
open EasyNav.DoubleArithmetic
open EasyNav.PointPerceptions
open EasyNav.PointViews
open EasyNav.ChainedFilters
open EasyNav.TargetFrames (FuseCall)

universe u

variable {F : Type u} (c : Conversions F)

def fuseSlot (slot : Slot F) (calls : List FuseCall) : Slot F :=
  calls.foldl (fun slot call => (slot.fuse call.tf call.target call.exactTime).1) slot

def fuseAll (view : PointPerceptionsOpsView F) (calls : List FuseCall) :
    PointPerceptionsOpsView F :=
  calls.foldl (fun view call => (view.fuse call.tf call.target call.exactTime {}).1) view

/-- At most one filter. -/
def filterOnce (view : PointPerceptionsOpsView F) : Option FilterCall → PointPerceptionsOpsView F
  | none => view
  | some call => view.filter c call.bounds call.lazyPostFuse

/-- Fuses up to one that fails, and on to one that obtains the transform, with at most one
filter between them. -/
structure Calls where
  before : List FuseCall
  failing : FuseCall
  between : List FuseCall
  filter : Option FilterCall
  after : List FuseCall
  last : FuseCall

namespace Calls

def upToFailing (calls : Calls) : List FuseCall := calls.before ++ [calls.failing]

def upToFilter (calls : Calls) : List FuseCall := calls.upToFailing ++ calls.between

def sinceFilter (calls : Calls) : List FuseCall := calls.after ++ [calls.last]

def fuses (calls : Calls) : List FuseCall := calls.upToFilter ++ calls.sinceFilter

def run (calls : Calls) (view : PointPerceptionsOpsView F) : PointPerceptionsOpsView F :=
  fuseAll (filterOnce c (fuseAll view calls.upToFilter) calls.filter) calls.sinceFilter

end Calls

structure Unfiltered (view : PointPerceptionsOpsView F) : Prop where
  indices : ∀ slot ∈ view.slots, slot.indices = List.range slot.cloud.length
  postFilter : view.postFilter = none

def Unchanged : Slot F → List FuseCall → Prop
  | _, [] => True
  | slot, call :: calls =>
      (fuseSlot slot [call]).cloud = slot.cloud ∧ Unchanged (fuseSlot slot [call]) calls

/-- A fuse leaves the perception out, and the last one obtains its transform. Its data are
finite and do not change. -/
structure LeftOut (slot : Slot F) (calls : Calls) : Prop where
  failed : (fuseSlot slot calls.upToFailing).tfFailed = true
  obtained : (fuseSlot slot calls.fuses).tfValid = true
  unchanged : Unchanged slot calls.fuses
  finite : ∀ point ∈ slot.cloud, (c.vector point).isFinite = true

def shown (view : PointPerceptionsOpsView F) (slot : Slot F) : List Nat :=
  if view.hasTargetFrame && slot.tfFailed then []
  else
    slot.indices.filter fun k =>
      slot.cloud[k]?.any fun point => view.passes (slot.coordinates c view.hasTargetFrame point)

def shownPoint (view : PointPerceptionsOpsView F) (slot : Slot F) (k : Nat) : Option (Point F) :=
  slot.cloud[k]?.map fun point =>
    view.output c (slot.coordinates c view.hasTargetFrame point)

/-- Each point of the perception that satisfies the bounds in the target frame is shown once. -/
def ComesBack (view : PointPerceptionsOpsView F) (slot : Slot F) (filter : Option FilterCall) :
    Prop :=
  ∀ k point, slot.cloud[k]? = some point →
    (∀ call ∈ filter, Satisfies call.bounds (slot.coordinates c true point)) →
      (shown c view slot).count k = 1

/-- An eager filter finds the perception in the target frame, and each point within the bounds
that the last fuse places within them. -/
def KeptByFilter (slot : Slot F) (calls : Calls) : Prop :=
  ∀ call ∈ calls.filter, call.lazyPostFuse = false → ∀ point ∈ slot.cloud,
    Satisfies call.bounds ((fuseSlot slot calls.fuses).coordinates c true point) →
      (fuseSlot slot calls.upToFilter).tfFailed = false ∧
        Satisfies call.bounds ((fuseSlot slot calls.upToFilter).coordinates c true point)

section Shown

variable {view : PointPerceptionsOpsView F} {slot : Slot F}

theorem asPoints_eq_shown (view : PointPerceptionsOpsView F) :
    view.asPoints c = view.slots.flatMap fun slot =>
      (shown c view slot).filterMap (shownPoint c view slot) := by
  rw [PointPerceptionsOpsView.asPoints]
  refine congrArg (view.slots.flatMap ·) (funext fun slot => ?_)
  rw [Slot.selected, shown]
  split
  · rfl
  · rw [List.filterMap_filterMap, List.filterMap_filter]
    refine congrArg (slot.indices.filterMap ·) (funext fun k => ?_)
    rw [shownPoint]
    cases slot.cloud[k]? with
    | none => rfl
    | some point =>
        by_cases hpasses : view.passes (slot.coordinates c view.hasTargetFrame point) = true
        · simp [hpasses]
        · simp [hpasses]

end Shown

section Fusing

variable {slot : Slot F} {calls rest : List FuseCall}

theorem fuse_indices (slot : Slot F) (call : FuseCall) :
    (slot.fuse call.tf call.target call.exactTime).1.indices = slot.indices := by
  rw [Slot.fuse]
  split
  · rfl
  · dsimp only
    split
    · rfl
    · split
      · rfl
      · split <;> rfl

theorem fuseSlot_indices (slot : Slot F) (calls : List FuseCall) :
    (fuseSlot slot calls).indices = slot.indices := by
  induction calls generalizing slot with
  | nil => rfl
  | cons call calls ih => exact (ih _).trans (fuse_indices slot call)

theorem fuseSlot_append (slot : Slot F) (calls rest : List FuseCall) :
    fuseSlot slot (calls ++ rest) = fuseSlot (fuseSlot slot calls) rest := List.foldl_append

theorem not_failed_of_valid {call : FuseCall}
    (h : (slot.fuse call.tf call.target call.exactTime).1.tfValid = true) :
    (slot.fuse call.tf call.target call.exactTime).1.tfFailed = false := by
  rw [Slot.fuse] at h ⊢
  split
  · rfl
  · dsimp only at h ⊢
    split
    · rfl
    · split
      · rfl
      · split <;> simp_all

theorem fuse_of_indices (slot : Slot F) (indices : List Nat) (call : FuseCall) :
    ({ slot with indices := indices }.fuse call.tf call.target call.exactTime).1 =
      { (slot.fuse call.tf call.target call.exactTime).1 with indices := indices } := by
  rw [Slot.fuse, Slot.fuse]
  dsimp only
  split
  · rfl
  · split
    · rfl
    · split
      · rfl
      · split <;> rfl

theorem fuseSlot_of_indices (slot : Slot F) (indices : List Nat) (calls : List FuseCall) :
    fuseSlot { slot with indices := indices } calls =
      { fuseSlot slot calls with indices := indices } := by
  induction calls generalizing slot with
  | nil => rfl
  | cons call calls ih =>
      change fuseSlot ({ slot with indices := indices }.fuse _ _ _).1 calls = _
      rw [fuse_of_indices, ih]
      rfl

theorem Unchanged.cloud_eq (h : Unchanged slot calls) :
    (fuseSlot slot calls).cloud = slot.cloud := by
  induction calls generalizing slot with
  | nil => rfl
  | cons call calls ih => exact (ih h.2).trans h.1

theorem Unchanged.of_append (h : Unchanged slot (calls ++ rest)) : Unchanged slot calls := by
  induction calls generalizing slot with
  | nil => trivial
  | cons call calls ih => exact ⟨h.1, ih h.2⟩

theorem mem_filter_indices {bounds : Bounds} {k : Nat} :
    k ∈ (slot.filter c true bounds).indices ↔ slot.tfFailed = false ∧ k ∈ slot.indices ∧
      ∃ point, slot.cloud[k]? = some point ∧
        bounds.contains (slot.coordinates c true point) = true := by
  rw [Slot.filter]
  dsimp only
  split
  · rename_i hleft
    simp only [Bool.true_and, Bool.or_eq_true, List.isEmpty_iff] at hleft
    refine iff_of_false List.not_mem_nil ?_
    rintro ⟨hvalid, hmem, point, hpoint, -⟩
    rcases hleft with (hcloud | hindices) | hfailed
    · simp [hcloud] at hpoint
    · simp [hindices] at hmem
    · simp [hvalid] at hfailed
  · rename_i hkept
    simp only [Bool.true_and, Bool.or_eq_true, not_or, Bool.not_eq_true] at hkept
    rw [and_iff_right hkept.2, List.mem_filter]
    refine and_congr_right fun _ => ?_
    cases slot.cloud[k]? with
    | none => simp
    | some point => simp

end Fusing

section Views

variable {view : PointPerceptionsOpsView F} {calls : List FuseCall}

theorem fuseAll_slots (view : PointPerceptionsOpsView F) (calls : List FuseCall) :
    (fuseAll view calls).slots = view.slots.map fun slot => fuseSlot slot calls := by
  induction calls generalizing view with
  | nil => exact (List.map_id _).symm
  | cons call calls ih =>
      change (fuseAll (view.fuse _ _ _ _).1 calls).slots = _
      rw [ih, PointPerceptionsOpsView.fuse]
      dsimp only
      rw [List.map_map, List.map_map]
      rfl

theorem fuseAll_postFilter (view : PointPerceptionsOpsView F) (calls : List FuseCall) :
    (fuseAll view calls).postFilter = view.postFilter := by
  induction calls generalizing view with
  | nil => rfl
  | cons call calls ih => exact ih _

theorem fuseAll_hasTargetFrame (h : calls ≠ []) :
    (fuseAll view calls).hasTargetFrame = true := by
  obtain ⟨before, call, rfl⟩ := (List.eq_nil_or_concat calls).resolve_left h
  rw [fuseAll, List.concat_eq_append, List.foldl_append]
  rfl

/-- How often an index is shown, once its perception is in the target frame. -/
theorem count_shown_iff {slot : Slot F} (hfused : view.hasTargetFrame = true)
    (hfailed : slot.tfFailed = false) (hnodup : slot.indices.Nodup) {k : Nat} {point : Point F}
    (hpoint : slot.cloud[k]? = some point) :
    (shown c view slot).count k = 1 ↔
      k ∈ slot.indices ∧ view.passes (slot.coordinates c true point) = true := by
  have hmem : k ∈ shown c view slot ↔
      k ∈ slot.indices ∧ view.passes (slot.coordinates c true point) = true := by
    rw [shown, hfailed, Bool.and_false, if_neg Bool.false_ne_true, List.mem_filter, hpoint,
      hfused, Option.any_some]
  have hshown : (shown c view slot).Nodup := by
    rw [shown, hfailed, Bool.and_false, if_neg Bool.false_ne_true]
    exact hnodup.filter _
  rw [← hmem]
  constructor
  · intro hcount
    exact List.count_pos_iff.mp (by omega)
  · exact List.count_eq_one_of_mem hshown

end Views

section Recovering

variable {c} {view : PointPerceptionsOpsView F} {slot : Slot F} {calls : Calls} {i : Nat}

/-- The perception after all calls, with the indices that the filter has left of it. -/
def recovered (slot : Slot F) (calls : Calls) (indices : List Nat) : Slot F :=
  { fuseSlot slot calls.fuses with indices := indices }

theorem upToFilter_ne_nil (calls : Calls) : calls.upToFilter ≠ [] := by
  simp [Calls.upToFilter, Calls.upToFailing]

theorem sinceFilter_ne_nil (calls : Calls) : calls.sinceFilter ≠ [] := by
  simp [Calls.sinceFilter]

theorem fuseSlot_recovered (indices : List Nat) :
    fuseSlot { fuseSlot slot calls.upToFilter with indices := indices } calls.sinceFilter =
      recovered slot calls indices := by
  rw [fuseSlot_of_indices, ← fuseSlot_append]
  rfl

theorem recovered_self : recovered slot calls slot.indices = fuseSlot slot calls.fuses := by
  rw [recovered, ← fuseSlot_indices slot calls.fuses]

theorem recovered_tfFailed (h : LeftOut c slot calls) (indices : List Nat) :
    (recovered slot calls indices).tfFailed = false := by
  have hobtained := h.obtained
  have hfuses : calls.fuses = (calls.upToFilter ++ calls.after) ++ [calls.last] := by
    rw [Calls.fuses, Calls.sinceFilter, List.append_assoc]
  change (fuseSlot slot calls.fuses).tfFailed = false
  rw [hfuses, fuseSlot_append] at hobtained ⊢
  exact not_failed_of_valid hobtained

theorem recovered_cloud (h : LeftOut c slot calls) (indices : List Nat) :
    (recovered slot calls indices).cloud = slot.cloud := h.unchanged.cloud_eq

theorem run_slot_of_same {filtered : PointPerceptionsOpsView F}
    (hslots : filtered.slots = (fuseAll view calls.upToFilter).slots)
    (hslot : view.slots[i]? = some slot) :
    (fuseAll filtered calls.sinceFilter).slots[i]? =
      some (recovered slot calls slot.indices) := by
  rw [fuseAll_slots, hslots, fuseAll_slots, List.getElem?_map, List.getElem?_map, hslot,
    recovered_self, Calls.fuses, fuseSlot_append]
  rfl

/-- What is left of the perception, and the lazy filter, after the calls. -/
structure Ends (i : Nat) (slot : Slot F) (calls : Calls) (indices : List Nat)
    (postFilter : Option Bounds) (final : PointPerceptionsOpsView F) : Prop where
  slots : final.slots[i]? = some (recovered slot calls indices)
  hasTargetFrame : final.hasTargetFrame = true
  postFilter : final.postFilter = postFilter
  nodup : indices.Nodup

theorem ends_of_same (hview : Unfiltered view) (hslot : view.slots[i]? = some slot)
    {filtered : PointPerceptionsOpsView F}
    (hslots : filtered.slots = (fuseAll view calls.upToFilter).slots) :
    Ends i slot calls slot.indices filtered.postFilter
      (fuseAll filtered calls.sinceFilter) := by
  constructor
  · exact run_slot_of_same hslots hslot
  · exact fuseAll_hasTargetFrame (sinceFilter_ne_nil calls)
  · exact fuseAll_postFilter _ _
  · rw [hview.indices slot (List.mem_of_getElem? hslot)]
    exact List.nodup_range

theorem run_of_not_eager (hview : Unfiltered view) (hslot : view.slots[i]? = some slot)
    (hlazy : ∀ call ∈ calls.filter, call.lazyPostFuse = true) :
    Ends i slot calls slot.indices (calls.filter.map FilterCall.bounds)
      (calls.run c view) := by
  rw [Calls.run]
  cases hfilter : calls.filter with
  | none =>
      have hends : Ends i slot calls slot.indices _ _ := ends_of_same hview hslot rfl
      rw [fuseAll_postFilter, hview.postFilter] at hends
      exact hends
  | some call =>
      have hfused : (fuseAll view calls.upToFilter).hasTargetFrame = true :=
        fuseAll_hasTargetFrame (upToFilter_ne_nil calls)
      have hstored : (fuseAll view calls.upToFilter).filter c call.bounds call.lazyPostFuse =
          { fuseAll view calls.upToFilter with postFilter := some call.bounds } := by
        rw [PointPerceptionsOpsView.filter, hfused, hlazy call hfilter]
        rfl
      have hslots : { fuseAll view calls.upToFilter with postFilter := some call.bounds }.slots =
          (fuseAll view calls.upToFilter).slots := rfl
      rw [filterOnce, hstored]
      exact ends_of_same hview hslot hslots

theorem run_of_eager (hview : Unfiltered view) (hslot : view.slots[i]? = some slot)
    {call : FilterCall} (hfilter : calls.filter = some call) (heager : call.lazyPostFuse = false) :
    Ends i slot calls
      ((fuseSlot slot calls.upToFilter).filter c true call.bounds).indices none
      (calls.run c view) := by
  have hfused : (fuseAll view calls.upToFilter).hasTargetFrame = true :=
    fuseAll_hasTargetFrame (upToFilter_ne_nil calls)
  rw [Calls.run, hfilter, filterOnce, PointPerceptionsOpsView.filter, hfused, heager]
  constructor
  · rw [fuseAll_slots, ← fuseSlot_recovered]
    change ((((fuseAll view calls.upToFilter).slots.map _).map _)[i]?) = _
    rw [fuseAll_slots, List.getElem?_map, List.getElem?_map, List.getElem?_map, hslot]
    rfl
  · exact fuseAll_hasTargetFrame (sinceFilter_ne_nil calls)
  · exact fuseAll_postFilter _ _
  · have hindices : (fuseSlot slot calls.upToFilter).indices.Nodup := by
      rw [fuseSlot_indices, hview.indices slot (List.mem_of_getElem? hslot)]
      exact List.nodup_range
    rw [Slot.filter]
    dsimp only
    split
    · exact List.nodup_nil
    · exact hindices.filter _

theorem coordinates_isFinite (h : LeftOut c slot calls) {slot' : Slot F} {point : Point F}
    (hpoint : point ∈ slot.cloud) : (slot'.coordinates c true point).isFinite = true := by
  rw [Slot.coordinates]
  split
  · exact slot'.tfTransform.finite _ (h.finite point hpoint)
  · exact h.finite point hpoint

theorem satisfies_iff_contains (h : LeftOut c slot calls) (slot' : Slot F) {point : Point F}
    (hpoint : point ∈ slot.cloud) (bounds : Bounds) :
    bounds.contains (slot'.coordinates c true point) = true ↔
      Satisfies bounds (slot'.coordinates c true point) :=
  contains_iff (coordinates_isFinite h hpoint)

theorem Ends.comesBack_iff (h : LeftOut c slot calls) {indices : List Nat}
    {postFilter : Option Bounds} {final : PointPerceptionsOpsView F}
    (hends : Ends i slot calls indices postFilter final) :
    ComesBack c final (recovered slot calls indices) calls.filter ↔
      ∀ k point, slot.cloud[k]? = some point →
        (∀ call ∈ calls.filter, Satisfies call.bounds
          ((recovered slot calls indices).coordinates c true point)) →
          k ∈ indices ∧ ∀ bounds ∈ postFilter, Satisfies bounds
            ((recovered slot calls indices).coordinates c true point) := by
  have hfailed := recovered_tfFailed h indices
  have hcloud := recovered_cloud h indices
  rw [ComesBack, hcloud]
  refine forall₄_congr fun k point hpoint _ => ?_
  rw [count_shown_iff c hends.hasTargetFrame hfailed hends.nodup (hcloud ▸ hpoint)]
  refine and_congr_right fun _ => ?_
  rw [PointPerceptionsOpsView.passes, hends.postFilter]
  have hmem := List.mem_of_getElem? hpoint
  cases postFilter with
  | none => simp
  | some bounds =>
      rw [Option.all_some, satisfies_iff_contains h _ hmem]
      simp

theorem comesBack_of_not_eager (hview : Unfiltered view) (hslot : view.slots[i]? = some slot)
    (h : LeftOut c slot calls) (hlazy : ∀ call ∈ calls.filter, call.lazyPostFuse = true) :
    ComesBack c (calls.run c view) (recovered slot calls slot.indices) calls.filter := by
  rw [(run_of_not_eager hview hslot hlazy).comesBack_iff h]
  intro k point hpoint hsatisfies
  refine ⟨?_, fun bounds hbounds => ?_⟩
  · rw [hview.indices slot (List.mem_of_getElem? hslot), List.mem_range]
    exact (List.getElem?_eq_some_iff.mp hpoint).1
  · obtain ⟨call, hcall, rfl⟩ := Option.mem_map.mp hbounds
    exact hsatisfies call hcall

theorem mem_kept_iff (hview : Unfiltered view) (hslot : view.slots[i]? = some slot)
    (h : LeftOut c slot calls) (bounds : Bounds) {k : Nat} {point : Point F}
    (hpoint : slot.cloud[k]? = some point) :
    k ∈ ((fuseSlot slot calls.upToFilter).filter c true bounds).indices ↔
      (fuseSlot slot calls.upToFilter).tfFailed = false ∧
        Satisfies bounds ((fuseSlot slot calls.upToFilter).coordinates c true point) := by
  have hcloud : (fuseSlot slot calls.upToFilter).cloud = slot.cloud :=
    h.unchanged.of_append.cloud_eq
  have hindices : (fuseSlot slot calls.upToFilter).indices = List.range slot.cloud.length := by
    rw [fuseSlot_indices, hview.indices slot (List.mem_of_getElem? hslot)]
  have hk : k ∈ List.range slot.cloud.length :=
    List.mem_range.mpr (List.getElem?_eq_some_iff.mp hpoint).1
  rw [mem_filter_indices, hcloud, hindices, and_iff_right hk, hpoint]
  simp only [Option.some.injEq, exists_eq_left']
  rw [satisfies_iff_contains h _ (List.mem_of_getElem? hpoint)]

theorem comesBack_of_eager_iff (hview : Unfiltered view) (hslot : view.slots[i]? = some slot)
    (h : LeftOut c slot calls) {call : FilterCall} (hfilter : calls.filter = some call)
    (heager : call.lazyPostFuse = false) :
    ComesBack c (calls.run c view) (recovered slot calls
        ((fuseSlot slot calls.upToFilter).filter c true call.bounds).indices) calls.filter ↔
      KeptByFilter c slot calls := by
  rw [(run_of_eager hview hslot hfilter heager).comesBack_iff h, KeptByFilter, hfilter]
  constructor
  · intro hback _ hcall _ point hpoint hsatisfies
    obtain rfl := Option.some.inj hcall
    obtain ⟨k, hk⟩ := List.mem_iff_getElem?.mp hpoint
    refine (mem_kept_iff hview hslot h call.bounds hk).mp (hback k point hk fun _ hcall' => ?_).1
    obtain rfl := Option.some.inj hcall'
    exact hsatisfies
  · intro hkept k point hpoint hsatisfies
    refine ⟨(mem_kept_iff hview hslot h call.bounds hpoint).mpr ?_, nofun⟩
    exact hkept call rfl heager point (List.mem_of_getElem? hpoint) (hsatisfies call rfl)

end Recovering

/-- A perception that was left out comes back with all its points exactly when no eager filter
has taken any of them out. -/
theorem comes_back_iff {c : Conversions F} {view : PointPerceptionsOpsView F}
    (hview : Unfiltered view) {i : Nat} {slot : Slot F} (hslot : view.slots[i]? = some slot)
    (calls : Calls) (h : LeftOut c slot calls) :
    (calls.run c view).asPoints c = ((calls.run c view).slots.flatMap fun slot =>
        (shown c (calls.run c view) slot).filterMap (shownPoint c (calls.run c view) slot)) ∧
      ∃ slot', (calls.run c view).slots[i]? = some slot' ∧ slot'.cloud = slot.cloud ∧
        (ComesBack c (calls.run c view) slot' calls.filter ↔
          KeptByFilter c slot calls) := by
  refine ⟨asPoints_eq_shown c _, ?_⟩
  by_cases heager : ∃ call, calls.filter = some call ∧ call.lazyPostFuse = false
  · obtain ⟨call, hfilter, heager⟩ := heager
    exact ⟨_, (run_of_eager hview hslot hfilter heager).slots, recovered_cloud h _,
      comesBack_of_eager_iff hview hslot h hfilter heager⟩
  · have hlazy : ∀ call ∈ calls.filter, call.lazyPostFuse = true := by
      intro call hcall
      by_contra hnot
      exact heager ⟨call, hcall, Bool.eq_false_of_not_eq_true hnot⟩
    refine ⟨_, (run_of_not_eager hview hslot hlazy).slots, recovered_cloud h _, ?_⟩
    refine iff_of_true (comesBack_of_not_eager hview hslot h hlazy) fun call hcall hnot => ?_
    rw [hlazy call hcall] at hnot
    cases hnot

def identityTf : TfBuffer where
  canTransform _ _ := true
  lookupTransform _ _ _ := some (1, .identity)

def laserSlot : Slot Double :=
  .create (some { PointPerception.create [] with
    valid := true
    frameId := "laser"
    data := [⟨.fin 1, .fin 2, .fin 0⟩] })

def laserView : PointPerceptionsOpsView Double := { owned := true, slots := [laserSlot] }

/-- The first fuse finds no transform, the second one does; the bounds let everything pass. -/
def laserCalls (lazyPostFuse : Bool) : Calls where
  before := []
  failing := { tf := .empty, target := "base", exactTime := false }
  between := []
  filter := some { bounds := { min := [], max := [] }, lazyPostFuse := lazyPostFuse }
  after := []
  last := { tf := identityTf, target := "base", exactTime := false }

theorem laserView_unfiltered : Unfiltered laserView := ⟨by decide +kernel, rfl⟩

theorem laserSlot_leftOut (lazyPostFuse : Bool) :
    LeftOut exactConversions laserSlot (laserCalls lazyPostFuse) := by
  constructor
  · decide +kernel +revert
  · decide +kernel +revert
  · exact ⟨by decide +kernel +revert, by decide +kernel +revert, trivial⟩
  · decide +kernel

theorem comes_back_iff_lazy :
    ((laserCalls true).run exactConversions laserView).asPoints exactConversions =
        [⟨.fin 1, .fin 2, .fin 0⟩] ∧
      ∃ slot', ((laserCalls true).run exactConversions laserView).slots[0]? = some slot' ∧
        slot'.cloud = laserSlot.cloud ∧
        (ComesBack exactConversions ((laserCalls true).run exactConversions laserView) slot'
            (laserCalls true).filter ↔
          KeptByFilter exactConversions laserSlot (laserCalls true)) :=
  ⟨by decide +kernel, (comes_back_iff laserView_unfiltered rfl (laserCalls true)
    (laserSlot_leftOut true)).2⟩

/-- With an eager filter, nothing comes back. -/
theorem point_lost_by_eager_filter :
    Unfiltered laserView ∧ LeftOut exactConversions laserSlot (laserCalls false) ∧
      ((laserCalls false).run exactConversions laserView).asPoints exactConversions = [] ∧
      ∃ slot', ((laserCalls false).run exactConversions laserView).slots[0]? = some slot' ∧
        slot'.cloud = laserSlot.cloud ∧
        ¬ ComesBack exactConversions ((laserCalls false).run exactConversions laserView) slot'
          (laserCalls false).filter := by
  refine ⟨laserView_unfiltered, laserSlot_leftOut false, by decide +kernel, _, rfl, rfl, ?_⟩
  intro hback
  have hcount := hback 0 ⟨.fin 1, .fin 2, .fin 0⟩ rfl fun call hcall => ?_
  · exact absurd hcount (by decide +kernel)
  · obtain rfl := Option.some.inj hcall
    decide +kernel

end EasyNav.LeftOutPerceptions
