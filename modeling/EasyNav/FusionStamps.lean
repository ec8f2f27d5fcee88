import EasyNav.PointViews

namespace EasyNav.FusionStamps

open EasyNav.ExtendedArithmetic
open EasyNav.DoubleArithmetic
open EasyNav.PointPerceptions
open EasyNav.PointViews

universe u

variable {F : Type u}

/-- The perceptions as a fuse finds them, with their pending clouds integrated. -/
def integrated (tf : TfBuffer) (view : PointPerceptionsOpsView F) :
    List (PointPerception (Cloud F)) :=
  view.slots.filterMap fun slot =>
    slot.perception.map fun p => p.integratePendingPerceptions tf.canTransform

/-- The perception has points, and they can be brought into the target frame. -/
structure IsFused (tf : TfBuffer) (target : String) (p : PointPerception (Cloud F)) : Prop where
  valid : p.valid = true
  points : p.data ≠ []
  placed : p.frameId = target ∨
    (tf.lookupTransform target p.frameId (some p.stamp)).isSome = true

/-- What `fuse` writes to a stamp that is zero. -/
def fusionStamp (view : PointPerceptionsOpsView F) (tf : TfBuffer) (target : String)
    (zero : Stamp) : Stamp :=
  (view.fuse tf target true zero).2

/-- The newest stamp of the fused perceptions comes back, and zero only if none has
another. -/
structure DatesFusion (view : PointPerceptionsOpsView F) (tf : TfBuffer) (target : String)
    (zero : Stamp) : Prop where
  newest : (∃ p ∈ integrated tf view, IsFused tf target p ∧ p.stamp.nanoseconds ≠ 0) →
    (∃ p ∈ integrated tf view, IsFused tf target p ∧ p.stamp = fusionStamp view tf target zero) ∧
      ∀ p ∈ integrated tf view, IsFused tf target p →
        p.stamp.nanoseconds ≤ (fusionStamp view tf target zero).nanoseconds
  zeroOnly : (fusionStamp view tf target zero).nanoseconds = 0 →
    ∀ p ∈ integrated tf view, IsFused tf target p → p.stamp.nanoseconds = 0

/-- Every fused perception is as old as one with a stamp that is not in the target frame, or
none has a stamp. -/
def NoneNewer (view : PointPerceptionsOpsView F) (tf : TfBuffer) (target : String) : Prop :=
  (∀ p ∈ integrated tf view, IsFused tf target p →
    ∃ q ∈ integrated tf view, IsFused tf target q ∧ q.frameId ≠ target ∧
      q.stamp.nanoseconds ≠ 0 ∧ p.stamp.nanoseconds ≤ q.stamp.nanoseconds) ∨
    ∀ p ∈ integrated tf view, IsFused tf target p → p.stamp.nanoseconds = 0

section Stamps

theorem updateLatestStamp_cases {stamp candidate : Stamp}
    (hclock : stamp.nanoseconds = 0 ∨ stamp.clockType = candidate.clockType) :
    (updateLatestStamp stamp candidate = stamp ∧
        (candidate.nanoseconds = 0 ∨
          stamp.nanoseconds ≠ 0 ∧ candidate.nanoseconds ≤ stamp.nanoseconds)) ∨
      updateLatestStamp stamp candidate = candidate ∧ candidate.nanoseconds ≠ 0 ∧
        (stamp.nanoseconds = 0 ∨ stamp.nanoseconds ≤ candidate.nanoseconds) := by
  rw [updateLatestStamp]
  split
  · rename_i hzero
    exact Or.inl ⟨rfl, Or.inl hzero⟩
  · rename_i hcandidate
    split
    · rename_i hstamp
      exact Or.inr ⟨rfl, hcandidate, Or.inl hstamp⟩
    · rename_i hstamp
      rw [if_pos (hclock.resolve_left hstamp)]
      split
      · rename_i hnewer
        exact Or.inr ⟨rfl, hcandidate, Or.inr hnewer.le⟩
      · rename_i holder
        exact Or.inl ⟨rfl, Or.inr ⟨hstamp, not_lt.mp holder⟩⟩

/-- The stamp comes from where it was or from a candidate, and none is newer. -/
theorem foldl_updateLatestStamp {clock : ClockType} (candidates : List Stamp)
    (hclock : ∀ candidate ∈ candidates, candidate.clockType = clock) {stamp : Stamp}
    (hstamp : stamp.nanoseconds = 0 ∨ stamp.clockType = clock) :
    let latest := candidates.foldl updateLatestStamp stamp
    (latest = stamp ∨ latest ∈ candidates ∧ latest.nanoseconds ≠ 0) ∧
      ∀ candidate, candidate = stamp ∨ candidate ∈ candidates → candidate.nanoseconds ≠ 0 →
        latest.nanoseconds ≠ 0 ∧ candidate.nanoseconds ≤ latest.nanoseconds := by
  induction candidates generalizing stamp with
  | nil =>
      refine ⟨Or.inl rfl, ?_⟩
      rintro candidate (rfl | hmem) hne
      · exact ⟨hne, le_rfl⟩
      · exact absurd hmem List.not_mem_nil
  | cons first candidates ih =>
      obtain ⟨hfirst, hrest⟩ := List.forall_mem_cons.mp hclock
      rw [List.foldl_cons]
      rcases updateLatestStamp_cases (hfirst ▸ hstamp) with ⟨hkept, hold⟩ | ⟨htaken, hne, hnew⟩
      · rw [hkept]
        obtain ⟨hfrom, hle⟩ := ih hrest hstamp
        refine ⟨hfrom.imp_right fun h => ⟨List.mem_cons_of_mem _ h.1, h.2⟩, ?_⟩
        rintro candidate (rfl | hmem) hcandidate
        · exact hle candidate (Or.inl rfl) hcandidate
        · rcases List.mem_cons.mp hmem with rfl | hmem
          · obtain ⟨hstampNe, holder⟩ := hold.resolve_left hcandidate
            obtain ⟨hlatest, hstampLe⟩ := hle stamp (Or.inl rfl) hstampNe
            exact ⟨hlatest, holder.trans hstampLe⟩
          · exact hle candidate (Or.inr hmem) hcandidate
      · rw [htaken]
        obtain ⟨hfrom, hle⟩ := ih hrest (Or.inr hfirst)
        obtain ⟨hlatest, hfirstLe⟩ := hle first (Or.inl rfl) hne
        refine ⟨Or.inr ?_, ?_⟩
        · rcases hfrom with hsame | ⟨hmem, hnonzero⟩
          · rw [hsame]
            exact ⟨List.mem_cons_self, hne⟩
          · exact ⟨List.mem_cons_of_mem _ hmem, hnonzero⟩
        · rintro candidate (rfl | hmem) hcandidate
          · exact ⟨hlatest, (hnew.resolve_left hcandidate).trans hfirstLe⟩
          · rcases List.mem_cons.mp hmem with rfl | hmem
            · exact ⟨hlatest, hfirstLe⟩
            · exact hle candidate (Or.inr hmem) hcandidate

end Stamps

section Fusing

variable {view : PointPerceptionsOpsView F} {tf : TfBuffer} {target : String} {stamp : Stamp}

theorem slot_fuse_stamp_iff (slot : Slot F) :
    (slot.fuse tf target true).2 = some stamp ↔
      ∃ p, (slot.perception.map fun p => p.integratePendingPerceptions tf.canTransform) = some p ∧
        IsFused tf target p ∧ p.frameId ≠ target ∧ p.stamp = stamp := by
  rw [Slot.fuse]
  cases slot.perception with
  | none => simp
  | some before =>
      simp only [Option.map_some, Option.some.injEq, exists_eq_left']
      generalize before.integratePendingPerceptions tf.canTransform = p
      by_cases hempty : (!p.valid || p.data.isEmpty) = true
      · rw [if_pos hempty]
        refine iff_of_false (by simp) ?_
        rintro ⟨⟨hvalid, hpoints, -⟩, -⟩
        simp [hvalid, hpoints] at hempty
      · have hvalid : p.valid = true ∧ p.data ≠ [] := by simpa using hempty
        rw [if_neg hempty]
        by_cases hframe : p.frameId = target
        · simp [hframe]
        · rw [if_neg hframe, queryTime, if_pos rfl]
          cases hlookup : tf.lookupTransform target p.frameId (some p.stamp) with
          | none =>
              refine iff_of_false (by simp) ?_
              rintro ⟨⟨-, -, hplaced⟩, -⟩
              simp [hframe, hlookup] at hplaced
          | some found =>
              have hfused : IsFused tf target p := ⟨hvalid.1, hvalid.2, Or.inr (by simp [hlookup])⟩
              simp [hfused, hframe]

theorem mem_considered_iff :
    stamp ∈ (view.slots.map fun slot => slot.fuse tf target true).filterMap Prod.snd ↔
      ∃ p ∈ integrated tf view, IsFused tf target p ∧ p.frameId ≠ target ∧ p.stamp = stamp := by
  simp only [integrated, List.mem_filterMap, List.mem_map, exists_exists_and_eq_and,
    slot_fuse_stamp_iff]
  constructor
  · rintro ⟨slot, hslot, p, hp, hfused⟩
    exact ⟨p, ⟨slot, hslot, hp⟩, hfused⟩
  · rintro ⟨p, ⟨slot, hslot, hp⟩, hfused⟩
    exact ⟨slot, hslot, p, hp, hfused⟩

theorem fusionStamp_considered {zero : Stamp} (hzero : zero.nanoseconds = 0) (clock : ClockType)
    (hclock : ∀ p ∈ integrated tf view, IsFused tf target p → p.stamp.clockType = clock) :
    (fusionStamp view tf target zero = zero ∨
        (fusionStamp view tf target zero).nanoseconds ≠ 0 ∧ ∃ q ∈ integrated tf view,
          IsFused tf target q ∧ q.frameId ≠ target ∧ q.stamp = fusionStamp view tf target zero) ∧
      ∀ q ∈ integrated tf view, IsFused tf target q → q.frameId ≠ target →
        q.stamp.nanoseconds ≠ 0 → (fusionStamp view tf target zero).nanoseconds ≠ 0 ∧
          q.stamp.nanoseconds ≤ (fusionStamp view tf target zero).nanoseconds := by
  have hconsidered : ∀ candidate ∈ (view.slots.map fun slot =>
      slot.fuse tf target true).filterMap Prod.snd, candidate.clockType = clock := by
    intro candidate hmem
    obtain ⟨p, hp, hfused, -, rfl⟩ := mem_considered_iff.mp hmem
    exact hclock p hp hfused
  obtain ⟨hfrom, hle⟩ := foldl_updateLatestStamp _ hconsidered (Or.inl hzero)
  constructor
  · refine hfrom.imp id ?_
    rintro ⟨hmem, hne⟩
    exact ⟨hne, mem_considered_iff.mp hmem⟩
  · intro q hq hfused hframe hne
    exact hle q.stamp (Or.inr (mem_considered_iff.mpr ⟨q, hq, hfused, hframe, rfl⟩)) hne

/-- An exact-time fusion returns the newest stamp just when no perception in the target frame
is newer than all those that are not. -/
theorem dates_fusion_iff {zero : Stamp} (hzero : zero.nanoseconds = 0) (clock : ClockType)
    (hclock : ∀ p ∈ integrated tf view, IsFused tf target p → p.stamp.clockType = clock) :
    DatesFusion view tf target zero ↔ NoneNewer view tf target := by
  obtain ⟨hfrom, hle⟩ := fusionStamp_considered hzero clock hclock
  constructor
  · rintro ⟨hnewest, hzeroOnly⟩
    rcases hfrom with hsame | ⟨hne, q, hq, hfused, hframe, hstamp⟩
    · exact Or.inr (hzeroOnly (by rw [hsame, hzero]))
    · left
      intro p hp hpfused
      refine ⟨q, hq, hfused, hframe, by rwa [hstamp], ?_⟩
      rw [hstamp]
      exact (hnewest ⟨q, hq, hfused, by rwa [hstamp]⟩).2 p hp hpfused
  · rintro (hnewer | hnone)
    · have hbound : ∀ p ∈ integrated tf view, IsFused tf target p →
          (fusionStamp view tf target zero).nanoseconds ≠ 0 ∧
            p.stamp.nanoseconds ≤ (fusionStamp view tf target zero).nanoseconds := by
        intro p hp hfused
        obtain ⟨q, hq, hqfused, hframe, hne, hpq⟩ := hnewer p hp hfused
        obtain ⟨hlatest, hqle⟩ := hle q hq hqfused hframe hne
        exact ⟨hlatest, hpq.trans hqle⟩
      constructor
      · rintro ⟨p, hp, hfused, -⟩
        refine ⟨?_, fun p hp hfused => (hbound p hp hfused).2⟩
        rcases hfrom with hsame | ⟨-, q, hq, hqfused, -, hstamp⟩
        · exact absurd (by rw [hsame, hzero]) (hbound p hp hfused).1
        · exact ⟨q, hq, hqfused, hstamp⟩
      · intro hstamp p hp hfused
        exact absurd hstamp (hbound p hp hfused).1
    · constructor
      · rintro ⟨p, hp, hfused, hne⟩
        exact absurd (hnone p hp hfused) hne
      · exact fun _ => hnone

end Fusing

def onMap (stamp : Time) : PointPerception (Cloud Double) :=
  PointPerceptionsOpsView.added [⟨.fin 1, .fin 0, .fin 0⟩] "map" ⟨stamp, .ros⟩

def inLaser (stamp : Time) : PointPerception (Cloud Double) :=
  PointPerceptionsOpsView.added [⟨.fin 1, .fin 0, .fin 0⟩] "laser" ⟨stamp, .ros⟩

def allTransforms : TfBuffer where
  canTransform _ _ := true
  lookupTransform _ _ _ := some (0, .identity)

theorem onMap_fused (stamp : Time) : IsFused allTransforms "map" (onMap stamp) :=
  ⟨rfl, List.cons_ne_nil _ _, Or.inl rfl⟩

theorem inLaser_fused (stamp : Time) : IsFused allTransforms "map" (inLaser stamp) :=
  ⟨rfl, List.cons_ne_nil _ _, Or.inr rfl⟩

/-- A perception in the target frame is fused without its stamp. -/
theorem target_stamp_lost :
    ¬ ∀ (view : PointPerceptionsOpsView Double) (tf : TfBuffer) (target : String) (zero : Stamp)
      (clock : ClockType), zero.nanoseconds = 0 →
        (∀ p ∈ integrated tf view, IsFused tf target p → p.stamp.clockType = clock) →
          DatesFusion view tf target zero := by
  intro h
  have hmem : onMap 5 ∈ integrated allTransforms (.create true [some (onMap 5)]) :=
    List.mem_singleton.mpr rfl
  have hdates := h (.create true [some (onMap 5)]) allTransforms "map" {} .ros rfl (by
    intro p hp _
    rw [List.mem_singleton.mp hp]
    rfl)
  have hle := (hdates.newest ⟨onMap 5, hmem, onMap_fused 5, by decide⟩).2 (onMap 5) hmem
    (onMap_fused 5)
  exact absurd hle (by decide +kernel)

/-- One that is transformed is newer. -/
theorem dates_fusion_iff_laser :
    DatesFusion (.create true [some (onMap 5), some (inLaser 6)]) allTransforms "map" {} := by
  have hlist : ∀ p ∈ integrated allTransforms (.create true [some (onMap 5), some (inLaser 6)]),
      p = onMap 5 ∨ p = inLaser 6 := by
    intro p hp
    have hmem : p ∈ [onMap 5, inLaser 6] := hp
    simpa using hmem
  refine (dates_fusion_iff rfl .ros ?_).mpr (Or.inl ?_)
  · rintro p hp -
    rcases hlist p hp with rfl | rfl
    · rfl
    · rfl
  · rintro p hp -
    refine ⟨inLaser 6, List.mem_cons_of_mem _ List.mem_cons_self, inLaser_fused 6, by decide,
      by decide, ?_⟩
    rcases hlist p hp with rfl | rfl
    · decide
    · decide

end EasyNav.FusionStamps
