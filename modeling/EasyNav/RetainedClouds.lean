import EasyNav.PointPerceptions
import EasyNav.Runs
import EasyNav.SlidingWindows

namespace EasyNav.RetainedClouds

open EasyNav.CircularBuffers
open EasyNav.DoubleArithmetic
open EasyNav.PointPerceptions
open EasyNav.Runs
open EasyNav.SlidingWindows

universe u

variable {C : Type u}

inductive Event (C : Type u) where
  | setPendingCloud (cloud : C) (frame : String) (stamp : Stamp)
  | integratePendingPerceptions (canTransform : String → Stamp → Bool)

def step (p : PointPerception C) : Event C → PointPerception C
  | .setPendingCloud cloud frame stamp => p.setPendingCloud cloud frame stamp
  | .integratePendingPerceptions canTransform => p.integratePendingPerceptions canTransform

def IsFresh (p : PointPerception C) : Prop := ∃ empty, p = PointPerception.create empty

abbrev History (C : Type u) := List (PointPerception C × Event C)

def received : History C → List (PointPerceptionBufferType C)
  | [] => []
  | (_, .setPendingCloud cloud frame stamp) :: past =>
      received past ++ [{ data := cloud, frame := frame, stamp := stamp }]
  | (_, .integratePendingPerceptions _) :: past => received past

/-- Some call found that the message, which it had received, has a transform. -/
def SeenTransformable (item : PointPerceptionBufferType C) : History C → Prop
  | [] => False
  | (_, .setPendingCloud _ _ _) :: past => SeenTransformable item past
  | (_, .integratePendingPerceptions canTransform) :: past =>
      (item ∈ received past ∧ canTransform item.frame item.stamp = true) ∨
        SeenTransformable item past

/-- Each message is integrated before the next one, with stamps that do not go back and
transforms that stay. -/
def Orderly : History C → Prop
  | [] => True
  | (p, .setPendingCloud _ _ stamp) :: past =>
      p.pending = none ∧ (∀ item ∈ received past, item.stamp.clockType = stamp.clockType ∧
        item.stamp.nanoseconds ≤ stamp.nanoseconds) ∧ Orderly past
  | (_, .integratePendingPerceptions canTransform) :: past =>
      (∀ item ∈ received past, SeenTransformable item past →
        canTransform item.frame item.stamp = true) ∧ Orderly past

/-- The newest item by its stamp, and the earliest received of those. -/
def IsNewest (items : List (PointPerceptionBufferType C)) (item : PointPerceptionBufferType C) :
    Prop :=
  IsFirstMax (fun item => item.stamp.nanoseconds) items item

section Newest

variable {items : List (PointPerceptionBufferType C)} {selected : PointPerceptionBufferType C}

theorem eq_nil_of_newest_none (h : newest items = none) : items = [] := by
  by_contra hne
  have hsome := newest_isSome hne
  rw [h] at hsome
  contradiction

theorem newest_concat (items : List (PointPerceptionBufferType C))
    (item : PointPerceptionBufferType C) :
    newest (items ++ [item]) = newer (newest items) item := by
  unfold newest
  rw [List.foldl_append, List.foldl_cons, List.foldl_nil]

theorem isNewest_of_newest (h : newest items = some selected) : IsNewest items selected := by
  induction items using List.reverseRecOn generalizing selected with
  | nil => contradiction
  | append_singleton items item ih =>
      rw [newest_concat] at h
      cases hbest : newest items with
      | none =>
          rw [hbest] at h
          obtain rfl : item = selected := Option.some.inj h
          rw [eq_nil_of_newest_none hbest]
          exact IsFirstMax.singleton item
      | some best =>
          have hnewest := ih hbest
          rw [hbest] at h
          unfold newer at h
          dsimp only at h
          split at h
          · rename_i hlt
            obtain rfl := Option.some.inj h
            refine ⟨items, [], rfl, ?_, ?_⟩
            · exact fun other hother => (hnewest.le hother).trans_lt hlt
            · exact fun other hother => absurd hother List.not_mem_nil
          · rename_i hle
            obtain rfl := Option.some.inj h
            exact hnewest.concat (not_lt.mp hle)

end Newest

/-- What a perception that has kept these items should show. -/
def ShouldShow (canTransform : String → Stamp → Bool)
    (items : List (PointPerceptionBufferType C)) (shown : PointPerceptionBufferType C) : Prop :=
  IsNewest (items.filter fun item => canTransform item.frame item.stamp) shown ∨
    ((∀ item ∈ items, canTransform item.frame item.stamp = false) ∧ IsNewest items shown)

/-- The buffer is a window on what is pushed. -/
theorem toList_push_rtake {α : Type u} (b : CircularBuffer α) (value : α) :
    (b.push value).toList = (b.toList ++ [value]).rtake b.capacity := by
  unfold List.rtake
  rw [CircularBuffer.toList_push, List.length_append, List.length_singleton]

theorem bufferPending_capacity (p : PointPerception C) :
    p.bufferPending.capacity = p.buffer.capacity := by
  unfold PointPerception.bufferPending
  split
  · rfl
  · exact CircularBuffer.capacity_push _ _

/-- What is buffered covers the last ten messages. -/
structure Retained (past : History C) (p : PointPerception C) : Prop where
  capacity : p.buffer.capacity = 10
  sorted : (received past).Pairwise fun item next =>
    item.stamp.nanoseconds ≤ next.stamp.nanoseconds
  covers : Covers (fun item => item.stamp.nanoseconds) (SeenTransformable · past)
    ((received past).rtake 10) p.bufferPending.toList

section Steps

variable {past : History C} {p : PointPerception C}

theorem initial_retained (h : IsFresh p) : Retained [] p := by
  obtain ⟨empty, rfl⟩ := h
  exact ⟨rfl, List.Pairwise.nil, Covers.nil⟩

theorem setPendingCloud_retained (h : Retained past p) {cloud : C} {frame : String}
    {stamp : Stamp} (hpending : p.pending = none)
    (hstamps : ∀ item ∈ received past, item.stamp.clockType = stamp.clockType ∧
      item.stamp.nanoseconds ≤ stamp.nanoseconds) :
    Retained ((p, .setPendingCloud cloud frame stamp) :: past)
      (p.setPendingCloud cloud frame stamp) where
  capacity := h.capacity
  sorted := by
    refine List.pairwise_append.mpr ⟨h.sorted, List.pairwise_singleton _ _, ?_⟩
    intro item hitem next hnext
    rw [List.mem_singleton.mp hnext]
    exact (hstamps item hitem).2
  covers := by
    have hcovers := h.covers
    rw [p.bufferPending_of_none hpending] at hcovers
    change Covers _ _ _ (p.buffer.push _).toList
    rw [toList_push_rtake, h.capacity]
    exact hcovers.concat _

/-- The transforms that the calls so far have found are still there. -/
def TransformsStay (canTransform : String → Stamp → Bool) (past : History C) : Prop :=
  ∀ item ∈ received past, SeenTransformable item past →
    canTransform item.frame item.stamp = true

theorem Retained.suffix (h : Retained past p) : p.bufferPending.toList <:+ received past :=
  h.covers.suffix.trans (List.drop_suffix _ _)

theorem Retained.transformable (h : Retained past p) {canTransform : String → Stamp → Bool}
    (hstay : TransformsStay canTransform past) :
    ∀ item ∈ p.bufferPending.toList, SeenTransformable item past →
      canTransform item.frame item.stamp = true :=
  fun item hitem hseen => hstay item (h.suffix.mem hitem) hseen

theorem Retained.bufferPending_size (h : Retained past p) (hreceived : received past ≠ []) :
    p.bufferPending.size ≠ 0 := by
  intro hsize
  have hcovers := h.covers
  rw [(CircularBuffer.toList_eq_nil_iff _).mpr hsize] at hcovers
  have hnil := hcovers.eq_of_not_settled fun item hitem => absurd hitem List.not_mem_nil
  have hlength := List.length_pos_of_ne_nil hreceived
  unfold List.rtake at hnil
  have hdrop := List.drop_eq_nil_iff.mp hnil
  omega

/-- What is selected among the buffered items is what should be shown of the last ten. -/
theorem Retained.shouldShow (h : Retained past p) {canTransform : String → Stamp → Bool}
    (hstay : TransformsStay canTransform past) {selected : PointPerceptionBufferType C}
    {kept : List (PointPerceptionBufferType C)}
    (hselects : PointPerception.Selects canTransform p.bufferPending.toList selected kept) :
    ShouldShow canTransform ((received past).rtake 10) selected := by
  have hseen := h.transformable hstay
  cases hselects with
  | transformable hselected =>
      exact Or.inl (h.covers.isFirstMax hseen (isNewest_of_newest hselected))
  | newest hnone hselected =>
      have hfilter := List.filter_eq_nil_iff.mp (eq_nil_of_newest_none hnone)
      have hall := h.covers.eq_of_not_settled fun item hitem hsettled =>
        hfilter item hitem (hseen item hitem hsettled)
      right
      rw [hall]
      refine ⟨fun item hitem => ?_, isNewest_of_newest hselected⟩
      exact Bool.eq_false_of_not_eq_true (hfilter item hitem)

theorem integrate_retained (h : Retained past p) {canTransform : String → Stamp → Bool}
    (hstay : TransformsStay canTransform past) :
    Retained ((p, .integratePendingPerceptions canTransform) :: past)
      (p.integratePendingPerceptions canTransform) := by
  have hlater : ∀ item ∈ p.bufferPending.toList, SeenTransformable item past →
      SeenTransformable item ((p, .integratePendingPerceptions canTransform) :: past) :=
    fun item _ hseen => Or.inr hseen
  by_cases hempty : p.bufferPending.size = 0
  · rw [p.integratePendingPerceptions_of_empty canTransform hempty]
    refine ⟨(bufferPending_capacity p).trans h.capacity, h.sorted, ?_⟩
    exact h.covers.mono hlater
  · obtain ⟨selected, buffer, heq, hcapacity, hselects⟩ :=
      p.integratePendingPerceptions_selects canTransform hempty
    rw [heq]
    refine ⟨?_, h.sorted, ?_⟩
    · exact hcapacity.trans ((bufferPending_capacity p).trans h.capacity)
    · change Covers _ _ _ buffer.toList
      generalize buffer.toList = kept at hselects
      cases hselects with
      | transformable hselected =>
          refine (h.covers.mono hlater).trim (h.sorted.sublist (List.drop_sublist _ _)) ?_
            (isNewest_of_newest hselected) ?_
          · rintro item hitem (⟨-, hcan⟩ | hseen)
            · exact hcan
            · exact h.transformable hstay item hitem hseen
          · exact fun item hitem hcan => Or.inl ⟨h.suffix.mem hitem, hcan⟩
      | newest hnone hselected => exact h.covers.mono hlater

theorem run_retained (hrun : Run step IsFresh p past) : Orderly past → Retained past p := by
  refine hrun.history_invariant (motive := fun p past => Orderly past → Retained past p)
    (fun _ _ => True) (fun p hfresh _ => initial_retained hfresh) ?_ (fun _ _ => trivial)
  intro p e past ih _ horderly
  cases e with
  | setPendingCloud cloud frame stamp =>
      obtain ⟨hpending, hstamps, hpast⟩ := horderly
      exact setPendingCloud_retained (ih hpast) hpending hstamps
  | integratePendingPerceptions canTransform =>
      obtain ⟨hstay, hpast⟩ := horderly
      exact integrate_retained (ih hpast) hstay

end Steps

/-- After each call, what is visible is the newest of the last ten messages that has a
transform, or the newest one if none has one. -/
theorem shows_newest_of_last_ten {p shown : PointPerception C} {past : History C}
    {canTransform : String → Stamp → Bool}
    (hrun : Run step IsFresh shown ((p, .integratePendingPerceptions canTransform) :: past))
    (horderly : Orderly ((p, .integratePendingPerceptions canTransform) :: past))
    (hreceived : received past ≠ []) :
    ∃ item, ShouldShow canTransform ((received past).rtake 10) item ∧
      shown.frameId = item.frame ∧ shown.stamp = item.stamp ∧ shown.data = item.data := by
  obtain ⟨rfl, hpast⟩ := hrun.last
  obtain ⟨hstay, horderlyPast⟩ := horderly
  have h := run_retained hpast horderlyPast
  obtain ⟨selected, buffer, heq, -, hselects⟩ :=
    p.integratePendingPerceptions_selects canTransform (h.bufferPending_size hreceived)
  refine ⟨selected, h.shouldShow hstay hselects, ?_⟩
  change (p.integratePendingPerceptions canTransform).frameId = _ ∧
    (p.integratePendingPerceptions canTransform).stamp = _ ∧
    (p.integratePendingPerceptions canTransform).data = _
  rw [heq]
  exact ⟨rfl, rfl, rfl⟩

def fresh : PointPerception Nat := PointPerception.create 0

def atSeconds (seconds : Time) : Stamp := ⟨seconds * 1000000000, .ros⟩

def lateTransform : List (Event Nat) :=
  [.setPendingCloud 1 "camera" (atSeconds 1), .integratePendingPerceptions fun _ _ => false,
    .setPendingCloud 2 "laser" (atSeconds 2),
    .integratePendingPerceptions fun frame _ => frame == "laser",
    .integratePendingPerceptions fun _ _ => true]

theorem lateTransform_run :
    Run step IsFresh (lateTransform.foldl step fresh) (history step fresh lateTransform []) :=
  (Run.init ⟨0, rfl⟩).foldl lateTransform

theorem lateTransform_orderly : Orderly (history step fresh lateTransform []) := by
  refine ⟨fun _ _ _ => rfl, ?_, rfl, ?_, fun _ _ hseen => hseen.elim, rfl, ?_, trivial⟩
  · rintro item - (⟨-, hcan⟩ | hseen)
    · contradiction
    · exact hseen.elim
  · intro item hitem
    rw [List.mem_singleton.mp hitem]
    exact ⟨rfl, by decide⟩
  · exact fun item hitem => absurd hitem List.not_mem_nil

theorem shows_newest_of_last_ten_late :
    ∃ item, ShouldShow (fun _ _ => true)
        [{ data := 1, frame := "camera", stamp := atSeconds 1 },
          { data := 2, frame := "laser", stamp := atSeconds 2 }] item ∧
      (lateTransform.foldl step fresh).frameId = item.frame ∧
      (lateTransform.foldl step fresh).stamp = item.stamp ∧
      (lateTransform.foldl step fresh).data = item.data := by
  have h := shows_newest_of_last_ten lateTransform_run lateTransform_orderly
    (List.cons_ne_nil _ _)
  exact h

end EasyNav.RetainedClouds
