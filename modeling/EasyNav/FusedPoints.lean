import EasyNav.PointViews

namespace EasyNav.FusedPoints

open EasyNav.ExtendedArithmetic
open EasyNav.DoubleArithmetic
open EasyNav.CircularBuffers
open EasyNav.PointPerceptions
open EasyNav.PointViews

universe u

/-- The buffered cloud that integrating brings up, if there is any: the newest one with a
transform, or the newest one. -/
def upcoming {C : Type u} (canTransform : String → Stamp → Bool) (p : PointPerception C) :
    Option (PointPerceptionBufferType C) :=
  let items := p.bufferPending.toList
  match newest (items.filter fun item => canTransform item.frame item.stamp) with
  | some selected => some selected
  | none => newest items

section Integrating

variable {C : Type u} {p : PointPerception C} {canTransform : String → Stamp → Bool}

theorem integrate_of_none (h : upcoming canTransform p = none) :
    p.integratePendingPerceptions canTransform =
      { p with pending := none, buffer := p.bufferPending } := by
  apply p.integratePendingPerceptions_of_empty
  rw [← CircularBuffer.toList_eq_nil_iff]
  by_contra hitems
  rw [upcoming] at h
  split at h
  · contradiction
  · have hsome := newest_isSome hitems
    rw [h] at hsome
    contradiction

theorem integrate_of_some {item : PointPerceptionBufferType C}
    (h : upcoming canTransform p = some item) :
    ∃ buffer, p.integratePendingPerceptions canTransform =
      { p.select item with pending := none, buffer := buffer } := by
  have hsize : p.bufferPending.size ≠ 0 := by
    intro hsize
    rw [← CircularBuffer.toList_eq_nil_iff] at hsize
    simp [upcoming, hsize, newest] at h
  obtain ⟨selected, buffer, heq, -, hselects⟩ :=
    p.integratePendingPerceptions_selects canTransform hsize
  have hselected : selected = item := by
    rw [upcoming] at h
    generalize buffer.toList = kept at hselects
    cases hselects with
    | transformable hnewest =>
        rw [hnewest] at h
        exact Option.some.inj h
    | newest hnone hnewest =>
        rw [hnone] at h
        exact Option.some.inj (hnewest.symm.trans h)
  subst hselected
  exact ⟨buffer, heq⟩

end Integrating

variable {F : Type u} (c : Conversions F)

/-- A perception's points in the target frame, if they can be brought there. -/
def placed (tf : TfBuffer) (target : String) (exactTime : Bool)
    (p : PointPerception (Cloud F)) : Cloud F :=
  if p.frameId = target then p.data
  else
    match tf.lookupTransform target p.frameId (queryTime exactTime p.stamp) with
    | some (_, transform) => p.data.map fun point => c.point (transform.apply (c.vector point))
    | none => []

/-- All points of what a perception holds once it is fused. -/
def current (tf : TfBuffer) (target : String) (exactTime : Bool) :
    Option (PointPerception (Cloud F)) → Cloud F
  | none => []
  | some p =>
      let p := p.integratePendingPerceptions tf.canTransform
      if p.valid then placed c tf target exactTime p else []

/-- A view that is made and fused shows all current points, in their order. -/
def ShowsCurrent (owned : Bool) (perceptions : List (Option (PointPerception (Cloud F))))
    (tf : TfBuffer) (target : String) (exactTime : Bool) (stamp : Stamp) : Prop :=
  ((PointPerceptionsOpsView.create owned perceptions).fuse tf target exactTime stamp).1.asPoints c =
    perceptions.flatMap (current c tf target exactTime)

def shownPoints (p : PointPerception (Cloud F)) : Nat := if p.valid then p.data.length else 0

/-- The cloud that fusing brings up has more points than those shown, and it is in the target
frame or there is a transform for it. -/
def Outgrows (tf : TfBuffer) (target : String) (exactTime : Bool)
    (p : PointPerception (Cloud F)) : Prop :=
  ∃ item, upcoming tf.canTransform p = some item ∧
    (item.frame = target ∨
      (tf.lookupTransform target item.frame (queryTime exactTime item.stamp)).isSome = true) ∧
      shownPoints p < item.data.length

section Lists

variable {α β : Type*}

theorem filterMap_range_getElem? (l : List α) (n : Nat) :
    (List.range n).filterMap (fun i => l[i]?) = l.take n := by
  induction n with
  | zero => simp
  | succ n ih =>
      rw [List.range_succ, List.filterMap_append, ih, List.take_add_one]
      cases hlast : l[n]? with
      | none => simp [hlast]
      | some a => simp [hlast]

theorem length_flatMap_take_le (l : List α) (f : α → List β) (n : α → Nat) :
    (l.flatMap fun a => (f a).take (n a)).length ≤ (l.flatMap f).length := by
  induction l with
  | nil => simp
  | cons a l ih =>
      simp only [List.flatMap_cons, List.length_append, List.length_take]
      omega

theorem flatMap_take_eq_iff (l : List α) (f : α → List β) (n : α → Nat) :
    (l.flatMap fun a => (f a).take (n a)) = l.flatMap f ↔ ∀ a ∈ l, (f a).length ≤ n a := by
  induction l with
  | nil => simp
  | cons a l ih =>
      rw [List.forall_mem_cons, ← ih, List.flatMap_cons, List.flatMap_cons]
      have hle := length_flatMap_take_le l f n
      constructor
      · intro heq
        have hlength := congrArg List.length heq
        simp only [List.length_append, List.length_take] at hlength
        have hshort : (f a).length ≤ n a := by omega
        rw [List.take_of_length_le hshort] at heq
        exact ⟨hshort, List.append_cancel_left heq⟩
      · rintro ⟨hshort, hrest⟩
        rw [List.take_of_length_le hshort, hrest]

end Lists

section Fusing

variable {tf : TfBuffer} {target : String} {exactTime : Bool}

theorem length_cloud_create (p : PointPerception (Cloud F)) :
    (Slot.create (some p)).indices = List.range (shownPoints p) := by
  simp only [Slot.create, Slot.cloud, shownPoints]
  split <;> rfl

/-- Of a perception's current points, a fused view shows as many as there were. -/
theorem selected_fuse (p : PointPerception (Cloud F)) :
    (((Slot.create (some p)).fuse tf target exactTime).1.selected true).map
        (fun point => c.point
          (((Slot.create (some p)).fuse tf target exactTime).1.coordinates c true point)) =
      (current c tf target exactTime (some p)).take (shownPoints p) := by
  have hindices := length_cloud_create p
  have hperception : (Slot.create (some p)).perception = some p := rfl
  generalize Slot.create (some p) = slot at hindices hperception
  simp only [Slot.fuse, hperception, current]
  generalize p.integratePendingPerceptions tf.canTransform = fused
  cases hvalid : fused.valid with
  | false => simp [Slot.selected, Slot.cloud, hvalid]
  | true =>
      by_cases hempty : fused.data = []
      · have hplaced : placed c tf target exactTime fused = [] := by
          rw [placed]
          split
          · exact hempty
          · split
            · simp [hempty]
            · rfl
        simp [Slot.selected, Slot.cloud, hvalid, hempty, hplaced]
      · rw [placed]
        by_cases hframe : fused.frameId = target
        · simp [Slot.selected, Slot.cloud, Slot.coordinates, hvalid, hempty, hframe, hindices,
            filterMap_range_getElem?]
        · cases tf.lookupTransform target fused.frameId (queryTime exactTime fused.stamp) with
          | none => simp [Slot.selected, hempty, hframe]
          | some found =>
              simp [Slot.selected, Slot.cloud, Slot.coordinates, hvalid, hempty, hframe, hindices,
                filterMap_range_getElem?, List.map_take]

/-- Each perception shows the first of its current points, as many as it showed before. -/
theorem asPoints_fuse (owned : Bool) (perceptions : List (Option (PointPerception (Cloud F))))
    (stamp : Stamp) :
    ((PointPerceptionsOpsView.create owned perceptions).fuse tf target exactTime
        stamp).1.asPoints c =
      perceptions.flatMap fun perception =>
        (current c tf target exactTime perception).take ((perception.map shownPoints).getD 0) := by
  have hplain : ∀ slots : List (Slot F),
      PointPerceptionsOpsView.asPoints c
          { owned := owned, slots := slots, targetFrame := some target } =
        slots.flatMap fun slot => (slot.selected true).map fun point =>
          c.point (slot.coordinates c true point) := by
    intro slots
    rw [PointPerceptionsOpsView.asPoints]
    congr 1
    funext slot
    rw [← List.filterMap_eq_map]
    rfl
  simp only [PointPerceptionsOpsView.fuse, PointPerceptionsOpsView.create, hplain, List.map_map,
    List.flatMap_map]
  congr 1
  funext perception
  cases perception with
  | none => rfl
  | some p => exact selected_fuse c p

theorem placed_length (p : PointPerception (Cloud F)) :
    (placed c tf target exactTime p).length =
      if p.frameId = target ∨ (tf.lookupTransform target p.frameId
          (queryTime exactTime p.stamp)).isSome = true then p.data.length
      else 0 := by
  rw [placed]
  by_cases hframe : p.frameId = target
  · simp [hframe]
  · cases tf.lookupTransform target p.frameId (queryTime exactTime p.stamp) with
    | none => simp [hframe]
    | some found => simp [hframe]

theorem current_length_le_iff (p : PointPerception (Cloud F)) :
    (current c tf target exactTime (some p)).length ≤ shownPoints p ↔
      ¬ Outgrows tf target exactTime p := by
  simp only [current, Outgrows]
  cases hupcoming : upcoming tf.canTransform p with
  | none =>
      rw [integrate_of_none hupcoming, shownPoints]
      refine iff_of_true ?_ (by simp)
      dsimp only
      split
      · rw [placed_length]
        split
        · exact le_rfl
        · exact Nat.zero_le _
      · exact Nat.zero_le _
  | some item =>
      obtain ⟨buffer, heq⟩ := integrate_of_some hupcoming
      rw [heq]
      have hlength : (placed c tf target exactTime
          { p.select item with pending := none, buffer := buffer }).length =
            if item.frame = target ∨ (tf.lookupTransform target item.frame
                (queryTime exactTime item.stamp)).isSome = true then item.data.length
            else 0 := placed_length c _
      change (placed c tf target exactTime
        { p.select item with pending := none, buffer := buffer }).length ≤ shownPoints p ↔ _
      rw [hlength]
      simp only [Option.some.injEq, exists_eq_left']
      by_cases hplaced : item.frame = target ∨
          (tf.lookupTransform target item.frame (queryTime exactTime item.stamp)).isSome = true
      · rw [if_pos hplaced, not_and, not_lt]
        exact (imp_iff_right hplaced).symm
      · rw [if_neg hplaced]
        exact iff_of_true (Nat.zero_le _) fun h => hplaced h.1

/-- A fused view shows all current points just when none of its perceptions outgrows what
it showed before. -/
theorem shows_current_iff (owned : Bool)
    (perceptions : List (Option (PointPerception (Cloud F)))) (tf : TfBuffer) (target : String)
    (exactTime : Bool) (stamp : Stamp) :
    ShowsCurrent c owned perceptions tf target exactTime stamp ↔
      ¬ ∃ p, some p ∈ perceptions ∧ Outgrows tf target exactTime p := by
  rw [ShowsCurrent, asPoints_fuse, flatMap_take_eq_iff]
  constructor
  · rintro h ⟨p, hp, houtgrows⟩
    exact (current_length_le_iff c p).mp (h (some p) hp) houtgrows
  · intro h perception hmem
    cases perception with
    | none => exact Nat.zero_le _
    | some p => exact (current_length_le_iff c p).mpr fun houtgrows => h ⟨p, hmem, houtgrows⟩

end Fusing

def pointAt (x : ℚ) : Point Double := ⟨.fin x, .fin 0, .fin 0⟩

def lateTransform : PointPerception (Cloud Double) :=
  (((PointPerception.create []).setPendingCloud [pointAt 1] "map"
    ⟨1000000000, .ros⟩).integratePendingPerceptions fun _ _ => true).setPendingCloud
      [pointAt 1, pointAt 2] "laser" ⟨2000000000, .ros⟩ |>.integratePendingPerceptions
        fun frame _ => frame == "map"

def laserOnMap : TfBuffer where
  canTransform _ _ := true
  lookupTransform _ _ _ := some (2000000000, .identity)

/-- Once the transform is there, the second of the two points is missing. -/
theorem second_point_missing :
    ¬ ∀ (owned : Bool) (perceptions : List (Option (PointPerception (Cloud Double))))
      (tf : TfBuffer) (target : String) (exactTime : Bool) (stamp : Stamp),
      ShowsCurrent exactConversions owned perceptions tf target exactTime stamp := by
  intro h
  have hshows := h false [some lateTransform] laserOnMap "map" false {}
  rw [ShowsCurrent] at hshows
  exact absurd hshows (by decide +kernel)

end EasyNav.FusedPoints
