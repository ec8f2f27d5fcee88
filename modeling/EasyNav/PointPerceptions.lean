import EasyNav.CircularBuffers
import EasyNav.DoubleArithmetic

/-!
Point perceptions: what a sensor's clouds become visible as, and which of them are kept
until their transforms arrive. Whether a transform is there is up to the TF buffer, at
every call; the clouds are of any type.
-/

namespace EasyNav.PointPerceptions

open EasyNav.CircularBuffers
open EasyNav.DoubleArithmetic

universe u

inductive ClockType where
  | ros
  | system
  | steady
  deriving DecidableEq

structure Stamp where
  nanoseconds : Time := 0
  clockType : ClockType := .system
  deriving DecidableEq

structure PointPerceptionBufferType (C : Type u) where
  data : C
  frame : String := ""
  stamp : Stamp := {}

structure PointPerception (C : Type u) where
  stamp : Stamp := {}
  frameId : String := ""
  valid : Bool := false
  newData : Bool := false
  data : C
  pending : Option (PointPerceptionBufferType C) := none
  buffer : CircularBuffer (PointPerceptionBufferType C)

variable {C : Type u}

/-- A perception without data; `empty` is an empty cloud. -/
def PointPerception.create (empty : C) : PointPerception C where
  data := empty
  buffer := CircularBuffer.allocate 10 { data := empty } (by decide)

/-- The stamps of one sensor are of one clock: comparing them never throws. -/
def newer (newest : Option (PointPerceptionBufferType C)) (item : PointPerceptionBufferType C) :
    Option (PointPerceptionBufferType C) :=
  match newest with
  | none => some item
  | some best =>
      if best.stamp.nanoseconds < item.stamp.nanoseconds then some item else some best

def newest (items : List (PointPerceptionBufferType C)) :
    Option (PointPerceptionBufferType C) :=
  items.foldl newer none

namespace PointPerception

def setPendingCloud (p : PointPerception C) (cloud : C) (frame : String) (stamp : Stamp) :
    PointPerception C :=
  { p with pending := some { data := cloud, frame := frame, stamp := stamp } }

/-- The buffer with the pending cloud, which is moved into it. -/
def bufferPending (p : PointPerception C) : CircularBuffer (PointPerceptionBufferType C) :=
  match p.pending with
  | none => p.buffer
  | some item => p.buffer.push item

def select (p : PointPerception C) (selected : PointPerceptionBufferType C) :
    PointPerception C :=
  { p with
    data := selected.data
    frameId := selected.frame
    stamp := selected.stamp
    valid := true
    newData := true }

/-- Shows the newest cloud with a transform, or the newest one if none has one, and
keeps what a transform may still arrive for. -/
def integratePendingPerceptions (p : PointPerception C)
    (canTransform : String → Stamp → Bool) : PointPerception C :=
  let buffer := p.bufferPending
  let p := { p with pending := none, buffer := buffer }
  if buffer.size = 0 then p
  else
    let (items, drained) := CircularBuffer.drain buffer.size buffer
    let newestValid := newest (items.filter fun item => canTransform item.frame item.stamp)
    match newestValid, newest items with
    | some selected, _ =>
        let kept := items.filter fun item =>
          selected.stamp.nanoseconds ≤ item.stamp.nanoseconds
        { p.select selected with buffer := drained.clear.pushAll kept }
    | none, some selected => { p.select selected with buffer := drained.clear.pushAll items }
    | none, none => { p with buffer := drained }

/-- `PointPerceptionHandler::cycle_rt`: whether there was new data. -/
def cycleRt (p : PointPerception C) : PointPerception C × Bool :=
  ({ p with newData := false }, p.newData)

end PointPerception

section Newest

variable {items : List (PointPerceptionBufferType C)}

theorem newer_isSome (best : Option (PointPerceptionBufferType C))
    (item : PointPerceptionBufferType C) : ∃ next, newer best item = some next ∧
      (next = item ∨ best = some next) := by
  unfold newer
  cases best with
  | none => exact ⟨item, rfl, Or.inl rfl⟩
  | some best =>
      dsimp only
      split
      · exact ⟨item, rfl, Or.inl rfl⟩
      · exact ⟨best, rfl, Or.inr rfl⟩

theorem foldl_newer_mem (best : Option (PointPerceptionBufferType C))
    {selected : PointPerceptionBufferType C} (h : items.foldl newer best = some selected) :
    selected ∈ items ∨ best = some selected := by
  induction items generalizing best with
  | nil => exact Or.inr h
  | cons item items ih =>
      obtain ⟨next, hnext, hfrom⟩ := newer_isSome best item
      rw [List.foldl_cons, hnext] at h
      rcases ih (some next) h with hmem | hselected
      · exact Or.inl (List.mem_cons_of_mem _ hmem)
      · obtain rfl := Option.some.inj hselected
        rcases hfrom with rfl | hbest
        · exact Or.inl List.mem_cons_self
        · exact Or.inr hbest

theorem newest_mem {selected : PointPerceptionBufferType C} (h : newest items = some selected) :
    selected ∈ items :=
  (foldl_newer_mem none h).resolve_right (by simp)

theorem foldl_newer_isSome (best : PointPerceptionBufferType C) :
    (items.foldl newer (some best)).isSome = true := by
  induction items generalizing best with
  | nil => rfl
  | cons item items ih =>
      obtain ⟨next, hnext, -⟩ := newer_isSome (some best) item
      rw [List.foldl_cons, hnext]
      exact ih next

theorem newest_isSome (h : items ≠ []) : (newest items).isSome = true := by
  unfold newest
  cases items with
  | nil => contradiction
  | cons item items => exact foldl_newer_isSome item

end Newest

namespace PointPerception

variable (p : PointPerception C) (canTransform : String → Stamp → Bool)

structure Shown (p : PointPerception C) : Prop where
  valid : p.valid = true
  newData : p.newData = true
  pending : p.pending = none
  kept : p.buffer.size ≠ 0

theorem bufferPending_of_none (h : p.pending = none) : p.bufferPending = p.buffer := by
  unfold bufferPending
  rw [h]

theorem integratePendingPerceptions_of_empty (h : p.bufferPending.size = 0) :
    p.integratePendingPerceptions canTransform =
      { p with pending := none, buffer := p.bufferPending } := by
  unfold integratePendingPerceptions
  dsimp only
  rw [if_pos h]

theorem toList_pushAll_clear {buffer : CircularBuffer (PointPerceptionBufferType C)}
    {items : List (PointPerceptionBufferType C)} (hcapacity : items.length ≤ buffer.capacity) :
    (buffer.clear.pushAll items).toList = items := by
  have hpushed := buffer.clear.toList_pushAll items (by
    rw [CircularBuffer.capacity_clear]
    exact (Nat.zero_add _).symm ▸ hcapacity)
  rwa [CircularBuffer.toList_clear, List.nil_append] at hpushed

/-- What is shown of these items, and what is kept of them. -/
inductive Selects (canTransform : String → Stamp → Bool)
    (items : List (PointPerceptionBufferType C)) :
    PointPerceptionBufferType C → List (PointPerceptionBufferType C) → Prop
  | transformable {selected : PointPerceptionBufferType C}
      (h : newest (items.filter fun item => canTransform item.frame item.stamp) = some selected) :
      Selects canTransform items selected
        (items.filter fun item => selected.stamp.nanoseconds ≤ item.stamp.nanoseconds)
  | newest {selected : PointPerceptionBufferType C}
      (hnone : newest (items.filter fun item => canTransform item.frame item.stamp) = none)
      (h : newest items = some selected) : Selects canTransform items selected items

theorem Selects.length_le {canTransform : String → Stamp → Bool}
    {items kept : List (PointPerceptionBufferType C)} {selected : PointPerceptionBufferType C}
    (h : Selects canTransform items selected kept) : kept.length ≤ items.length := by
  cases h with
  | transformable h => exact List.length_filter_le _ _
  | newest hnone h => exact le_rfl

theorem Selects.mem {canTransform : String → Stamp → Bool}
    {items kept : List (PointPerceptionBufferType C)} {selected : PointPerceptionBufferType C}
    (h : Selects canTransform items selected kept) : selected ∈ kept := by
  cases h with
  | transformable h =>
      have hmem := (List.mem_filter.mp (newest_mem h)).1
      exact List.mem_filter.mpr ⟨hmem, decide_eq_true le_rfl⟩
  | newest hnone h => exact newest_mem h

theorem Selects.subset {canTransform : String → Stamp → Bool}
    {items kept : List (PointPerceptionBufferType C)} {selected : PointPerceptionBufferType C}
    (h : Selects canTransform items selected kept) : kept ⊆ items := by
  cases h with
  | transformable h => exact List.filter_subset_self _
  | newest hnone h => exact List.Subset.refl _

theorem integratePendingPerceptions_selects (h : p.bufferPending.size ≠ 0) :
    ∃ selected buffer, p.integratePendingPerceptions canTransform =
        { p.select selected with pending := none, buffer := buffer } ∧
      buffer.capacity = p.bufferPending.capacity ∧
      Selects canTransform p.bufferPending.toList selected buffer.toList := by
  obtain ⟨hitems, hcapacity⟩ := CircularBuffer.drain_size p.bufferPending
  have hlength : p.bufferPending.toList.length ≤ p.bufferPending.capacity :=
    p.bufferPending.length_toList.trans_le p.bufferPending.size_le
  have hnil : p.bufferPending.toList ≠ [] := by
    rwa [ne_eq, CircularBuffer.toList_eq_nil_iff]
  unfold integratePendingPerceptions
  dsimp only
  rw [if_neg h]
  generalize CircularBuffer.drain p.bufferPending.size p.bufferPending = drained at *
  obtain ⟨items, drained⟩ := drained
  dsimp only at hitems hcapacity ⊢
  rw [← hitems, ← hcapacity] at hlength
  rw [← hitems] at hnil ⊢
  have hkept : ∀ {selected kept}, Selects canTransform items selected kept →
      (drained.clear.pushAll kept).capacity = p.bufferPending.capacity ∧
        Selects canTransform items selected (drained.clear.pushAll kept).toList := by
    intro selected kept hselects
    rw [toList_pushAll_clear (hselects.length_le.trans hlength), CircularBuffer.capacity_pushAll]
    exact ⟨hcapacity, hselects⟩
  split
  · rename_i selected hselected
    exact ⟨selected, _, rfl, hkept (.transformable hselected)⟩
  · rename_i selected hnone hselected
    exact ⟨selected, _, rfl, hkept (.newest hnone hselected)⟩
  · rename_i hnone
    have hsome := newest_isSome hnil
    rw [hnone] at hsome
    contradiction

/-- Integrating anything at all makes it visible, however old it is. -/
theorem integratePendingPerceptions_shown (h : p.bufferPending.size ≠ 0) :
    (p.integratePendingPerceptions canTransform).Shown := by
  obtain ⟨selected, buffer, heq, -, hselects⟩ :=
    p.integratePendingPerceptions_selects canTransform h
  rw [heq]
  refine ⟨rfl, rfl, rfl, ?_⟩
  change buffer.size ≠ 0
  rw [ne_eq, ← CircularBuffer.toList_eq_nil_iff]
  exact List.ne_nil_of_mem hselects.mem

theorem mem_of_integratePendingPerceptions {item : PointPerceptionBufferType C}
    (h : item ∈ (p.integratePendingPerceptions canTransform).bufferPending.toList) :
    item ∈ p.bufferPending.toList := by
  by_cases hempty : p.bufferPending.size = 0
  · rw [p.integratePendingPerceptions_of_empty canTransform hempty] at h
    exact h
  · obtain ⟨selected, buffer, heq, -, hselects⟩ :=
      p.integratePendingPerceptions_selects canTransform hempty
    rw [heq] at h
    exact hselects.subset h

/-- What is shown was shown before, or is one of the clouds that were there. -/
theorem integratePendingPerceptions_stamp
    (h : (p.integratePendingPerceptions canTransform).valid = true) :
    (p.valid = true ∧ (p.integratePendingPerceptions canTransform).stamp = p.stamp) ∨
      ∃ item ∈ p.bufferPending.toList,
        (p.integratePendingPerceptions canTransform).stamp = item.stamp := by
  by_cases hempty : p.bufferPending.size = 0
  · rw [p.integratePendingPerceptions_of_empty canTransform hempty] at h ⊢
    exact Or.inl ⟨h, rfl⟩
  · obtain ⟨selected, buffer, heq, -, hselects⟩ :=
      p.integratePendingPerceptions_selects canTransform hempty
    rw [heq]
    exact Or.inr ⟨selected, hselects.subset hselects.mem, rfl⟩

theorem integratePendingPerceptions_pending :
    (p.integratePendingPerceptions canTransform).pending = none := by
  by_cases h : p.bufferPending.size = 0
  · rw [integratePendingPerceptions_of_empty p canTransform h]
  · exact (p.integratePendingPerceptions_shown canTransform h).pending

/-- Integrating again, without a new message, leaves an invalid perception invalid just
when it keeps nothing. -/
theorem integratePendingPerceptions_valid_iff (hvalid : p.valid = false)
    (hpending : p.pending = none) :
    (p.integratePendingPerceptions canTransform).valid = false ↔ p.buffer.size = 0 := by
  rw [← bufferPending_of_none p hpending]
  constructor
  · intro h
    by_contra hkept
    have hshown := (p.integratePendingPerceptions_shown canTransform hkept).valid
    rw [h] at hshown
    contradiction
  · intro h
    rw [integratePendingPerceptions_of_empty p canTransform h]
    exact hvalid

end PointPerception

end EasyNav.PointPerceptions
