import EasyNav.CircularBuffers
import Mathlib.Data.List.Induction
import Mathlib.Logic.Function.Basic

/-!
Circular buffers as their users see them: several of them, copied and assigned to one another.
With its fields as the source keeps them, each behaves as a queue of bounded length.
-/

namespace EasyNav.BoundedQueues

open EasyNav.CircularBuffers

universe u v w

structure Storage (α : Type u) where
  buffer : Array α
  capacity : Nat
  head : Nat
  tail : Nat
  size : Nat
  deriving DecidableEq

namespace Storage

variable {α : Type u}

/-- `filler` stands for the values that the vector is allocated with. -/
def construct (filler : α) (capacity : Nat) : Storage α :=
  { buffer := Array.replicate capacity filler, capacity := capacity,
    head := 0, tail := 0, size := 0 }

def copyConstruct (filler : α) (other : Storage α) : Storage α :=
  { construct filler other.capacity with
    buffer := other.buffer
    head := other.head
    tail := other.tail
    size := other.size }

def assign (s other : Storage α) : Storage α :=
  { s with
    capacity := other.capacity
    buffer := other.buffer
    head := other.head
    tail := other.tail
    size := other.size }

def clear (s : Storage α) : Storage α := { s with head := 0, tail := 0, size := 0 }

def advanceHead (s : Storage α) : Storage α :=
  let s := { s with head := (s.head + 1) % s.capacity }
  if s.size < s.capacity then { s with size := s.size + 1 }
  else { s with tail := (s.tail + 1) % s.capacity }

/-- Nothing comes out of an index beyond the vector. -/
def push (s : Storage α) (value : α) : Option (Storage α) :=
  if h : s.head < s.buffer.size then some { s with buffer := s.buffer.set s.head value }.advanceHead
  else none

def pop (s : Storage α) : Option (Option α × Storage α) :=
  if s.size = 0 then some (none, s)
  else
    s.buffer[s.tail]?.map fun value =>
      (some value, { s with tail := (s.tail + 1) % s.capacity, size := s.size - 1 })

def latest (s : Storage α) : Option (Option α) :=
  if s.size = 0 then some none
  else s.buffer[(s.head + s.capacity - 1) % s.capacity]?.map some

end Storage

/-- Some of the last elements that were pushed, oldest first. -/
structure BoundedQueue (α : Type u) where
  capacity : Nat
  items : List α
  capacity_pos : 0 < capacity
  length_le : items.length ≤ capacity

namespace BoundedQueue

variable {α : Type u}

def empty (capacity : Nat) (h : 0 < capacity) : BoundedQueue α where
  capacity := capacity
  items := []
  capacity_pos := h
  length_le := Nat.zero_le _

def clear (q : BoundedQueue α) : BoundedQueue α := empty q.capacity q.capacity_pos

/-- If there is no room, the oldest element is dropped. -/
def push (q : BoundedQueue α) (value : α) : BoundedQueue α where
  capacity := q.capacity
  items := if q.items.length < q.capacity then q.items ++ [value] else q.items.tail ++ [value]
  capacity_pos := q.capacity_pos
  length_le := by
    have hpos := q.capacity_pos
    have hle := q.length_le
    split
    · rw [List.length_append, List.length_singleton]
      omega
    · rw [List.length_append, List.length_singleton, List.length_tail]
      omega

def pop (q : BoundedQueue α) : Option α × BoundedQueue α :=
  (q.items.head?, {
    capacity := q.capacity
    items := q.items.tail
    capacity_pos := q.capacity_pos
    length_le := by
      rw [List.length_tail]
      exact Nat.le_trans (Nat.sub_le _ _) q.length_le })

def latest (q : BoundedQueue α) : Option α := q.items.getLast?

end BoundedQueue

inductive Operation (α : Type u) where
  | construct (name capacity : Nat) (h : 0 < capacity)
  | copyConstruct (name source : Nat)
  | assign (name source : Nat)
  | push (name : Nat) (value : α)
  | pop (name : Nat)
  | latest (name : Nat)
  | clear (name : Nat)
  | size (name : Nat)
  | capacity (name : Nat)

def Operation.target {α : Type u} : Operation α → Nat
  | .construct name _ _ | .copyConstruct name _ | .assign name _ | .push name _ | .pop name
  | .latest name | .clear name | .size name | .capacity name => name

/-- What a call returns. `missing` is what comes of a buffer that does not exist, and `invalid`
of an access outside the vector. -/
inductive Result (α : Type u) where
  | done
  | element (found : Option α)
  | number (n : Nat)
  | missing
  | invalid
  deriving DecidableEq

/-- Buffers, whatever they are made of. -/
abbrev Buffers (β : Type v) := Nat → Option β

/-- What happens to one buffer, if it exists and the operation makes sense. -/
def onBuffer {α : Type u} {β : Type v} (buffers : Buffers β) (name : Nat)
    (f : β → Option (β × Result α)) : Buffers β × Result α :=
  match buffers name with
  | none => (buffers, .missing)
  | some b =>
      match f b with
      | none => (buffers, .invalid)
      | some (b, result) => (Function.update buffers name (some b), result)

section Steps

variable {α : Type u}

/-- Assigned to itself, a buffer is left alone. -/
def storageStep (filler : α) (buffers : Buffers (Storage α)) :
    Operation α → Buffers (Storage α) × Result α
  | .construct name capacity _ =>
      (Function.update buffers name (some (.construct filler capacity)), .done)
  | .copyConstruct name source =>
      match buffers source with
      | none => (buffers, .missing)
      | some other => (Function.update buffers name (some (.copyConstruct filler other)), .done)
  | .assign name source =>
      match buffers source with
      | none => (buffers, .missing)
      | some other =>
          onBuffer buffers name fun s =>
            some (if name = source then s else s.assign other, .done)
  | .push name value => onBuffer buffers name fun s => (s.push value).map fun s => (s, .done)
  | .pop name => onBuffer buffers name fun s => s.pop.map fun (found, s) => (s, .element found)
  | .latest name => onBuffer buffers name fun s => s.latest.map fun found => (s, .element found)
  | .clear name => onBuffer buffers name fun s => some (s.clear, .done)
  | .size name => onBuffer buffers name fun s => some (s, .number s.size)
  | .capacity name => onBuffer buffers name fun s => some (s, .number s.capacity)

def queueStep (queues : Buffers (BoundedQueue α)) :
    Operation α → Buffers (BoundedQueue α) × Result α
  | .construct name capacity h =>
      (Function.update queues name (some (.empty capacity h)), .done)
  | .copyConstruct name source =>
      match queues source with
      | none => (queues, .missing)
      | some other => (Function.update queues name (some other), .done)
  | .assign name source =>
      match queues source with
      | none => (queues, .missing)
      | some other => onBuffer queues name fun _ => some (other, .done)
  | .push name value => onBuffer queues name fun q => some (q.push value, .done)
  | .pop name => onBuffer queues name fun q => some (q.pop.2, .element q.pop.1)
  | .latest name => onBuffer queues name fun q => some (q, .element q.latest)
  | .clear name => onBuffer queues name fun q => some (q.clear, .done)
  | .size name => onBuffer queues name fun q => some (q, .number q.items.length)
  | .capacity name => onBuffer queues name fun q => some (q, .number q.capacity)

end Steps

section Representation

variable {α : Type u}

/-- The fields of a buffer whose indices are consistent. -/
def ofBuffer (b : CircularBuffer α) : Storage α :=
  { buffer := b.buffer, capacity := b.buffer.size, head := b.head, tail := b.tail, size := b.size }

/-- The fields are those of a buffer that has the items of the queue. -/
structure RepresentedBy (s : Storage α) (q : BoundedQueue α) (b : CircularBuffer α) : Prop where
  fields : s = ofBuffer b
  tail_lt : b.tail < b.capacity
  capacity : q.capacity = b.capacity
  items : q.items = b.toList

def Represents (s : Storage α) (q : BoundedQueue α) : Prop := ∃ b, RepresentedBy s q b

theorem construct_represents (filler : α) (capacity : Nat) (h : 0 < capacity) :
    Represents (.construct filler capacity) (.empty capacity h) := by
  have hcapacity : (CircularBuffer.allocate capacity filler h).capacity = capacity :=
    Array.size_replicate
  refine ⟨.allocate capacity filler h, ?_, ?_, hcapacity.symm, rfl⟩
  · simp [Storage.construct, ofBuffer, CircularBuffer.allocate]
  · rw [hcapacity]
    exact h

theorem copyConstruct_eq (filler : α) (other : Storage α) :
    Storage.copyConstruct filler other = other := rfl

theorem assign_eq (s other : Storage α) : s.assign other = other := rfl

theorem push_ofBuffer (b : CircularBuffer α) (value : α) :
    (ofBuffer b).push value = some (ofBuffer (b.push value)) := by
  rw [Storage.push, dif_pos (show (ofBuffer b).head < (ofBuffer b).buffer.size from b.head_lt)]
  refine congrArg some ?_
  rw [Storage.advanceHead]
  by_cases hroom : b.size < b.buffer.size
  · rw [if_pos (show (ofBuffer b).size < (ofBuffer b).capacity from hroom)]
    simp [ofBuffer, CircularBuffer.push, hroom]
  · rw [if_neg (show ¬ (ofBuffer b).size < (ofBuffer b).capacity from hroom)]
    simp [ofBuffer, CircularBuffer.push, hroom]

theorem getElem?_of_lt (b : CircularBuffer α) {position : Nat} (h : position < b.buffer.size) :
    b.buffer[position]? = some (b.cell position) := by
  have hmod : position % b.buffer.size = position := Nat.mod_eq_of_lt h
  rw [CircularBuffer.cell, Array.getElem?_eq_getElem h]
  simp only [hmod]

theorem pop_ofBuffer (b : CircularBuffer α) (htail : b.tail < b.capacity) (h : b.size ≠ 0) :
    (ofBuffer b).pop = some (some (b.cell b.tail), ofBuffer (b.dropOldest h)) := by
  rw [Storage.pop, if_neg (show (ofBuffer b).size ≠ 0 from h)]
  change (b.buffer[b.tail]?.map _) = _
  rw [getElem?_of_lt b htail, Option.map_some]
  rfl

variable {s : Storage α} {q : BoundedQueue α}

theorem push_represents (h : Represents s q) (value : α) :
    ∃ s', s.push value = some s' ∧ Represents s' (q.push value) := by
  obtain ⟨b, rfl, htail, hcapacity, hitems⟩ := h
  refine ⟨_, push_ofBuffer b value, b.push value, rfl, ?_, ?_, ?_⟩
  · rw [CircularBuffer.capacity_push]
    change (if b.size < b.buffer.size then b.tail else (b.tail + 1) % b.buffer.size) < _
    split
    · exact htail
    · exact Nat.mod_lt _ b.capacity_pos
  · rw [CircularBuffer.capacity_push]
    exact hcapacity
  · change (if q.items.length < q.capacity then q.items ++ [value] else q.items.tail ++ [value]) = _
    have hle := b.size_le
    rw [hitems, hcapacity, CircularBuffer.length_toList, CircularBuffer.capacity]
    split
    · rename_i hroom
      rw [CircularBuffer.toList_push_of_lt b value hroom]
    · rename_i hfull
      rw [CircularBuffer.toList_push_of_full b value (by omega)]

theorem clear_represents (h : Represents s q) : Represents s.clear q.clear := by
  obtain ⟨b, rfl, -, hcapacity, -⟩ := h
  exact ⟨b.clear, rfl, b.capacity_pos, hcapacity, rfl⟩

theorem pop_represents (h : Represents s q) :
    ∃ s', s.pop = some (q.pop.1, s') ∧ Represents s' q.pop.2 := by
  obtain ⟨b, rfl, htail, hcapacity, hitems⟩ := h
  have hfound : q.pop.1 = b.toList.head? := congrArg List.head? hitems
  have hrest : q.pop.2.items = b.toList.tail := congrArg List.tail hitems
  by_cases hempty : b.size = 0
  · have hnil : b.toList = [] := (CircularBuffer.toList_eq_nil_iff b).mpr hempty
    rw [hnil] at hfound hrest
    refine ⟨ofBuffer b, ?_, b, rfl, htail, hcapacity, hrest.trans hnil.symm⟩
    rw [Storage.pop, if_pos (show (ofBuffer b).size = 0 from hempty), hfound]
    rfl
  · rw [b.toList_dropOldest hempty] at hfound hrest
    refine ⟨ofBuffer (b.dropOldest hempty), ?_, b.dropOldest hempty, rfl, ?_, hcapacity, hrest⟩
    · rw [pop_ofBuffer b htail hempty, hfound]
      rfl
    · exact Nat.mod_lt _ b.capacity_pos

theorem latest_represents (h : Represents s q) : s.latest = some q.latest := by
  obtain ⟨b, rfl, -, -, hitems⟩ := h
  have hfound : q.latest = b.latest := by
    rw [BoundedQueue.latest, hitems, CircularBuffer.latest_eq]
  rw [hfound, Storage.latest, CircularBuffer.latest]
  by_cases hempty : b.size = 0
  · rw [if_pos (show (ofBuffer b).size = 0 from hempty), if_pos hempty]
  · rw [if_neg (show (ofBuffer b).size ≠ 0 from hempty), if_neg hempty]
    change (b.buffer[(b.head + b.buffer.size - 1) % b.buffer.size]?.map some) = _
    rw [getElem?_of_lt b (Nat.mod_lt _ b.capacity_pos), Option.map_some]
    refine congrArg (some ∘ some) (b.cell_congr ?_)
    rw [Nat.mod_mod]

theorem size_represents (h : Represents s q) : s.size = q.items.length := by
  obtain ⟨b, rfl, -, -, hitems⟩ := h
  rw [hitems, CircularBuffer.length_toList]
  rfl

theorem capacity_represents (h : Represents s q) : s.capacity = q.capacity := by
  obtain ⟨b, rfl, -, hcapacity, -⟩ := h
  exact hcapacity.symm

end Representation

section Agreement

variable {α : Type u} {β : Type v} {γ : Type w} {R : β → γ → Prop}

def Agree (R : β → γ → Prop) (a : Buffers β) (b : Buffers γ) : Prop :=
  ∀ name, Option.Rel R (a name) (b name)

theorem Agree.update {a : Buffers β} {b : Buffers γ} (h : Agree R a b) {x : β} {y : γ}
    (hxy : R x y) (name : Nat) :
    Agree R (Function.update a name (some x)) (Function.update b name (some y)) := by
  intro other
  by_cases heq : other = name
  · subst heq
    rw [Function.update_self, Function.update_self]
    exact .some hxy
  · rw [Function.update_of_ne heq, Function.update_of_ne heq]
    exact h other

/-- Related buffers stay related, and answer alike, if what is done to one of them keeps the
relation and answers alike. -/
theorem Agree.onBuffer {a : Buffers β} {b : Buffers γ} (h : Agree R a b) (name : Nat)
    {f : β → Option (β × Result α)} {g : γ → Option (γ × Result α)}
    (hfg : ∀ x y, a name = some x → b name = some y → R x y →
      ∃ x' y' result, f x = some (x', result) ∧ g y = some (y', result) ∧ R x' y') :
    Agree R (onBuffer a name f).1 (onBuffer b name g).1 ∧
      (BoundedQueues.onBuffer a name f).2 = (BoundedQueues.onBuffer b name g).2 := by
  have hname := h name
  rw [BoundedQueues.onBuffer, BoundedQueues.onBuffer]
  generalize ha : a name = x at hname
  generalize hb : b name = y at hname
  cases hname with
  | none => exact ⟨h, rfl⟩
  | @some x y hxy =>
      obtain ⟨x', y', result, hf, hg, hxy'⟩ := hfg x y ha hb hxy
      dsimp only
      rw [hf, hg]
      exact ⟨h.update hxy' name, rfl⟩

end Agreement

section Refinement

variable {α : Type u} {filler : α} {buffers : Buffers (Storage α)}
  {queues : Buffers (BoundedQueue α)}

/-- Every operation keeps the buffers and the queues in agreement, and returns the same. -/
theorem step_agrees (filler : α) (h : Agree Represents buffers queues) (op : Operation α) :
    Agree Represents (storageStep filler buffers op).1 (queueStep queues op).1 ∧
      (storageStep filler buffers op).2 = (queueStep queues op).2 := by
  cases op with
  | construct name capacity hpos =>
      exact ⟨h.update (construct_represents filler capacity hpos) name, rfl⟩
  | copyConstruct name source =>
      have hsource := h source
      rw [storageStep, queueStep]
      generalize buffers source = x at hsource
      generalize queues source = y at hsource
      cases hsource with
      | none => exact ⟨h, rfl⟩
      | some hxy =>
          simp only [copyConstruct_eq, and_true]
          exact h.update hxy name
  | assign name source =>
      have hsource := h source
      rw [storageStep, queueStep]
      generalize hx : buffers source = x at hsource
      generalize hy : queues source = y at hsource
      cases hsource with
      | none => exact ⟨h, rfl⟩
      | @some other queue hxy =>
          refine h.onBuffer name fun s q hs hq hsq => ⟨_, queue, .done, rfl, rfl, ?_⟩
          by_cases hself : name = source
          · subst hself
            obtain rfl := Option.some.inj (hs.symm.trans hx)
            rw [if_pos rfl]
            exact hxy
          · rw [if_neg hself, assign_eq]
            exact hxy
  | push name value =>
      refine h.onBuffer name fun s q _ _ hsq => ?_
      obtain ⟨s', hpush, hs'⟩ := push_represents hsq value
      exact ⟨s', q.push value, .done, by rw [hpush]; rfl, rfl, hs'⟩
  | pop name =>
      refine h.onBuffer name fun s q _ _ hsq => ?_
      obtain ⟨s', hpop, hs'⟩ := pop_represents hsq
      exact ⟨s', q.pop.2, .element q.pop.1, by rw [hpop]; rfl, rfl, hs'⟩
  | latest name =>
      refine h.onBuffer name fun s q _ _ hsq => ?_
      exact ⟨s, q, .element q.latest, by rw [latest_represents hsq]; rfl, rfl, hsq⟩
  | clear name =>
      refine h.onBuffer name fun s q _ _ hsq => ?_
      exact ⟨s.clear, q.clear, .done, rfl, rfl, clear_represents hsq⟩
  | size name =>
      refine h.onBuffer name fun s q _ _ hsq => ?_
      exact ⟨s, q, .number s.size, rfl, by rw [size_represents hsq], hsq⟩
  | capacity name =>
      refine h.onBuffer name fun s q _ _ hsq => ?_
      exact ⟨s, q, .number s.capacity, rfl, by rw [capacity_represents hsq], hsq⟩

theorem storageStep_of_ne (buffers : Buffers (Storage α)) (op : Operation α) {name : Nat}
    (h : op.target ≠ name) : (storageStep filler buffers op).1 name = buffers name := by
  have honBuffer : ∀ (target : Nat) (f : Storage α → Option (Storage α × Result α)),
      target ≠ name → (onBuffer buffers target f).1 name = buffers name := by
    intro target f hne
    rw [onBuffer]
    split
    · rfl
    · split
      · rfl
      · exact Function.update_of_ne hne.symm ..
  cases op with
  | construct target capacity hpos => exact Function.update_of_ne (Ne.symm h) ..
  | copyConstruct target source =>
      rw [storageStep]
      split
      · rfl
      · exact Function.update_of_ne (Ne.symm h) ..
  | assign target source =>
      rw [storageStep]
      split
      · rfl
      · exact honBuffer target _ h
  | push target value => exact honBuffer target _ h
  | pop target => exact honBuffer target _ h
  | latest target => exact honBuffer target _ h
  | clear target => exact honBuffer target _ h
  | size target => exact honBuffer target _ h
  | capacity target => exact honBuffer target _ h

theorem copied (buffers : Buffers (Storage α)) {name source : Nat} {other : Storage α}
    (hsource : buffers source = some other) :
    (storageStep filler buffers (.copyConstruct name source)).1 name = some other ∧
      ((buffers name).isSome →
        (storageStep filler buffers (.assign name source)).1 name = some other) := by
  constructor
  · rw [storageStep, hsource]
    exact Function.update_self ..
  · intro hname
    obtain ⟨s, hs⟩ := Option.isSome_iff_exists.mp hname
    rw [storageStep, hsource]
    dsimp only
    rw [onBuffer, hs]
    dsimp only
    rw [Function.update_self]
    split
    · rename_i hself
      rw [← hs, hself, hsource]
    · rfl

/-- The buffers after these operations, from none, and what they returned. -/
def perform {β : Type v} (step : Buffers β → Operation α → Buffers β × Result α)
    (ops : List (Operation α)) : Buffers β × List (Result α) :=
  ops.foldl (fun (buffers, results) op =>
    ((step buffers op).1, results ++ [(step buffers op).2])) (fun _ => none, [])

theorem perform_append {β : Type v} (step : Buffers β → Operation α → Buffers β × Result α)
    (ops : List (Operation α)) (op : Operation α) :
    perform step (ops ++ [op]) =
      ((step (perform step ops).1 op).1,
        (perform step ops).2 ++ [(step (perform step ops).1 op).2]) := by
  rw [perform, List.foldl_append]
  rfl

theorem perform_agrees (filler : α) (ops : List (Operation α)) :
    Agree Represents (perform (storageStep filler) ops).1 (perform queueStep ops).1 ∧
      (perform (storageStep filler) ops).2 = (perform queueStep ops).2 := by
  induction ops using List.reverseRecOn with
  | nil => exact ⟨fun _ => .none, rfl⟩
  | append_singleton ops op ih =>
      obtain ⟨hagree, hresults⟩ := ih
      obtain ⟨hnext, hresult⟩ := step_agrees filler hagree op
      rw [perform_append, perform_append]
      dsimp only
      rw [hresults, hresult]
      exact ⟨hnext, rfl⟩

end Refinement

/-- Whatever is done to the buffers, each of them holds the items of a bounded queue to which
the same is done, every call returns what it does for the queue, a copy is as its source and
no call changes another buffer. -/
theorem buffers_refine_queues {α : Type u} (filler : α) (ops : List (Operation α)) :
    Agree Represents (perform (storageStep filler) ops).1 (perform queueStep ops).1 ∧
      (perform (storageStep filler) ops).2 = (perform queueStep ops).2 ∧
      (∀ name source, ((perform (storageStep filler) ops).1 source).isSome →
        (storageStep filler (perform (storageStep filler) ops).1
            (.copyConstruct name source)).1 name = (perform (storageStep filler) ops).1 source ∧
          (((perform (storageStep filler) ops).1 name).isSome →
            (storageStep filler (perform (storageStep filler) ops).1
              (.assign name source)).1 name = (perform (storageStep filler) ops).1 source)) ∧
      ∀ op name, op.target ≠ name →
        (storageStep filler (perform (storageStep filler) ops).1 op).1 name =
          (perform (storageStep filler) ops).1 name := by
  obtain ⟨hagree, hresults⟩ := perform_agrees filler ops
  refine ⟨hagree, hresults, fun name source hsource => ?_, fun op name hne => ?_⟩
  · obtain ⟨other, hother⟩ := Option.isSome_iff_exists.mp hsource
    rw [hother]
    exact copied _ hother
  · exact storageStep_of_ne _ op hne

def copiedAndPopped : List (Operation Nat) :=
  [.construct 0 2 (by decide), .push 0 1, .push 0 2, .push 0 3, .copyConstruct 1 0, .pop 1,
    .construct 2 1 (by decide), .assign 2 0, .push 2 4, .pop 2, .latest 0, .size 0, .size 1]

theorem buffers_refine_queues_copied :
    (perform (storageStep 0) copiedAndPopped).2 =
        [.done, .done, .done, .done, .done, .element (some 2), .done, .done, .done,
          .element (some 3), .element (some 3), .number 2, .number 1] ∧
      (perform (storageStep 0) copiedAndPopped).2 = (perform queueStep copiedAndPopped).2 ∧
      (storageStep 0 (perform (storageStep 0) copiedAndPopped).1 (.copyConstruct 3 0)).1 3 =
        (perform (storageStep 0) copiedAndPopped).1 0 ∧
      (storageStep 0 (perform (storageStep 0) copiedAndPopped).1 (.pop 1)).1 0 =
        (perform (storageStep 0) copiedAndPopped).1 0 := by
  obtain ⟨-, hresults, hcopied, hothers⟩ := buffers_refine_queues 0 copiedAndPopped
  exact ⟨by decide, hresults, (hcopied 3 0 (by decide)).1, hothers (.pop 1) 0 (by decide)⟩

end EasyNav.BoundedQueues
