import Mathlib.Data.List.Basic

namespace EasyNav.CircularBuffers

universe u

/-- `head` is the next position to write, and `tail` the next one to read. -/
structure CircularBuffer (α : Type u) where
  buffer : Array α
  head : Nat
  tail : Nat
  size : Nat
  capacity_pos : 0 < buffer.size
  size_le : size ≤ buffer.size
  head_eq : head = (tail + size) % buffer.size

namespace CircularBuffer

variable {α : Type u} (b : CircularBuffer α)

def capacity : Nat := b.buffer.size

theorem head_lt : b.head < b.buffer.size := by
  rw [b.head_eq]
  exact Nat.mod_lt _ b.capacity_pos

/-- An empty buffer; `filler` stands for the values that it is allocated with. -/
def allocate (capacity : Nat) (filler : α) (h : 0 < capacity) : CircularBuffer α where
  buffer := Array.replicate capacity filler
  head := 0
  tail := 0
  size := 0
  capacity_pos := by rwa [Array.size_replicate]
  size_le := Nat.zero_le _
  head_eq := by rw [Nat.zero_mod]

def clear : CircularBuffer α where
  buffer := b.buffer
  head := 0
  tail := 0
  size := 0
  capacity_pos := b.capacity_pos
  size_le := Nat.zero_le _
  head_eq := by rw [Nat.zero_mod]

/-- Overwrites the oldest element if the buffer is full. -/
def push (value : α) : CircularBuffer α where
  buffer := b.buffer.set b.head value b.head_lt
  head := (b.head + 1) % b.buffer.size
  tail := if b.size < b.buffer.size then b.tail else (b.tail + 1) % b.buffer.size
  size := if b.size < b.buffer.size then b.size + 1 else b.size
  capacity_pos := by
    rw [Array.size_set]
    exact b.capacity_pos
  size_le := by
    rw [Array.size_set]
    have h := b.size_le
    split
    · omega
    · exact h
  head_eq := by
    rw [Array.size_set, b.head_eq, Nat.mod_add_mod]
    split
    · rfl
    · rw [Nat.mod_add_mod, Nat.add_right_comm]

/-- The element at a position, which wraps around. -/
def cell (position : Nat) : α :=
  have h := Nat.mod_lt position b.capacity_pos
  b.buffer[position % b.buffer.size]

def dropOldest (h : b.size ≠ 0) : CircularBuffer α where
  buffer := b.buffer
  head := b.head
  tail := (b.tail + 1) % b.buffer.size
  size := b.size - 1
  capacity_pos := b.capacity_pos
  size_le := Nat.le_trans (Nat.sub_le _ _) b.size_le
  head_eq := by
    have hsize : b.tail + 1 + (b.size - 1) = b.tail + b.size := by omega
    rw [Nat.mod_add_mod, hsize, b.head_eq]

def pop : Option (α × CircularBuffer α) :=
  if h : b.size = 0 then none else some (b.cell b.tail, b.dropOldest h)

def latest : Option α :=
  if b.size = 0 then none else some (b.cell (b.head + b.buffer.size - 1))

def toList : List α := (List.range b.size).map fun offset => b.cell (b.tail + offset)

@[simp] theorem length_toList : b.toList.length = b.size := by
  unfold toList
  rw [List.length_map, List.length_range]

@[simp] theorem capacity_push (value : α) : (b.push value).capacity = b.capacity :=
  Array.size_set b.head_lt

@[simp] theorem capacity_clear : b.clear.capacity = b.capacity := rfl

@[simp] theorem toList_clear : b.clear.toList = [] := rfl

theorem toList_eq_nil_iff : b.toList = [] ↔ b.size = 0 := by
  rw [← List.length_eq_zero_iff, length_toList]

theorem cell_congr {i j : Nat} (h : i % b.buffer.size = j % b.buffer.size) :
    b.cell i = b.cell j := by
  unfold cell
  simp only [h]

theorem cell_push (value : α) (position : Nat) :
    (b.push value).cell position =
      if position % b.buffer.size = b.head then value else b.cell position := by
  unfold cell push
  simp only [Array.size_set, Array.getElem_set, eq_comm]

theorem mod_ne_of_lt {start i j turn : Nat} (hij : i < j) (hturn : j - i < turn) :
    (start + i) % turn ≠ (start + j) % turn := by
  intro h
  have hzero := Nat.sub_mod_eq_zero_of_mod_eq h.symm
  rw [Nat.add_sub_add_left, Nat.mod_eq_of_lt hturn] at hzero
  omega

theorem cell_push_of_lt (value : α) {offset : Nat} (hoffset : offset < b.size)
    (hdistance : b.size - offset < b.buffer.size) :
    (b.push value).cell (b.tail + offset) = b.cell (b.tail + offset) := by
  rw [cell_push, if_neg]
  rw [b.head_eq]
  exact mod_ne_of_lt hoffset hdistance

theorem cell_push_head (value : α) : (b.push value).cell (b.tail + b.size) = value := by
  rw [cell_push, if_pos b.head_eq.symm]

theorem toList_push_of_lt (value : α) (h : b.size < b.buffer.size) :
    (b.push value).toList = b.toList ++ [value] := by
  have hsize : (b.push value).size = b.size + 1 := if_pos h
  have htail : (b.push value).tail = b.tail := if_pos h
  unfold toList
  rw [hsize, htail, List.range_succ, List.map_append, List.map_singleton, cell_push_head]
  congr 1
  apply List.map_congr_left
  intro offset hoffset
  have hlt := List.mem_range.mp hoffset
  exact b.cell_push_of_lt value hlt (by omega)

theorem range_succ_tail (n : Nat) : (List.range (n + 1)).tail = (List.range n).map Nat.succ := by
  rw [List.range_succ_eq_map, List.tail_cons]

theorem toList_push_of_full (value : α) (h : b.size = b.buffer.size) :
    (b.push value).toList = b.toList.tail ++ [value] := by
  have hfull : ¬ b.size < b.buffer.size := by omega
  have hsize : (b.push value).size = b.size := if_neg hfull
  have htail : (b.push value).tail = (b.tail + 1) % b.buffer.size := if_neg hfull
  have hpos := b.capacity_pos
  obtain ⟨n, hn⟩ : ∃ n, b.size = n + 1 := ⟨b.size - 1, by omega⟩
  have hcell : ∀ offset, (b.push value).cell ((b.push value).tail + offset) =
      (b.push value).cell (b.tail + (offset + 1)) := by
    intro offset
    have hcapacity : (b.push value).buffer.size = b.buffer.size := capacity_push b value
    apply cell_congr
    rw [htail, hcapacity, Nat.mod_add_mod, Nat.add_assoc, Nat.add_comm 1]
  unfold toList
  rw [hsize, hn, ← List.map_tail, range_succ_tail, List.map_map, List.range_succ,
    List.map_append, List.map_singleton, hcell, ← hn, cell_push_head]
  congr 1
  apply List.map_congr_left
  intro offset hoffset
  have hlt := List.mem_range.mp hoffset
  rw [hcell]
  exact b.cell_push_of_lt value (by omega) (by omega)

theorem toList_push (value : α) :
    (b.push value).toList =
      (b.toList ++ [value]).drop (b.toList.length + 1 - b.capacity) := by
  have hle := b.size_le
  rw [length_toList]
  unfold capacity
  by_cases h : b.size < b.buffer.size
  · have hdrop : b.size + 1 - b.buffer.size = 0 := by omega
    rw [toList_push_of_lt b value h, hdrop, List.drop_zero]
  · have hfull : b.size = b.buffer.size := by omega
    have hdrop : b.size + 1 - b.buffer.size = 1 := by omega
    have hpos := b.capacity_pos
    have hnil : b.toList ≠ [] := by
      rw [ne_eq, toList_eq_nil_iff]
      omega
    rw [toList_push_of_full b value hfull, hdrop, List.drop_one, List.tail_append_of_ne_nil hnil]

theorem pop_eq_none_iff : b.pop = none ↔ b.toList = [] := by
  rw [toList_eq_nil_iff]
  unfold pop
  split
  · simp_all
  · simp_all

theorem toList_dropOldest (h : b.size ≠ 0) :
    b.toList = b.cell b.tail :: (b.dropOldest h).toList := by
  obtain ⟨n, hn⟩ : ∃ n, b.size = n + 1 := ⟨b.size - 1, by omega⟩
  change _ = _ :: (List.range (b.size - 1)).map fun offset =>
    b.cell ((b.tail + 1) % b.buffer.size + offset)
  unfold toList
  rw [hn, List.range_succ_eq_map, List.map_cons, List.map_map, Nat.add_zero,
    Nat.add_sub_cancel]
  congr 1
  apply List.map_congr_left
  intro offset _
  apply cell_congr
  rw [Nat.mod_add_mod, Nat.add_assoc, Nat.add_comm 1]

theorem toList_of_pop {b b' : CircularBuffer α} {value : α} (h : b.pop = some (value, b')) :
    b.toList = value :: b'.toList ∧ b'.capacity = b.capacity := by
  unfold pop at h
  split at h
  · contradiction
  · rename_i hsize
    obtain ⟨rfl, rfl⟩ := Prod.mk.inj (Option.some.inj h)
    exact ⟨b.toList_dropOldest hsize, rfl⟩

theorem latest_eq : b.latest = b.toList.getLast? := by
  unfold latest
  split
  · rename_i h
    rw [(toList_eq_nil_iff b).mpr h, List.getLast?_nil]
  · rename_i h
    obtain ⟨n, hn⟩ : ∃ n, b.size = n + 1 := ⟨b.size - 1, by omega⟩
    have hpos := b.capacity_pos
    have hposition : b.head + b.buffer.size - 1 = b.head + (b.buffer.size - 1) := by omega
    have hturn : b.tail + (n + 1) + (b.buffer.size - 1) = b.tail + n + b.buffer.size := by omega
    unfold toList
    rw [hn, List.range_succ, List.map_append, List.map_singleton, List.getLast?_concat]
    congr 1
    apply cell_congr
    rw [b.head_eq, hn] at hposition
    rw [b.head_eq, hn, hposition, Nat.mod_add_mod, hturn, Nat.add_mod_right]

/-- Pops until the buffer is empty, `count` times at most. -/
def drain : Nat → CircularBuffer α → List α × CircularBuffer α
  | 0, b => ([], b)
  | count + 1, b =>
      match b.pop with
      | none => ([], b)
      | some (value, b) =>
          let (values, b) := drain count b
          (value :: values, b)

theorem drain_size (b : CircularBuffer α) :
    (drain b.size b).1 = b.toList ∧ (drain b.size b).2.capacity = b.capacity := by
  generalize hcount : b.size = count
  induction count generalizing b with
  | zero => exact ⟨((toList_eq_nil_iff b).mpr hcount).symm, rfl⟩
  | succ count ih =>
      unfold drain
      cases hpop : b.pop with
      | none =>
          have hnil := (pop_eq_none_iff b).mp hpop
          rw [toList_eq_nil_iff] at hnil
          omega
      | some popped =>
          obtain ⟨value, rest⟩ := popped
          obtain ⟨hlist, hcapacity⟩ := toList_of_pop hpop
          have hrest : rest.size = count := by
            have hlength := congrArg List.length hlist
            rw [List.length_cons, length_toList, length_toList] at hlength
            omega
          obtain ⟨hvalues, hrestCapacity⟩ := ih rest hrest
          dsimp only
          rw [hlist, hvalues, hrestCapacity, hcapacity]
          exact ⟨rfl, rfl⟩

def pushAll (values : List α) : CircularBuffer α := values.foldl push b

@[simp] theorem capacity_pushAll (values : List α) :
    (b.pushAll values).capacity = b.capacity := by
  unfold pushAll
  induction values generalizing b with
  | nil => rfl
  | cons value values ih => rw [List.foldl_cons, ih, capacity_push]

theorem toList_pushAll (values : List α) (h : b.size + values.length ≤ b.capacity) :
    (b.pushAll values).toList = b.toList ++ values := by
  unfold pushAll
  induction values generalizing b with
  | nil => rw [List.foldl_nil, List.append_nil]
  | cons value values ih =>
      rw [List.length_cons] at h
      have hlt : b.size < b.buffer.size := by
        unfold capacity at h
        omega
      have hsize : (b.push value).size = b.size + 1 := if_pos hlt
      rw [List.foldl_cons, ih, toList_push_of_lt b value hlt, List.append_assoc]
      · rfl
      · rw [hsize, capacity_push]
        omega

end CircularBuffer

end EasyNav.CircularBuffers
