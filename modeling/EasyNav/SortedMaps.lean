import Mathlib.Order.Lattice
import Mathlib.Tactic.Tauto

namespace EasyNav.SortedMaps

universe u v

variable {α : Type u} {β : Type v} [LinearOrder α] [BEq α] [LawfulBEq α]

/-- Changes what is under a key, or puts something there. -/
def alter (key : α) (f : Option β → β) : List (α × β) → List (α × β)
  | [] => [(key, f none)]
  | entry :: entries =>
      if entry.1 = key then (key, f (some entry.2)) :: entries
      else if key < entry.1 then (key, f none) :: entry :: entries
      else entry :: alter key f entries

def Sorted (entries : List (α × β)) : Prop := (entries.map Prod.fst).Pairwise (· < ·)

variable {key other : α} {f : Option β → β} {entries : List (α × β)}

theorem mem_keys_alter :
    other ∈ (alter key f entries).map Prod.fst ↔
      other = key ∨ other ∈ entries.map Prod.fst := by
  induction entries with
  | nil => simp [alter]
  | cons entry entries ih =>
      simp only [alter]
      split
      · rename_i heq
        simp [heq]
      · split
        · simp
        · simp only [List.map_cons, List.mem_cons, ih]
          tauto

theorem Sorted.alter (h : Sorted entries) : Sorted (alter key f entries) := by
  induction entries with
  | nil => simp [SortedMaps.alter, Sorted]
  | cons entry entries ih =>
      obtain ⟨hfirst, hrest⟩ := List.pairwise_cons.mp h
      simp only [SortedMaps.alter]
      split
      · rename_i heq
        subst heq
        exact h
      · rename_i hne
        split
        · rename_i hlt
          refine List.pairwise_cons.mpr ⟨fun other hother => ?_, h⟩
          rcases List.mem_cons.mp hother with rfl | hmem
          · exact hlt
          · exact lt_trans hlt (hfirst other hmem)
        · rename_i hle
          refine List.pairwise_cons.mpr ⟨fun other hother => ?_, ih hrest⟩
          rcases mem_keys_alter.mp hother with rfl | hmem
          · exact lt_of_le_of_ne (not_lt.mp hle) hne
          · exact hfirst other hmem

theorem lookup_eq_none_of_lt (h : ∀ other ∈ entries.map Prod.fst, key < other) :
    entries.lookup key = none := by
  rw [List.lookup_eq_none_iff]
  rintro ⟨other, value⟩ hmem
  have hlt := h other (List.mem_map_of_mem hmem)
  simpa using ne_of_lt hlt

theorem Sorted.lookup_alter (h : Sorted entries) :
    (SortedMaps.alter key f entries).lookup other =
      if other = key then some (f (entries.lookup key)) else entries.lookup other := by
  induction entries with
  | nil =>
      by_cases hother : other = key
      · simp [SortedMaps.alter, hother]
      · simp [SortedMaps.alter, List.lookup_cons, beq_false_of_ne hother, hother]
  | cons entry entries ih =>
      obtain ⟨first, value⟩ := entry
      obtain ⟨hfirst, hrest⟩ := List.pairwise_cons.mp h
      simp only [SortedMaps.alter]
      split
      · rename_i heq
        subst heq
        by_cases hother : other = first
        · simp [hother]
        · simp [List.lookup_cons, beq_false_of_ne hother, hother]
      · rename_i hne
        have hkey := beq_false_of_ne (Ne.symm hne)
        split
        · rename_i hlt
          have hnone : entries.lookup key = none :=
            lookup_eq_none_of_lt fun other hother => lt_trans hlt (hfirst other hother)
          by_cases hother : other = key
          · simp [List.lookup_cons, hother, hkey, hnone]
          · simp [List.lookup_cons, beq_false_of_ne hother, hother]
        · rw [List.lookup_cons, ih hrest, List.lookup_cons, List.lookup_cons, hkey]
          by_cases hother : other = key
          · simp [hother, hkey]
          · simp [hother]

theorem Sorted.mem_iff (h : Sorted entries) {value : β} :
    (key, value) ∈ entries ↔ entries.lookup key = some value := by
  induction entries with
  | nil => simp
  | cons entry entries ih =>
      obtain ⟨first, stored⟩ := entry
      obtain ⟨hfirst, hrest⟩ := List.pairwise_cons.mp h
      rw [List.mem_cons, List.lookup_cons, ih hrest]
      by_cases heq : key = first
      · subst heq
        have hnone : entries.lookup key = none := lookup_eq_none_of_lt hfirst
        simp [hnone, eq_comm]
      · simp [beq_false_of_ne heq, heq]

end EasyNav.SortedMaps
