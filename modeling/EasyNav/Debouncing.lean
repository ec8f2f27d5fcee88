import Mathlib.Algebra.Order.Group.Defs
import Mathlib.Algebra.Order.Sub.Basic
import Mathlib.Data.List.Basic
import Mathlib.Data.List.Chain
import Mathlib.Data.List.Induction

namespace EasyNav.Debouncing

universe u

variable {α : Type u} [AddCommGroup α] [LinearOrder α] [IsOrderedAddMonoid α]

/-- The event comes more than `d` after the last one that counted, if any did. -/
def Due (d : α) (last : Option α) (t : α) : Prop := ∀ s ∈ last, d < t - s

instance (d : α) (last : Option α) (t : α) : Decidable (Due d last t) :=
  inferInstanceAs (Decidable (∀ s ∈ last, d < t - s))

/-- The events that count. -/
def counted (d : α) : Option α → List α → List α
  | _, [] => []
  | last, t :: times =>
      if Due d last t then t :: counted d (some t) times else counted d last times

/-- Each event comes more than `d` after the one before. -/
def Spaced (d : α) : Option α → List α → Prop
  | _, [] => True
  | last, t :: times => Due d last t ∧ Spaced d (some t) times

variable {d : α} {last : Option α} {times chosen : List α}

omit [IsOrderedAddMonoid α] in
theorem counted_sublist : (counted d last times).Sublist times := by
  induction times generalizing last with
  | nil => exact List.Sublist.refl _
  | cons t times ih =>
      rw [counted]
      split
      · exact ih.cons_cons t
      · exact ih.cons t

/-- The last event that counts, or the one before them. -/
def lastCounted (d : α) : Option α → List α → Option α
  | last, [] => last
  | last, t :: times => lastCounted d (if Due d last t then some t else last) times

omit [IsOrderedAddMonoid α] in
theorem counted_append_singleton (t : α) :
    counted d last (times ++ [t]) =
      counted d last times ++ if Due d (lastCounted d last times) t then [t] else [] := by
  induction times generalizing last with
  | nil =>
      rw [List.nil_append, lastCounted]
      by_cases hdue : Due d last t <;> simp [counted, hdue]
  | cons s times ih =>
      rw [List.cons_append, counted, counted, lastCounted]
      split
      · rw [ih, List.cons_append]
      · exact ih

omit [IsOrderedAddMonoid α] in
theorem lastCounted_append_singleton (t : α) :
    lastCounted d last (times ++ [t]) =
      if Due d (lastCounted d last times) t then some t else lastCounted d last times := by
  induction times generalizing last with
  | nil => rfl
  | cons s times ih => exact ih

omit [IsOrderedAddMonoid α] in
theorem lastCounted_mem {t : α} (h : lastCounted d last times = some t) :
    last = some t ∨ t ∈ times := by
  induction times generalizing last with
  | nil => exact Or.inl h
  | cons s times ih =>
      rw [lastCounted] at h
      rcases ih h with hlast | hmem
      · split at hlast
        · obtain rfl := Option.some.inj hlast
          exact Or.inr List.mem_cons_self
        · exact Or.inl hlast
      · exact Or.inr (List.mem_cons_of_mem _ hmem)

omit [IsOrderedAddMonoid α] in
theorem counted_spaced : Spaced d last (counted d last times) := by
  induction times generalizing last with
  | nil => trivial
  | cons t times ih =>
      rw [counted]
      split
      · rename_i hdue
        exact ⟨hdue, ih⟩
      · exact ih

theorem Spaced.of_le {s t : α} (hle : s ≤ t) (h : Spaced d (some t) chosen) :
    Spaced d (some s) chosen := by
  cases chosen with
  | nil => trivial
  | cons u chosen =>
      obtain ⟨hdue, hspaced⟩ := h
      refine ⟨?_, hspaced⟩
      intro r hr
      obtain rfl := Option.some.inj hr
      exact (hdue t rfl).trans_le (sub_le_sub_left hle u)

omit [IsOrderedAddMonoid α] in
theorem Spaced.take (h : Spaced d last chosen) (n : Nat) : Spaced d last (chosen.take n) := by
  induction chosen generalizing last n with
  | nil =>
      rw [List.take_nil]
      trivial
  | cons t chosen ih =>
      cases n with
      | zero => trivial
      | succ n => exact ⟨h.1, ih h.2 n⟩

theorem length_le_counted (hsorted : times.Pairwise (· ≤ ·)) (hchosen : chosen.Sublist times)
    (hspaced : Spaced d last chosen) : chosen.length ≤ (counted d last times).length := by
  induction times generalizing last chosen with
  | nil =>
      obtain rfl := List.sublist_nil.mp hchosen
      exact Nat.zero_le _
  | cons t times ih =>
      obtain ⟨hle, hsorted⟩ := List.pairwise_cons.mp hsorted
      cases chosen with
      | nil => exact Nat.zero_le _
      | cons u chosen =>
          rw [counted]
          split
          · -- `t` is as good a first choice as `u`.
            have htu : t ≤ u := by
              rcases List.mem_cons.mp (hchosen.subset List.mem_cons_self) with rfl | hmem
              · exact le_rfl
              · exact hle u hmem
            have hlength := ih hsorted hchosen.of_cons_cons (hspaced.2.of_le htu)
            exact Nat.succ_le_succ hlength
          · rename_i hdue
            have hne : u ≠ t := by
              rintro rfl
              exact hdue hspaced.1
            exact ih hsorted (hchosen.of_cons_of_ne hne) hspaced

/-- As many events count as can be chosen far enough apart. -/
theorem le_counted_iff (hsorted : times.Pairwise (· ≤ ·)) (n : Nat) :
    n ≤ (counted d last times).length ↔
      ∃ chosen : List α, chosen.Sublist times ∧ Spaced d last chosen ∧ chosen.length = n := by
  constructor
  · intro hle
    refine ⟨(counted d last times).take n, ?_, ?_, ?_⟩
    · exact (List.take_sublist n _).trans counted_sublist
    · exact Spaced.take counted_spaced n
    · rw [List.length_take, min_eq_left hle]
  · rintro ⟨chosen, hchosen, hspaced, rfl⟩
    exact length_le_counted hsorted hchosen hspaced

/-- Of events at most `g` apart, those that count are at most `d + g` apart: here `s` is the
last that counted, and `r` the last event. -/
theorem counted_isChain (hd : 0 ≤ d) {g r s : α}
    (htimes : (r :: times).IsChain fun s t => t - s ≤ g) (hr : r - s ≤ d) :
    (s :: counted d (some s) times).IsChain fun s t => d < t - s ∧ t - s ≤ d + g := by
  induction times generalizing r s with
  | nil => exact List.isChain_singleton s
  | cons t times ih =>
      obtain ⟨htr, htimes⟩ := List.isChain_cons_cons.mp htimes
      rw [counted]
      split
      · rename_i hdue
        refine List.isChain_cons_cons.mpr ⟨⟨hdue s rfl, ?_⟩, ih htimes ?_⟩
        · rw [← sub_add_sub_cancel t r s, add_comm d g]
          exact add_le_add htr hr
        · rw [sub_self]
          exact hd
      · rename_i hdue
        refine ih htimes (not_lt.mp fun hlt => hdue ?_)
        intro u hu
        obtain rfl := Option.some.inj hu
        exact hlt

omit [IsOrderedAddMonoid α] in
theorem getLast?_counted : (counted d none times).getLast? = lastCounted d none times := by
  induction times using List.reverseRecOn with
  | nil => rfl
  | append_singleton times t ih =>
      rw [counted_append_singleton, lastCounted_append_singleton]
      split
      · exact List.getLast?_concat
      · rw [List.append_nil]
        exact ih

omit [IsOrderedAddMonoid α] in
theorem counted_none_cons (t : α) :
    counted d none (t :: times) = t :: counted d (some t) times :=
  if_pos fun s hs => by cases hs

theorem counted_none_isChain (hd : 0 ≤ d) {g : α}
    (htimes : times.IsChain fun s t => t - s ≤ g) :
    (counted d none times).IsChain fun s t => d < t - s ∧ t - s ≤ d + g := by
  cases times with
  | nil => exact List.isChain_nil
  | cons t times =>
      rw [counted_none_cons]
      apply counted_isChain hd htimes
      rw [sub_self]
      exact hd

omit [IsOrderedAddMonoid α] in
theorem counted_recent (hd : 0 ≤ d) {t : α} (ht : t ∈ times.getLast?) :
    ∃ s ∈ (counted d none times).getLast?, t - s ≤ d := by
  obtain ⟨earlier, rfl⟩ := List.getLast?_eq_some_iff.mp ht
  rw [getLast?_counted, lastCounted_append_singleton]
  split
  · exact ⟨t, rfl, by rwa [sub_self]⟩
  · rename_i hdue
    simpa only [Due, not_forall, not_lt, exists_prop] using hdue

end EasyNav.Debouncing
