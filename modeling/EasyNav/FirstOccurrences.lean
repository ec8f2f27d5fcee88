import Mathlib.Data.List.Basic

namespace EasyNav.FirstOccurrences

universe u v

variable {α : Type u} {κ : Type v} [DecidableEq κ] (key : α → Option κ)

/-- The first item of each key that has not been seen yet. What has no key is left out. -/
def firsts : List α → List κ → List α
  | [], _ => []
  | a :: items, seen =>
      match key a with
      | none => firsts items seen
      | some k => if k ∈ seen then firsts items seen else a :: firsts items (k :: seen)

/-- The keys that have been seen once these items are read. -/
def seenAfter (items : List α) (seen : List κ) : List κ :=
  ((firsts key items seen).filterMap key).reverse ++ seen

/-- An array that is compacted: what is kept of it is written to its front. -/
structure Compaction (α : Type u) (κ : Type v) where
  items : List α
  write : Nat := 0
  seen : List κ := []

def Compaction.visit (loop : Compaction α κ) (read : Nat) : Compaction α κ :=
  match loop.items[read]? with
  | none => loop
  | some a =>
      match key a with
      | none => loop
      | some k =>
          if k ∈ loop.seen then loop
          else
            { items := loop.items.set loop.write a
              write := loop.write + 1
              seen := k :: loop.seen }

/-- What the loop leaves once the array is cut at what it has written. -/
def compact (items : List α) : List α :=
  let loop := (List.range items.length).foldl (Compaction.visit key) { items := items }
  loop.items.take loop.write

section Firsts

variable {key} {a b : α} {k : κ} {items rest : List α} {seen : List κ}

theorem firsts_cons_of_none (h : key a = none) :
    firsts key (a :: items) seen = firsts key items seen := by
  rw [firsts, h]

theorem firsts_cons_of_seen (h : key a = some k) (hseen : k ∈ seen) :
    firsts key (a :: items) seen = firsts key items seen := by
  rw [firsts, h]
  exact if_pos hseen

theorem firsts_cons_of_new (h : key a = some k) (hnew : k ∉ seen) :
    firsts key (a :: items) seen = a :: firsts key items (k :: seen) := by
  rw [firsts, h]
  exact if_neg hnew

theorem key_cases (key : α → Option κ) (a : α) (seen : List κ) :
    key a = none ∨ (∃ k, key a = some k ∧ k ∈ seen) ∨ ∃ k, key a = some k ∧ k ∉ seen := by
  cases h : key a with
  | none => exact .inl rfl
  | some k =>
      by_cases hseen : k ∈ seen
      · exact .inr (.inl ⟨k, rfl, hseen⟩)
      · exact .inr (.inr ⟨k, rfl, hseen⟩)

theorem firsts_congr {key' : α → Option κ} (h : ∀ a ∈ items, key a = key' a) (seen : List κ) :
    firsts key items seen = firsts key' items seen := by
  induction items generalizing seen with
  | nil => rfl
  | cons a items ih =>
      obtain ⟨ha, hitems⟩ := List.forall_mem_cons.mp h
      rw [firsts, firsts, ha]
      cases key' a with
      | none => exact ih hitems seen
      | some k => simp only [ih hitems]

theorem firsts_sublist (items : List α) (seen : List κ) :
    (firsts key items seen).Sublist items := by
  induction items generalizing seen with
  | nil => exact List.Sublist.refl []
  | cons a items ih =>
      rcases key_cases key a seen with hnone | ⟨k, hk, hseen⟩ | ⟨k, hk, hnew⟩
      · rw [firsts_cons_of_none hnone]
        exact (ih seen).cons a
      · rw [firsts_cons_of_seen hk hseen]
        exact (ih seen).cons a
      · rw [firsts_cons_of_new hk hnew]
        exact (ih (k :: seen)).cons_cons a

theorem key_of_mem_firsts (h : a ∈ firsts key items seen) :
    ∃ k, key a = some k ∧ k ∉ seen := by
  induction items generalizing seen with
  | nil => exact absurd h List.not_mem_nil
  | cons b items ih =>
      rcases key_cases key b seen with hnone | ⟨k, hk, hseen⟩ | ⟨k, hk, hnew⟩
      · rw [firsts_cons_of_none hnone] at h
        exact ih h
      · rw [firsts_cons_of_seen hk hseen] at h
        exact ih h
      · rw [firsts_cons_of_new hk hnew] at h
        rcases List.mem_cons.mp h with rfl | hmem
        · exact ⟨k, hk, hnew⟩
        · obtain ⟨k', hk', hnot⟩ := ih hmem
          exact ⟨k', hk', fun hmem => hnot (List.mem_cons_of_mem k hmem)⟩

theorem firsts_pairwise (items : List α) (seen : List κ) :
    (firsts key items seen).Pairwise fun a b => key a ≠ key b := by
  induction items generalizing seen with
  | nil => exact List.Pairwise.nil
  | cons a items ih =>
      rcases key_cases key a seen with hnone | ⟨k, hk, hseen⟩ | ⟨k, hk, hnew⟩
      · rw [firsts_cons_of_none hnone]
        exact ih seen
      · rw [firsts_cons_of_seen hk hseen]
        exact ih seen
      · rw [firsts_cons_of_new hk hnew]
        refine (ih (k :: seen)).cons fun b hb hsame => ?_
        obtain ⟨k', hk', hnot⟩ := key_of_mem_firsts hb
        obtain rfl := Option.some.inj (hk.symm.trans (hsame.trans hk'))
        exact hnot List.mem_cons_self

theorem firsts_append (items rest : List α) (seen : List κ) :
    firsts key (items ++ rest) seen =
      firsts key items seen ++ firsts key rest (seenAfter key items seen) := by
  induction items generalizing seen with
  | nil => rfl
  | cons a items ih =>
      rw [List.cons_append, seenAfter]
      rcases key_cases key a seen with hnone | ⟨k, hk, hseen⟩ | ⟨k, hk, hnew⟩
      · rw [firsts_cons_of_none hnone, firsts_cons_of_none hnone, ih, seenAfter]
      · rw [firsts_cons_of_seen hk hseen, firsts_cons_of_seen hk hseen, ih, seenAfter]
      · rw [firsts_cons_of_new hk hnew, firsts_cons_of_new hk hnew, ih, seenAfter,
          List.filterMap_cons_some hk, List.reverse_cons, List.append_assoc, List.cons_append]
        rfl

theorem seenAfter_append (items rest : List α) (seen : List κ) :
    seenAfter key (items ++ rest) seen = seenAfter key rest (seenAfter key items seen) := by
  rw [seenAfter, firsts_append, List.filterMap_append, List.reverse_append, List.append_assoc,
    ← seenAfter, ← seenAfter]

theorem mem_seenAfter_nil : k ∈ seenAfter key items [] ↔
    ∃ a ∈ firsts key items [], key a = some k := by
  rw [seenAfter, List.append_nil, List.mem_reverse, List.mem_filterMap]

/-- An item in the middle is kept, or shares its key with one that came before it. -/
theorem firsts_split (h : key a = some k) (items rest : List α) :
    ∃ kept kept', kept.Sublist items ∧ kept'.Sublist rest ∧
      (firsts key (items ++ a :: rest) [] = kept ++ a :: kept' ∨
        firsts key (items ++ a :: rest) [] = kept ++ kept' ∧ ∃ b ∈ kept, key b = key a) := by
  rw [firsts_append]
  by_cases hseen : k ∈ seenAfter key items []
  · rw [firsts_cons_of_seen h hseen]
    obtain ⟨b, hb, hkey⟩ := mem_seenAfter_nil.mp hseen
    exact ⟨_, _, firsts_sublist _ _, firsts_sublist _ _, .inr ⟨rfl, b, hb, hkey.trans h.symm⟩⟩
  · rw [firsts_cons_of_new h hseen]
    exact ⟨_, _, firsts_sublist _ _, firsts_sublist _ _, .inl rfl⟩

theorem firsts_eq_self (hkeys : ∀ a ∈ items, ∃ k, key a = some k ∧ k ∉ seen)
    (hpairwise : items.Pairwise fun a b => key a ≠ key b) : firsts key items seen = items := by
  induction items generalizing seen with
  | nil => rfl
  | cons a items ih =>
      obtain ⟨hne, hpairwise⟩ := List.pairwise_cons.mp hpairwise
      obtain ⟨k, hk, hnew⟩ := hkeys a List.mem_cons_self
      rw [firsts_cons_of_new hk hnew, ih _ hpairwise]
      intro b hb
      obtain ⟨k', hk', hnew'⟩ := hkeys b (List.mem_cons_of_mem a hb)
      refine ⟨k', hk', fun hmem => ?_⟩
      rcases List.mem_cons.mp hmem with rfl | hmem
      · exact hne b hb (hk.trans hk'.symm)
      · exact hnew' hmem

theorem firsts_firsts (items : List α) :
    firsts key (firsts key items []) [] = firsts key items [] :=
  firsts_eq_self (fun _ => key_of_mem_firsts) (firsts_pairwise items [])

end Firsts

section Loop

variable {key}

/-- The array after so many reads: its front is what is kept, and it is as it was from the
next read on. -/
structure Compacted (key : α → Option κ) (items : List α) (read : Nat)
    (loop : Compaction α κ) : Prop where
  write_le : loop.write ≤ read
  unread : loop.items.drop read = items.drop read
  kept : loop.items.take loop.write = firsts key (items.take read) []
  seen : loop.seen = seenAfter key (items.take read) []

variable {items : List α} {read : Nat} {loop : Compaction α κ} {a : α}

theorem Compacted.skip (h : Compacted key items read loop) (ha : items[read]? = some a)
    (hskip : firsts key [a] loop.seen = []) : Compacted key items (read + 1) loop := by
  have htake : items.take (read + 1) = items.take read ++ [a] := by
    rw [List.take_add_one, ha]
    rfl
  rw [h.seen] at hskip
  constructor
  · exact Nat.le_succ_of_le h.write_le
  · rw [← List.drop_drop, h.unread, List.drop_drop]
  · rw [htake, firsts_append, hskip, List.append_nil, h.kept]
  · rw [htake, seenAfter_append, seenAfter, hskip]
    exact h.seen

theorem Compacted.keep (h : Compacted key items read loop) (ha : items[read]? = some a)
    (hread : read < loop.items.length) {k : κ} (hk : key a = some k) (hnew : k ∉ loop.seen) :
    Compacted key items (read + 1)
      { items := loop.items.set loop.write a
        write := loop.write + 1
        seen := k :: loop.seen } := by
  have htake : items.take (read + 1) = items.take read ++ [a] := by
    rw [List.take_add_one, ha]
    rfl
  have hkeep : firsts key [a] loop.seen = [a] := firsts_cons_of_new hk hnew
  have hwrite : loop.write < loop.items.length := Nat.lt_of_le_of_lt h.write_le hread
  rw [h.seen] at hkeep
  constructor
  · exact Nat.succ_le_succ h.write_le
  · dsimp only
    rw [List.drop_set_of_lt (Nat.lt_add_one_of_le h.write_le), ← List.drop_drop, h.unread,
      List.drop_drop]
  · dsimp only
    rw [htake, firsts_append, hkeep, ← h.kept, List.take_add_one,
      List.take_set_of_le (Nat.le_refl _), List.getElem?_set_self hwrite]
    rfl
  · dsimp only
    rw [htake, seenAfter_append, seenAfter, hkeep, List.filterMap_cons_some hk, h.seen]
    rfl

theorem visit_compacted (h : Compacted key items read loop) (hread : read < items.length) :
    Compacted key items (read + 1) (loop.visit key read) := by
  obtain ⟨a, ha⟩ : ∃ a, items[read]? = some a := ⟨_, List.getElem?_eq_getElem hread⟩
  have hcurrent : loop.items[read]? = some a := by
    have hhead := congrArg List.head? h.unread
    rw [List.head?_drop, List.head?_drop, ha] at hhead
    exact hhead
  have hlength : read < loop.items.length := (List.getElem?_eq_some_iff.mp hcurrent).1
  rw [Compaction.visit, hcurrent]
  rcases key_cases key a loop.seen with hnone | ⟨k, hk, hseen⟩ | ⟨k, hk, hnew⟩
  · simp only [hnone]
    exact h.skip ha (firsts_cons_of_none hnone)
  · simp only [hk, if_pos hseen]
    exact h.skip ha (firsts_cons_of_seen hk hseen)
  · simp only [hk, if_neg hnew]
    exact h.keep ha hlength hk hnew

theorem foldl_visit_compacted (hread : read ≤ items.length) :
    Compacted key items read
      ((List.range read).foldl (Compaction.visit key) { items := items }) := by
  induction read with
  | zero => exact ⟨Nat.le_refl 0, rfl, rfl, rfl⟩
  | succ read ih =>
      rw [List.range_succ, List.foldl_append]
      exact visit_compacted (ih (Nat.le_of_succ_le hread)) hread

/-- The loop finds the first item of every key. -/
theorem compact_eq (items : List α) : compact key items = firsts key items [] := by
  have h : Compacted key items items.length _ := foldl_visit_compacted (Nat.le_refl _)
  rw [compact, h.kept, List.take_length]

end Loop

end EasyNav.FirstOccurrences
