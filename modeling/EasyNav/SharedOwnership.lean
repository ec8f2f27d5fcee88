import Mathlib.Data.Multiset.AddSub
import Mathlib.Data.Multiset.Count
import Mathlib.Logic.Function.Basic

/-!
Objects with several owners, which count them: the last one to drop an object destroys it.
-/

namespace EasyNav.SharedOwnership

universe u

/-- How many owners each object has, and what was destroyed, newest first. -/
structure Ownership (α : Type u) where
  owners : α → Nat
  destroyed : List α

variable {α : Type u} [DecidableEq α]

namespace Ownership

def empty : Ownership α := ⟨fun _ => 0, []⟩

/-- One more owner. -/
def acquire (o : Ownership α) (a : α) : Ownership α :=
  { o with owners := Function.update o.owners a (o.owners a + 1) }

def drop (o : Ownership α) (a : α) : Ownership α :=
  if o.owners a = 1 then
    { owners := Function.update o.owners a 0, destroyed := a :: o.destroyed }
  else { o with owners := Function.update o.owners a (o.owners a - 1) }

def acquireAll (o : Ownership α) (items : List α) : Ownership α := items.foldl acquire o

def dropAll (o : Ownership α) (items : List α) : Ownership α := items.foldl drop o

/-- The owners that are counted are those there are, and an object is destroyed once it has
none. -/
structure Sound (created : α → Prop) (held : Multiset α) (o : Ownership α) : Prop where
  owners : ∀ a, o.owners a = held.count a
  known : ∀ a ∈ held, created a
  once : o.destroyed.Nodup
  destroyed_iff : ∀ a, a ∈ o.destroyed ↔ created a ∧ a ∉ held

variable {created : α → Prop} {held : Multiset α} {o : Ownership α} {a : α}

theorem sound_empty : Sound (fun _ : α => False) 0 empty where
  owners a := (Multiset.count_zero a).symm
  known a ha := absurd ha (Multiset.notMem_zero a)
  once := List.nodup_nil
  destroyed_iff a := by simp [empty]

theorem Sound.alive (h : Sound created held o) (ha : a ∈ held) : a ∉ o.destroyed :=
  fun hdestroyed => ((h.destroyed_iff a).mp hdestroyed).2 ha

theorem Sound.congr (h : Sound created held o) {created' : α → Prop} {held' : Multiset α}
    (hcreated : ∀ a, created' a ↔ created a) (hheld : held' = held) : Sound created' held' o := by
  rw [hheld, show created' = created from funext fun a => propext (hcreated a)]
  exact h

theorem acquire_owners (h : ∀ b, o.owners b = held.count b) (b : α) :
    (o.acquire a).owners b = (a ::ₘ held).count b := by
  rw [acquire, Multiset.count_cons]
  dsimp only
  by_cases hb : b = a
  · subst hb
    rw [Function.update_self, h, if_pos rfl]
  · rw [Function.update_of_ne hb, h, if_neg hb, Nat.add_zero]

theorem Sound.new (h : Sound created held o) (hnew : ¬ created a) :
    Sound (fun b => b = a ∨ created b) (a ::ₘ held) (o.acquire a) where
  owners := acquire_owners h.owners
  known b hb := (Multiset.mem_cons.mp hb).imp_right (h.known b)
  once := h.once
  destroyed_iff b := by
    change b ∈ o.destroyed ↔ _
    rw [h.destroyed_iff, Multiset.mem_cons, not_or]
    constructor
    · rintro ⟨hcreated, hheld⟩
      exact ⟨Or.inr hcreated, fun hb => hnew (hb ▸ hcreated), hheld⟩
    · rintro ⟨hb | hcreated, hne, hheld⟩
      · exact absurd hb hne
      · exact ⟨hcreated, hheld⟩

theorem Sound.copy (h : Sound created held o) (ha : a ∈ held) :
    Sound created (a ::ₘ held) (o.acquire a) where
  owners := acquire_owners h.owners
  known b hb := by
    rcases Multiset.mem_cons.mp hb with rfl | hb
    · exact h.known b ha
    · exact h.known b hb
  once := h.once
  destroyed_iff b := by
    change b ∈ o.destroyed ↔ _
    rw [h.destroyed_iff, Multiset.mem_cons, not_or]
    refine and_congr_right fun _ => (and_iff_right_of_imp fun hheld hb => hheld ?_).symm
    rw [hb]
    exact ha

theorem drop_owners (h : ∀ b, o.owners b = (a ::ₘ held).count b) (b : α) :
    (o.drop a).owners b = held.count b := by
  have hb := h b
  rw [drop]
  by_cases hba : b = a
  · subst hba
    rw [Multiset.count_cons_self] at hb
    split
    · dsimp only
      rw [Function.update_self]
      omega
    · dsimp only
      rw [Function.update_self]
      omega
  · rw [Multiset.count_cons_of_ne hba] at hb
    split
    · exact (Function.update_of_ne hba _ _).trans hb
    · exact (Function.update_of_ne hba _ _).trans hb

theorem Sound.drop_last (h : Sound created (a ::ₘ held) o) (hlast : a ∉ held) :
    Sound created held (o.drop a) := by
  have hcount : o.owners a = 1 := by
    rw [h.owners, Multiset.count_cons_self, Multiset.count_eq_zero_of_notMem hlast]
  have hdrop : (o.drop a).destroyed = a :: o.destroyed := by
    rw [Ownership.drop, if_pos hcount]
  refine ⟨drop_owners h.owners, fun b hb => h.known b (Multiset.mem_cons_of_mem hb), ?_, ?_⟩
  · rw [hdrop]
    exact List.nodup_cons.mpr ⟨h.alive (Multiset.mem_cons_self a held), h.once⟩
  · intro b
    rw [hdrop, List.mem_cons, h.destroyed_iff, Multiset.mem_cons, not_or]
    constructor
    · rintro (rfl | ⟨hb, -, hheld⟩)
      · exact ⟨h.known b (Multiset.mem_cons_self b held), hlast⟩
      · exact ⟨hb, hheld⟩
    · rintro ⟨hb, hheld⟩
      by_cases hba : b = a
      · exact Or.inl hba
      · exact Or.inr ⟨hb, hba, hheld⟩

theorem Sound.drop_shared (h : Sound created (a ::ₘ held) o) (hstill : a ∈ held) :
    Sound created held (o.drop a) := by
  have hcount : o.owners a ≠ 1 := by
    have hpos := Multiset.count_pos.mpr hstill
    rw [h.owners, Multiset.count_cons_self]
    omega
  have hdrop : (o.drop a).destroyed = o.destroyed := by
    rw [Ownership.drop, if_neg hcount]
  refine ⟨drop_owners h.owners, fun b hb => h.known b (Multiset.mem_cons_of_mem hb), ?_, ?_⟩
  · rw [hdrop]
    exact h.once
  · intro b
    rw [hdrop, h.destroyed_iff, Multiset.mem_cons, not_or]
    refine and_congr_right fun _ => and_iff_right_of_imp fun hheld hb => hheld ?_
    rw [hb]
    exact hstill

theorem Sound.drop (h : Sound created (a ::ₘ held) o) : Sound created held (o.drop a) := by
  by_cases ha : a ∈ held
  · exact h.drop_shared ha
  · exact h.drop_last ha

theorem Sound.copyAll (h : Sound created held o) {items : List α} (hitems : ∀ a ∈ items, a ∈ held) :
    Sound created ((items : Multiset α) + held) (o.acquireAll items) := by
  induction items generalizing held o with
  | nil =>
      rw [Multiset.coe_nil, Multiset.zero_add]
      exact h
  | cons a items ih =>
      have hcopy := h.copy (hitems a List.mem_cons_self)
      have hrest := ih hcopy fun b hb =>
        Multiset.mem_cons_of_mem (hitems b (List.mem_cons_of_mem a hb))
      rw [Multiset.add_cons, ← Multiset.cons_add, Multiset.cons_coe] at hrest
      exact hrest

theorem Sound.dropAll {items : List α} (h : Sound created ((items : Multiset α) + held) o) :
    Sound created held (o.dropAll items) := by
  induction items generalizing o with
  | nil =>
      rw [Multiset.coe_nil, Multiset.zero_add] at h
      exact h
  | cons a items ih =>
      rw [← Multiset.cons_coe, Multiset.cons_add] at h
      exact ih h.drop

end Ownership

end EasyNav.SharedOwnership
