import Mathlib.Data.List.DropRight
import Mathlib.Order.Lattice

/-!
Sliding windows over a sequence of items that are ordered by a key. What is kept of a
window covers it if all that is missing comes before some settled item that is kept: the
first maximum among the items of interest is then the same in both.
-/

namespace EasyNav.SlidingWindows

universe u v

variable {α : Type u} {β : Type v} [LinearOrder β] {key : α → β}

section Windows

variable (window rest : List α) (n : Nat)

theorem rtake_append :
    (window ++ rest).rtake n = window.rtake (n - rest.length) ++ rest.rtake n := by
  have hsub : window.length + rest.length - n - window.length = rest.length - n := by omega
  have hdrop : window.length + rest.length - n = window.length - (n - rest.length) ∨
      window.length ≤ window.length + rest.length - n := by omega
  unfold List.rtake
  rw [List.length_append, List.drop_append, hsub]
  congr 1
  rcases hdrop with heq | hle
  · rw [heq]
  · rw [List.drop_of_length_le hle, List.drop_of_length_le]
    omega

theorem length_rtake_le : (window.rtake n).length ≤ n := by
  unfold List.rtake
  rw [List.length_drop]
  omega

theorem rtake_of_length_le (h : window.length ≤ n) : window.rtake n = window := by
  unfold List.rtake
  rw [Nat.sub_eq_zero_of_le h, List.drop_zero]

theorem mem_of_mem_rtake {item : α} (h : item ∈ window.rtake n) : item ∈ window :=
  List.mem_of_mem_drop h

theorem rtake_rtake_append :
    (window.rtake n ++ rest).rtake n = (window ++ rest).rtake n := by
  rw [rtake_append, rtake_append]
  congr 1
  unfold List.rtake
  rw [List.drop_drop, List.length_drop]
  congr 1
  omega

end Windows

theorem filter_append_filter {items : List α} (bound : β)
    (h : items.Pairwise fun item next => key item ≤ key next) :
    items = items.filter (fun item => key item < bound) ++
      items.filter (fun item => bound ≤ key item) := by
  induction items with
  | nil => rfl
  | cons item items ih =>
      obtain ⟨hle, hsorted⟩ := List.pairwise_cons.mp h
      rw [List.filter_cons, List.filter_cons]
      by_cases hlt : key item < bound
      · rw [if_pos (decide_eq_true hlt), if_neg (by simpa using hlt), List.cons_append,
          ← ih hsorted]
      · have hbound : bound ≤ key item := le_of_not_gt hlt
        have hnone : items.filter (fun other => key other < bound) = [] := by
          rw [List.filter_eq_nil_iff]
          intro other hother
          simpa using hbound.trans (hle other hother)
        have hall : items.filter (fun other => bound ≤ key other) = items := by
          rw [List.filter_eq_self]
          intro other hother
          simpa using hbound.trans (hle other hother)
        rw [if_neg (by simpa using hbound), if_pos (decide_eq_true hbound), hnone, hall,
          List.nil_append]

def IsFirstMax (key : α → β) (items : List α) (item : α) : Prop :=
  ∃ before after, items = before ++ item :: after ∧
    (∀ other ∈ before, key other < key item) ∧ ∀ other ∈ after, key other ≤ key item

namespace IsFirstMax

variable {items : List α} {item : α}

theorem mem (h : IsFirstMax key items item) : item ∈ items := by
  obtain ⟨before, after, rfl, -, -⟩ := h
  exact List.mem_append_right _ List.mem_cons_self

theorem le (h : IsFirstMax key items item) {other : α} (hother : other ∈ items) :
    key other ≤ key item := by
  obtain ⟨before, after, rfl, hbefore, hafter⟩ := h
  rcases List.mem_append.mp hother with hmem | hmem
  · exact (hbefore other hmem).le
  · rcases List.mem_cons.mp hmem with rfl | hmem
    · exact le_rfl
    · exact hafter other hmem

theorem singleton (item : α) : IsFirstMax key [item] item := by
  refine ⟨[], [], rfl, ?_, ?_⟩
  · exact fun other hmem => absurd hmem List.not_mem_nil
  · exact fun other hmem => absurd hmem List.not_mem_nil

/-- Items that are smaller do not count, where they come first. -/
theorem append_left (h : IsFirstMax key items item) {smaller : List α}
    (hsmaller : ∀ other ∈ smaller, key other < key item) :
    IsFirstMax key (smaller ++ items) item := by
  obtain ⟨before, after, rfl, hbefore, hafter⟩ := h
  refine ⟨smaller ++ before, after, (List.append_assoc _ _ _).symm, ?_, hafter⟩
  intro other hmem
  rcases List.mem_append.mp hmem with hmem | hmem
  · exact hsmaller other hmem
  · exact hbefore other hmem

theorem concat (h : IsFirstMax key items item) {last : α} (hlast : key last ≤ key item) :
    IsFirstMax key (items ++ [last]) item := by
  obtain ⟨before, after, rfl, hbefore, hafter⟩ := h
  refine ⟨before, after ++ [last], ?_, hbefore, ?_⟩
  · rw [List.append_assoc, List.cons_append]
  · intro other hmem
    rcases List.mem_append.mp hmem with hmem | hmem
    · exact hafter other hmem
    · rw [List.mem_singleton.mp hmem]
      exact hlast

end IsFirstMax

/-- All that is missing of the window comes before some settled item that is kept. -/
def Covers (key : α → β) (settled : α → Prop) (window kept : List α) : Prop :=
  ∃ missing, window = missing ++ kept ∧
    ∀ item ∈ missing, ∃ later ∈ kept, settled later ∧ key item < key later

namespace Covers

variable {settled : α → Prop} {window kept : List α} {n : Nat}

theorem nil : Covers key settled [] [] :=
  ⟨[], rfl, fun _ hitem => absurd hitem List.not_mem_nil⟩

theorem mono (h : Covers key settled window kept) {settled' : α → Prop}
    (himp : ∀ item ∈ kept, settled item → settled' item) : Covers key settled' window kept := by
  obtain ⟨missing, hwindow, hmissing⟩ := h
  refine ⟨missing, hwindow, fun item hitem => ?_⟩
  obtain ⟨later, hlater, hsettled, hlt⟩ := hmissing item hitem
  exact ⟨later, hlater, himp later hlater hsettled, hlt⟩

theorem suffix (h : Covers key settled window kept) : kept <:+ window := by
  obtain ⟨missing, rfl, -⟩ := h
  exact List.suffix_append missing kept

theorem concat {items : List α} (h : Covers key settled (items.rtake n) kept) (item : α) :
    Covers key settled ((items ++ [item]).rtake n) ((kept ++ [item]).rtake n) := by
  obtain ⟨missing, hwindow, hmissing⟩ := h
  have hlength := length_rtake_le items n
  rw [hwindow, List.length_append] at hlength
  refine ⟨missing.rtake (n - (kept ++ [item]).length), ?_, ?_⟩
  · rw [← rtake_rtake_append, hwindow, List.append_assoc, rtake_append]
  · intro early hearly
    have hmem := mem_of_mem_rtake _ _ hearly
    obtain ⟨later, hlater, hsettled, hlt⟩ := hmissing early hmem
    have hpos := List.length_pos_of_mem hmem
    refine ⟨later, ?_, hsettled, hlt⟩
    -- something is missing, so there is room for one more
    rw [rtake_of_length_le]
    · exact List.mem_append_left _ hlater
    · rw [List.length_append, List.length_singleton]
      omega

theorem isFirstMax (h : Covers key settled window kept) {interesting : α → Bool}
    (himp : ∀ item ∈ kept, settled item → interesting item = true) {item : α}
    (hitem : IsFirstMax key (kept.filter interesting) item) :
    IsFirstMax key (window.filter interesting) item := by
  obtain ⟨missing, rfl, hmissing⟩ := h
  rw [List.filter_append]
  apply hitem.append_left
  intro other hother
  obtain ⟨later, hlater, hsettled, hlt⟩ := hmissing other (List.mem_filter.mp hother).1
  have hmem := List.mem_filter.mpr ⟨hlater, himp later hlater hsettled⟩
  exact hlt.trans_le (hitem.le hmem)

/-- Without anything settled, nothing is missing. -/
theorem eq_of_not_settled (h : Covers key settled window kept)
    (hnone : ∀ item ∈ kept, ¬ settled item) : window = kept := by
  obtain ⟨missing, rfl, hmissing⟩ := h
  cases missing with
  | nil => rfl
  | cons item missing =>
      obtain ⟨later, hlater, hsettled, -⟩ := hmissing item List.mem_cons_self
      exact absurd hsettled (hnone later hlater)

theorem trim (h : Covers key settled window kept)
    (hsorted : window.Pairwise fun item next => key item ≤ key next)
    {interesting : α → Bool} (himp : ∀ item ∈ kept, settled item → interesting item = true)
    {item : α} (hitem : IsFirstMax key (kept.filter interesting) item)
    (hsettled : ∀ other ∈ kept, interesting other = true → settled other) :
    Covers key settled window (kept.filter fun other => key item ≤ key other) := by
  obtain ⟨missing, rfl, hmissing⟩ := h
  obtain ⟨hmem, hinteresting⟩ := List.mem_filter.mp hitem.mem
  have hkept := filter_append_filter (key item) (List.pairwise_append.mp hsorted).2.1
  have hself : item ∈ kept.filter fun other => key item ≤ key other :=
    List.mem_filter.mpr ⟨hmem, decide_eq_true le_rfl⟩
  refine ⟨missing ++ kept.filter fun other => key other < key item, ?_, ?_⟩
  · rw [List.append_assoc, ← hkept]
  · intro other hother
    refine ⟨item, hself, hsettled item hmem hinteresting, ?_⟩
    rcases List.mem_append.mp hother with hother | hother
    · obtain ⟨later, hlater, hlaterSettled, hlt⟩ := hmissing other hother
      have hle := hitem.le (List.mem_filter.mpr ⟨hlater, himp later hlater hlaterSettled⟩)
      exact hlt.trans_le hle
    · exact of_decide_eq_true (List.mem_filter.mp hother).2

end Covers

end EasyNav.SlidingWindows
