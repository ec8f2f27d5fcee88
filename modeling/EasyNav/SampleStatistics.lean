import Mathlib.Algebra.BigOperators.Group.Finset.Piecewise
import Mathlib.Algebra.BigOperators.Group.List.Lemmas
import Mathlib.Algebra.BigOperators.Ring.List
import Mathlib.Algebra.CharZero.Defs
import Mathlib.Algebra.Field.Basic
import Mathlib.Tactic.FieldSimp
import Mathlib.Tactic.Ring

namespace EasyNav.SampleStatistics

universe u v

section Statistics

variable {K : Type u} [Field K]

def mean (samples : List K) : K := samples.sum / samples.length

def squaredDeviations (samples : List K) : K :=
  (samples.map fun x => (x - mean samples) ^ 2).sum

/-- The sample variance, zero for fewer than two samples. -/
def sampleVariance (samples : List K) : K :=
  if samples.length < 2 then 0 else squaredDeviations samples / (samples.length - 1)

variable [CharZero K]

theorem mean_mul_length (samples : List K) : mean samples * samples.length = samples.sum := by
  cases samples with
  | nil => rw [List.length_nil, Nat.cast_zero, mul_zero, List.sum_nil]
  | cons x samples =>
      have hne : ((x :: samples).length : K) ≠ 0 := Nat.cast_ne_zero.mpr (Nat.succ_ne_zero _)
      exact div_mul_cancel₀ _ hne

theorem sum_sub_mean (samples : List K) : (samples.map fun x => x - mean samples).sum = 0 := by
  have hsum : ∀ (c : K) (l : List K), (l.map fun x => x - c).sum = l.sum - c * l.length := by
    intro c l
    induction l with
    | nil => rw [List.map_nil, List.sum_nil, List.length_nil, Nat.cast_zero, mul_zero, sub_zero]
    | cons x l ih =>
        rw [List.map_cons, List.sum_cons, List.sum_cons, ih, List.length_cons, Nat.cast_succ]
        ring
  rw [hsum, mean_mul_length, sub_self]

theorem sum_sq_sub (c : K) (samples : List K) :
    (samples.map fun x => (x - c) ^ 2).sum =
      squaredDeviations samples + samples.length * (mean samples - c) ^ 2 := by
  have hexpand : ∀ x, (x - c) ^ 2 = (x - mean samples) ^ 2 +
      (2 * (mean samples - c) * (x - mean samples) + (mean samples - c) ^ 2) := by
    intro x
    ring
  rw [List.map_congr_left fun x _ => hexpand x, List.sum_map_add, List.sum_map_add,
    List.sum_map_mul_left, sum_sub_mean, mul_zero, zero_add, List.map_const', List.sum_replicate,
    nsmul_eq_mul, squaredDeviations]

theorem mean_append_singleton (samples : List K) (x : K) :
    mean (samples ++ [x]) =
      mean samples + (x - mean samples) / ((samples.length + 1 : ℕ) : K) := by
  have hne : ((samples.length + 1 : ℕ) : K) ≠ 0 := Nat.cast_ne_zero.mpr (Nat.succ_ne_zero _)
  rw [mean, List.sum_append, List.sum_singleton, List.length_append, List.length_singleton,
    div_eq_iff hne, add_mul, div_mul_cancel₀ _ hne, ← mean_mul_length samples, Nat.cast_succ]
  ring

/-- Welford's formula. -/
theorem squaredDeviations_append_singleton (samples : List K) (x : K) :
    squaredDeviations (samples ++ [x]) =
      squaredDeviations samples + (x - mean samples) * (x - mean (samples ++ [x])) := by
  have hne : (samples.length : K) + 1 ≠ 0 := Nat.cast_add_one_ne_zero _
  rw [squaredDeviations, List.map_append, List.sum_append, sum_sq_sub, List.map_singleton,
    List.sum_singleton, mean_append_singleton, Nat.cast_succ]
  field_simp
  ring

end Statistics

section Keys

variable {α : Type u} {κ : Type v} {M : Type*} [DecidableEq κ] [AddCommMonoid M]

theorem sum_filter_key (key : α → κ) (f : α → M) {keys : Finset κ} {samples : List α}
    (h : ∀ a ∈ samples, key a ∈ keys) :
    ∑ k ∈ keys, ((samples.filter fun a => key a = k).map f).sum = (samples.map f).sum := by
  induction samples with
  | nil => exact Finset.sum_const_zero
  | cons a samples ih =>
      have hcons : ∀ k, (((a :: samples).filter fun a => key a = k).map f).sum =
          (if key a = k then f a else 0) +
            ((samples.filter fun a => key a = k).map f).sum := by
        intro k
        rw [List.filter_cons]
        by_cases hk : key a = k
        · rw [if_pos (decide_eq_true hk), if_pos hk, List.map_cons, List.sum_cons]
        · rw [if_neg (by simpa using hk), if_neg hk, zero_add]
      simp only [hcons, Finset.sum_add_distrib, Finset.sum_ite_eq,
        if_pos (h a List.mem_cons_self)]
      rw [ih fun b hb => h b (List.mem_cons_of_mem _ hb), List.map_cons, List.sum_cons]

theorem sum_map_eq_of_keys (key : α → κ) (f : α → M) {samples samples' : List α}
    (h : ∀ k, ((samples.filter fun a => key a = k).map f).sum =
      ((samples'.filter fun a => key a = k).map f).sum) :
    (samples.map f).sum = (samples'.map f).sum := by
  let keys := ((samples ++ samples').map key).toFinset
  have hmem : ∀ a ∈ samples ++ samples', key a ∈ keys :=
    fun a ha => List.mem_toFinset.mpr (List.mem_map_of_mem ha)
  calc (samples.map f).sum
      = ∑ k ∈ keys, ((samples.filter fun a => key a = k).map f).sum :=
        (sum_filter_key key f fun a ha => hmem a (List.mem_append_left _ ha)).symm
    _ = ∑ k ∈ keys, ((samples'.filter fun a => key a = k).map f).sum :=
        Finset.sum_congr rfl fun k _ => h k
    _ = (samples'.map f).sum :=
        sum_filter_key key f fun a ha => hmem a (List.mem_append_right _ ha)

end Keys

end EasyNav.SampleStatistics
