import Mathlib.Algebra.Order.Field.Basic
import Mathlib.Algebra.Order.Group.MinMax
import Mathlib.Order.Interval.Set.UnorderedInterval
import Mathlib.Tactic.Linarith

namespace EasyNav.AxisRamp

variable {K : Type*} [Field K] [LinearOrder K] [IsStrictOrderedRing K]

def approach (current target delta : K) : K :=
  current + max (-delta) (min delta (target - current))

/-- Whether moving from `current` to `target` starts by slowing down. -/
def Slowing (current target : K) : Prop :=
  (0 < current ∧ target < current) ∨ (current < 0 ∧ current < target)

instance (current target : K) : Decidable (Slowing current target) :=
  inferInstanceAs (Decidable (_ ∨ _))

/-- The longest move of one step. -/
def stepBound (current target acc decel dt : K) : K :=
  (if Slowing current target then decel else acc) * dt

def ramp (current target acc decel dt : K) : K :=
  let next := approach current target (stepBound current target acc decel dt)
  if (0 < current ∧ next < 0) ∨ (current < 0 ∧ 0 < next) then 0 else next

section Approach

variable (current target : K) {delta : K}

theorem approach_of_le {current target : K} (hdelta : 0 ≤ delta) (h : current ≤ target) :
    approach current target delta = min (current + delta) target := by
  have hmin : -delta ≤ min delta (target - current) := by
    refine le_min (by linarith) (by linarith)
  rw [approach, max_eq_right hmin, ← min_add_add_left, add_sub_cancel]

theorem approach_of_ge {current target : K} (hdelta : 0 ≤ delta) (h : target ≤ current) :
    approach current target delta = max (current - delta) target := by
  have hmin : min delta (target - current) = target - current :=
    min_eq_right (by linarith)
  rw [approach, hmin, ← max_add_add_left, add_sub_cancel, ← sub_eq_add_neg]

theorem approach_mem_uIcc (hdelta : 0 ≤ delta) :
    approach current target delta ∈ Set.uIcc current target := by
  rcases le_total current target with h | h
  · rw [approach_of_le hdelta h, Set.uIcc_of_le h]
    exact ⟨le_min (by linarith) h, min_le_right _ _⟩
  · rw [approach_of_ge hdelta h, Set.uIcc_of_ge h]
    exact ⟨le_max_right _ _, max_le (by linarith) h⟩

theorem approach_eq_self_iff {current target : K} (hdelta : 0 < delta) :
    approach current target delta = current ↔ current = target := by
  constructor
  · intro h
    rcases le_total current target with hle | hle
    · rw [approach_of_le hdelta.le hle] at h
      rcases min_choice (current + delta) target with hc | hc <;> rw [hc] at h
      · linarith
      · exact h.symm
    · rw [approach_of_ge hdelta.le hle] at h
      rcases max_choice (current - delta) target with hc | hc <;> rw [hc] at h
      · linarith
      · exact h.symm
  · rintro rfl
    rw [approach_of_le hdelta.le le_rfl, min_eq_right (by linarith)]

theorem approach_of_abs_sub_le {current target : K} (h : |target - current| ≤ delta) :
    approach current target delta = target := by
  rw [abs_le] at h
  rw [approach, min_eq_right h.2, max_eq_right h.1, add_sub_cancel]

end Approach

section Ramp

variable (current target : K) {acc decel dt : K}

theorem stepBound_nonneg (hacc : 0 ≤ acc) (hdecel : 0 ≤ decel) (hdt : 0 ≤ dt) :
    0 ≤ stepBound current target acc decel dt := by
  unfold stepBound
  split
  · exact mul_nonneg hdecel hdt
  · exact mul_nonneg hacc hdt

theorem stepBound_pos (hacc : 0 < acc) (hdecel : 0 < decel) (hdt : 0 < dt) :
    0 < stepBound current target acc decel dt := by
  unfold stepBound
  split
  · exact mul_pos hdecel hdt
  · exact mul_pos hacc hdt

theorem ramp_mem_uIcc (hacc : 0 ≤ acc) (hdecel : 0 ≤ decel) (hdt : 0 ≤ dt) :
    ramp current target acc decel dt ∈ Set.uIcc current target := by
  have hnext := approach_mem_uIcc current target
    (stepBound_nonneg current target hacc hdecel hdt)
  unfold ramp
  simp only
  split
  · rename_i hcross
    rw [Set.mem_uIcc] at hnext ⊢
    rcases hcross with ⟨hcurrent, hneg⟩ | ⟨hcurrent, hpos⟩
    · rcases hnext with ⟨h, -⟩ | ⟨h, -⟩
      · linarith
      · exact Or.inr ⟨by linarith, hcurrent.le⟩
    · rcases hnext with ⟨-, h⟩ | ⟨-, h⟩
      · exact Or.inl ⟨hcurrent.le, by linarith⟩
      · linarith
  · exact hnext

theorem ramp_eq_self_iff {current target : K} (hacc : 0 < acc) (hdecel : 0 < decel) (hdt : 0 < dt) :
    ramp current target acc decel dt = current ↔ current = target := by
  have hpos := stepBound_pos current target hacc hdecel hdt
  unfold ramp
  simp only
  split
  · rename_i hcross
    constructor
    · intro h
      rcases hcross with ⟨hcurrent, -⟩ | ⟨hcurrent, -⟩ <;> linarith
    · rintro rfl
      have hself := (approach_eq_self_iff hpos).mpr (rfl : current = current)
      rw [hself] at hcross
      rcases hcross with ⟨h, h'⟩ | ⟨h, h'⟩ <;> linarith
  · exact approach_eq_self_iff hpos

@[simp] theorem ramp_self {target : K} (hacc : 0 ≤ acc) (hdecel : 0 ≤ decel) (hdt : 0 ≤ dt) :
    ramp target target acc decel dt = target := by
  have h := ramp_mem_uIcc target target hacc hdecel hdt
  rwa [Set.uIcc_self, Set.mem_singleton_iff] at h

theorem ramp_from_zero {target : K} (h : |target| ≤ acc * dt) :
    ramp 0 target acc decel dt = target := by
  have hbound : stepBound 0 target acc decel dt = acc * dt := by
    simp [stepBound, Slowing]
  unfold ramp
  simp only [hbound, lt_irrefl, false_and, or_self, if_false]
  exact approach_of_abs_sub_le (by rwa [sub_zero])

theorem abs_ramp_sub_le (hacc : 0 ≤ acc) (hdecel : 0 ≤ decel) (hdt : 0 ≤ dt) :
    |ramp current target acc decel dt - current| ≤ stepBound current target acc decel dt := by
  have hbound := stepBound_nonneg current target hacc hdecel hdt
  have hnext : |approach current target (stepBound current target acc decel dt) - current| ≤
      stepBound current target acc decel dt := by
    rw [approach, add_sub_cancel_left, abs_le]
    exact ⟨le_max_left _ _, max_le (by linarith) (min_le_left _ _)⟩
  rw [abs_le] at hnext ⊢
  simp only [ramp]
  split
  · rename_i hcross
    rcases hcross with ⟨hcurrent, hcross⟩ | ⟨hcurrent, hcross⟩
    · constructor <;> linarith
    · constructor <;> linarith
  · exact hnext

theorem stepBound_le (hdt : 0 ≤ dt) :
    stepBound current target acc decel dt ≤ max acc decel * dt := by
  rw [stepBound]
  split
  · exact mul_le_mul_of_nonneg_right (le_max_right acc decel) hdt
  · exact mul_le_mul_of_nonneg_right (le_max_left acc decel) hdt

theorem mul_ramp_nonneg : 0 ≤ current * ramp current target acc decel dt := by
  simp only [ramp]
  split
  · rw [mul_zero]
  · rename_i hcross
    rw [not_or, not_and, not_and] at hcross
    rcases lt_trichotomy current 0 with hneg | rfl | hpos
    · exact mul_nonneg_of_nonpos_of_nonpos hneg.le (not_lt.mp (hcross.2 hneg))
    · rw [zero_mul]
    · exact mul_nonneg hpos.le (not_lt.mp (hcross.1 hpos))

theorem abs_ramp_zero (hacc : 0 ≤ acc) (hdecel : 0 ≤ decel) (hdt : 0 ≤ dt) :
    |ramp current 0 acc decel dt| = max 0 (|current| - decel * dt) := by
  have hshare : 0 ≤ decel * dt := mul_nonneg hdecel hdt
  rcases lt_trichotomy current 0 with hneg | rfl | hpos
  · have hslows : Slowing current 0 := Or.inr ⟨hneg, hneg⟩
    have hslowing : stepBound current 0 acc decel dt = decel * dt := by
      rw [stepBound, if_pos hslows]
    have hnext : ramp current 0 acc decel dt = min (current + decel * dt) 0 := by
      simp only [ramp, hslowing, approach_of_le hshare hneg.le]
      rw [if_neg]
      rintro (⟨hpos, -⟩ | ⟨-, hpos⟩)
      · exact absurd hpos hneg.not_gt
      · exact absurd hpos (not_lt.mpr (min_le_right _ _))
    rw [hnext, abs_of_nonpos (min_le_right _ _), abs_of_neg hneg, ← max_neg_neg, neg_zero,
      max_comm, neg_add']
  · rw [ramp_self hacc hdecel hdt, abs_zero, zero_sub, max_eq_left (by linarith)]
  · have hslows : Slowing current 0 := Or.inl ⟨hpos, hpos⟩
    have hslowing : stepBound current 0 acc decel dt = decel * dt := by
      rw [stepBound, if_pos hslows]
    have hnext : ramp current 0 acc decel dt = max (current - decel * dt) 0 := by
      simp only [ramp, hslowing, approach_of_ge hshare hpos.le]
      rw [if_neg]
      rintro (⟨-, hneg⟩ | ⟨hneg, -⟩)
      · exact absurd hneg (not_lt.mpr (le_max_right _ _))
      · exact absurd hneg hpos.not_gt
    rw [hnext, abs_of_nonneg (le_max_right _ _), abs_of_pos hpos, max_comm]

/-- A step ends at the target, at zero on the way to the other side of it, or as far as its
bound goes. -/
theorem ramp_cases (hacc : 0 ≤ acc) (hdecel : 0 ≤ decel) (hdt : 0 ≤ dt) :
    ramp current target acc decel dt = target ∨
      (ramp current target acc decel dt = 0 ∧ current * target < 0) ∨
      |ramp current target acc decel dt - current| = stepBound current target acc decel dt := by
  have hbound := stepBound_nonneg current target hacc hdecel hdt
  have hnext := approach_mem_uIcc current target hbound
  simp only [ramp]
  split
  · rename_i hcross
    refine Or.inr (Or.inl ⟨rfl, ?_⟩)
    rw [Set.mem_uIcc] at hnext
    rcases hcross with ⟨hcurrent, hcross⟩ | ⟨hcurrent, hcross⟩
    · exact mul_neg_of_pos_of_neg hcurrent (by rcases hnext with h | h <;> linarith)
    · exact mul_neg_of_neg_of_pos hcurrent (by rcases hnext with h | h <;> linarith)
  · rcases le_total current target with hle | hle
    · rw [approach_of_le hbound hle]
      rcases min_choice (current + stepBound current target acc decel dt) target with h | h
      · right; right
        rw [h, add_sub_cancel_left, abs_of_nonneg hbound]
      · exact Or.inl h
    · rw [approach_of_ge hbound hle]
      rcases max_choice (current - stepBound current target acc decel dt) target with h | h
      · right; right
        rw [h, sub_sub_cancel_left, abs_neg, abs_of_nonneg hbound]
      · exact Or.inl h

end Ramp

section Excess

def excess (lo hi value : K) : K := max 0 (max (value - hi) (lo - value))

variable {lo hi value current target next share acc decel dt : K}

theorem excess_of_mem (h : value ∈ Set.Icc lo hi) : excess lo hi value = 0 := by
  apply max_eq_left
  exact max_le (by linarith [h.2]) (by linarith [h.1])

theorem excess_le_of_below (hbelow : current < lo) (htarget : target ∈ Set.Icc lo hi)
    (hnext : next ∈ Set.uIcc current target) (hmove : |next - current| = share) :
    excess lo hi next ≤ max 0 (excess lo hi current - share) := by
  rw [Set.uIcc_of_le (hbelow.le.trans htarget.1)] at hnext
  rw [abs_of_nonneg (sub_nonneg.mpr hnext.1)] at hmove
  have hexcess : lo - current ≤ excess lo hi current :=
    (le_max_right _ _).trans (le_max_right _ _)
  refine max_le (le_max_left _ _) (max_le ?_ ?_)
  · exact le_max_of_le_left (sub_nonpos.mpr (hnext.2.trans htarget.2))
  · exact le_max_of_le_right (by linarith)

theorem excess_le_of_above (habove : hi < current) (htarget : target ∈ Set.Icc lo hi)
    (hnext : next ∈ Set.uIcc current target) (hmove : |next - current| = share) :
    excess lo hi next ≤ max 0 (excess lo hi current - share) := by
  rw [Set.uIcc_of_ge (htarget.2.trans habove.le)] at hnext
  rw [abs_of_nonpos (sub_nonpos.mpr hnext.2)] at hmove
  have hexcess : current - hi ≤ excess lo hi current :=
    (le_max_left _ _).trans (le_max_right _ _)
  refine max_le (le_max_left _ _) (max_le ?_ ?_)
  · exact le_max_of_le_right (by linarith)
  · exact le_max_of_le_left (sub_nonpos.mpr (htarget.1.trans hnext.1))

/-- What is outside comes back in by the deceleration's share, or all the way. -/
theorem excess_ramp_le (hlo : lo ≤ 0) (hhi : 0 ≤ hi) (htarget : target ∈ Set.Icc lo hi)
    (hacc : 0 ≤ acc) (hdecel : 0 ≤ decel) (hdt : 0 ≤ dt) :
    excess lo hi (ramp current target acc decel dt) ≤
      excess lo hi current - min (excess lo hi current) (decel * dt) := by
  have hrest : 0 ≤ excess lo hi current - min (excess lo hi current) (decel * dt) :=
    sub_nonneg.mpr (min_le_left _ _)
  have hshare : excess lo hi current - decel * dt ≤
      excess lo hi current - min (excess lo hi current) (decel * dt) :=
    sub_le_sub_left (min_le_right _ _) _
  have hmem := ramp_mem_uIcc current target hacc hdecel hdt
  rcases ramp_cases current target hacc hdecel hdt with h | ⟨h, -⟩ | h
  · rw [h, excess_of_mem htarget]
    exact hrest
  · rw [h, excess_of_mem ⟨hlo, hhi⟩]
    exact hrest
  · by_cases hinside : current ∈ Set.Icc lo hi
    · have hnext : ramp current target acc decel dt ∈ Set.Icc lo hi :=
        Set.uIcc_subset_Icc hinside htarget hmem
      rw [excess_of_mem hnext]
      exact hrest
    · -- Outside its limits the axis slows, so that the step is the deceleration's.
      rw [Set.mem_Icc, not_and_or, not_le, not_le] at hinside
      rcases hinside with hbelow | habove
      · have hslows : Slowing current target :=
          Or.inr ⟨by linarith, hbelow.trans_le htarget.1⟩
        rw [stepBound, if_pos hslows] at h
        exact (excess_le_of_below hbelow htarget hmem h).trans (max_le hrest hshare)
      · have hslows : Slowing current target :=
          Or.inl ⟨by linarith, htarget.2.trans_lt habove⟩
        rw [stepBound, if_pos hslows] at h
        exact (excess_le_of_above habove htarget hmem h).trans (max_le hrest hshare)

end Excess

section Following

variable {current target acc decel dt delta : K}

/-- What is left of the way to a target, with an allowance for the stop at zero. -/
def remaining (current target delta : K) : K :=
  |target - current| + if current * target < 0 then delta else 0

theorem remaining_nonneg (hdelta : 0 ≤ delta) : 0 ≤ remaining current target delta := by
  rw [remaining]
  split
  · exact add_nonneg (abs_nonneg _) hdelta
  · exact add_nonneg (abs_nonneg _) le_rfl

theorem remaining_le (hdelta : 0 ≤ delta) :
    remaining current target delta ≤ |target| + |current| + delta := by
  have hdistance := abs_sub target current
  rw [remaining]
  split <;> linarith

theorem remaining_of_mem_uIcc {next : K} (hdelta : 0 ≤ delta)
    (h : next ∈ Set.uIcc current target) :
    remaining next target delta ≤ remaining current target delta - |next - current| := by
  rw [Set.mem_uIcc] at h
  have hdistance : |target - next| = |target - current| - |next - current| := by
    rcases h with ⟨h₁, h₂⟩ | ⟨h₁, h₂⟩
    · rw [abs_of_nonneg (by linarith), abs_of_nonneg (by linarith), abs_of_nonneg (by linarith)]
      linarith
    · rw [abs_of_nonpos (by linarith), abs_of_nonpos (by linarith), abs_of_nonpos (by linarith)]
      linarith
  have hsign : next * target < 0 → current * target < 0 := by
    intro hnext
    rcases mul_neg_iff.mp hnext with ⟨hn, ht⟩ | ⟨hn, ht⟩
    · exact mul_neg_of_pos_of_neg (by rcases h with h | h <;> linarith) ht
    · exact mul_neg_of_neg_of_pos (by rcases h with h | h <;> linarith) ht
  have hallowance : (if next * target < 0 then delta else 0) ≤
      if current * target < 0 then delta else 0 := by
    split
    · rename_i hnext
      rw [if_pos (hsign hnext)]
    · split
      · exact hdelta
      · exact le_rfl
  rw [remaining, remaining, hdistance]
  linarith

/-- A step reaches the target or takes its length off what is left. -/
theorem remaining_ramp (hdelta : 0 ≤ delta) (hacc : delta ≤ acc * dt)
    (hdecel : delta ≤ decel * dt) (hacc' : 0 ≤ acc) (hdecel' : 0 ≤ decel) (hdt : 0 ≤ dt) :
    ramp current target acc decel dt = target ∨
      remaining (ramp current target acc decel dt) target delta ≤
        remaining current target delta - delta := by
  rcases ramp_cases current target hacc' hdecel' hdt with h | ⟨h, hopposite⟩ | h
  · exact Or.inl h
  · right
    have hfurther : |target| ≤ |target - current| := by
      rcases mul_neg_iff.mp hopposite with ⟨hc, ht⟩ | ⟨hc, ht⟩
      · rw [abs_of_neg ht, abs_of_neg (by linarith)]
        linarith
      · rw [abs_of_pos ht, abs_of_pos (by linarith)]
        linarith
    rw [h, remaining, remaining, if_pos hopposite, zero_mul, if_neg (lt_irrefl 0), sub_zero]
    linarith
  · right
    have hlong : delta ≤ stepBound current target acc decel dt := by
      rw [stepBound]
      split
      · exact hdecel
      · exact hacc
    have hleft := remaining_of_mem_uIcc hdelta (ramp_mem_uIcc current target hacc' hdecel' hdt)
    linarith

variable {σ : Type*} {ε : Type*} {step : σ → ε → σ} (inv goal : σ → Prop) (measure : σ → K)
  (allowed : ε → Prop)

/-- Steps that each reach a goal, which is then kept, or take a fixed amount off a measure
reach it once they are more than the measure allows. -/
theorem foldl_reaches (hnonneg : ∀ s, 0 ≤ measure s)
    (hinv : ∀ s e, allowed e → inv s → inv (step s e))
    (hkept : ∀ s e, allowed e → inv s → goal s → goal (step s e))
    (hstep : ∀ s e, allowed e → inv s →
      goal (step s e) ∨ measure (step s e) ≤ measure s - delta) (inputs : List ε)
    (hinputs : ∀ e ∈ inputs, allowed e) {s : σ} (hs : inv s)
    (h : goal s ∨ measure s < inputs.length * delta) : goal (inputs.foldl step s) := by
  induction inputs generalizing s with
  | nil =>
      rcases h with h | h
      · exact h
      · rw [List.length_nil, Nat.cast_zero, zero_mul] at h
        exact absurd h (not_lt.mpr (hnonneg s))
  | cons e inputs ih =>
      obtain ⟨he, hrest⟩ := List.forall_mem_cons.mp hinputs
      apply ih hrest (hinv s e he hs)
      rcases h with h | h
      · exact Or.inl (hkept s e he hs h)
      · refine (hstep s e he hs).imp_right fun hless => ?_
        rw [List.length_cons, Nat.cast_succ, add_mul, one_mul] at h
        linarith

end Following

end EasyNav.AxisRamp
