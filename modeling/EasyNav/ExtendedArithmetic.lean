import Mathlib.Algebra.Order.Field.Basic
import Mathlib.Algebra.Order.Group.MinMax
import Mathlib.Data.Rat.Cast.Order
import Mathlib.Analysis.Real.Sqrt
import Mathlib.Tactic.Linarith

/-!
Floating-point values with exact arithmetic: the elements of an ordered field,
the two infinities and not-a-number. Comparisons are those of IEEE 754, false
as soon as one side is not a number, so they form no order and every branch on
them has to say which way such a value goes. Zero carries no sign.
-/

namespace EasyNav.ExtendedArithmetic

inductive Extended (K : Type*) where
  | nan
  | negInf
  | posInf
  | fin (x : K)
  deriving DecidableEq

namespace Extended

variable {K : Type*}

def isFinite : Extended K → Bool
  | .fin _ => true
  | _ => false

def isInf : Extended K → Bool
  | .negInf | .posInf => true
  | _ => false

@[simp] theorem isFinite_fin (x : K) : (fin x).isFinite = true := rfl

theorem isFinite_iff {a : Extended K} : a.isFinite = true ↔ ∃ x, a = fin x := by
  cases a <;> simp [isFinite]

section Comparison

variable [LinearOrder K]

def blt : Extended K → Extended K → Bool
  | .nan, _ | _, .nan => false
  | _, .negInf => false
  | .negInf, _ => true
  | .posInf, _ => false
  | .fin _, .posInf => true
  | .fin x, .fin y => decide (x < y)

instance : LT (Extended K) := ⟨fun a b => blt a b = true⟩

instance (a b : Extended K) : Decidable (a < b) :=
  inferInstanceAs (Decidable (blt a b = true))

/-- The comparison `a == b` of IEEE 754, false on not-a-number. -/
def beqIeee : Extended K → Extended K → Bool
  | .negInf, .negInf | .posInf, .posInf => true
  | .fin x, .fin y => decide (x = y)
  | _, _ => false

def ble (a b : Extended K) : Bool := blt a b || beqIeee a b

instance : LE (Extended K) := ⟨fun a b => ble a b = true⟩

instance (a b : Extended K) : Decidable (a ≤ b) :=
  inferInstanceAs (Decidable (ble a b = true))

@[simp] theorem fin_lt_fin {x y : K} : (fin x < fin y) ↔ x < y := by
  change decide (x < y) = true ↔ _
  simp

@[simp] theorem fin_le_fin {x y : K} : (fin x ≤ fin y) ↔ x ≤ y := by
  change (decide (x < y) || decide (x = y)) = true ↔ _
  simp [le_iff_lt_or_eq]

@[simp] theorem not_nan_lt (a : Extended K) : ¬ (nan < a) := by
  change ¬ blt nan a = true
  simp [blt]

@[simp] theorem not_lt_nan (a : Extended K) : ¬ (a < nan) := by
  change ¬ blt a nan = true
  cases a <;> simp [blt]

@[simp] theorem not_lt_negInf (a : Extended K) : ¬ (a < negInf) := by
  change ¬ blt a negInf = true
  cases a <;> simp [blt]

@[simp] theorem not_posInf_lt (a : Extended K) : ¬ (posInf < a) := by
  change ¬ blt posInf a = true
  cases a <;> simp [blt]

@[simp] theorem fin_lt_posInf (x : K) : fin x < posInf := rfl

@[simp] theorem negInf_lt_fin (x : K) : negInf < fin x := rfl

@[simp] theorem not_nan_le (a : Extended K) : ¬ (nan ≤ a) := by
  change ¬ ble nan a = true
  simp [ble, blt, beqIeee]

theorem eq_of_beqIeee {a b : Extended K} (h : beqIeee a b = true) : a = b := by
  cases a <;> cases b <;> simp_all [beqIeee]

def stdMin (a b : Extended K) : Extended K := if b < a then b else a

def stdMax (a b : Extended K) : Extended K := if a < b then b else a

/-- `std::clamp(v, lo, hi)`: a value that is not a number passes through. -/
def clamp (v lo hi : Extended K) : Extended K :=
  if v < lo then lo else if hi < v then hi else v

@[simp] theorem stdMin_fin (x y : K) : stdMin (fin x) (fin y) = fin (min x y) := by
  unfold stdMin
  simp only [fin_lt_fin]
  split
  · rename_i h
    rw [min_eq_right h.le]
  · rename_i h
    rw [min_eq_left (not_lt.mp h)]

@[simp] theorem stdMax_fin (x y : K) : stdMax (fin x) (fin y) = fin (max x y) := by
  unfold stdMax
  simp only [fin_lt_fin]
  split
  · rename_i h
    rw [max_eq_right h.le]
  · rename_i h
    rw [max_eq_left (not_lt.mp h)]

@[simp] theorem stdMin_posInf (a : Extended K) : stdMin a posInf = a := by
  simp [stdMin]

@[simp] theorem stdMax_negInf (a : Extended K) : stdMax a negInf = a := by
  simp [stdMax]

theorem clamp_fin {v lo hi : K} (h : lo ≤ hi) :
    clamp (fin v) (fin lo) (fin hi) = fin (max lo (min hi v)) := by
  unfold clamp
  simp only [fin_lt_fin]
  split
  · rename_i hlo
    rw [max_eq_left ((min_le_right _ _).trans hlo.le)]
  · rename_i hlo
    split
    · rename_i hhi
      rw [min_eq_left hhi.le, max_eq_right h]
    · rename_i hhi
      rw [min_eq_right (not_lt.mp hhi), max_eq_right (not_lt.mp hlo)]

theorem clamp_cases (v : Extended K) {lo hi : K} (h : lo ≤ hi) :
    (v = nan ∧ clamp v (fin lo) (fin hi) = nan) ∨
      ∃ x, lo ≤ x ∧ x ≤ hi ∧ clamp v (fin lo) (fin hi) = fin x := by
  cases v with
  | nan => exact Or.inl ⟨rfl, by simp [clamp]⟩
  | negInf => exact Or.inr ⟨lo, le_rfl, h, by simp [clamp]⟩
  | posInf => exact Or.inr ⟨hi, h, le_rfl, by simp [clamp]⟩
  | fin v =>
      refine Or.inr ⟨max lo (min hi v), le_max_left _ _, ?_, clamp_fin h⟩
      exact max_le h (min_le_left _ _)

end Comparison

section Arithmetic

variable [Field K]

instance : Zero (Extended K) := ⟨fin 0⟩

theorem zero_def : (0 : Extended K) = fin 0 := rfl

def neg : Extended K → Extended K
  | .nan => .nan
  | .negInf => .posInf
  | .posInf => .negInf
  | .fin x => .fin (-x)

def add : Extended K → Extended K → Extended K
  | .fin x, .fin y => .fin (x + y)
  | .nan, _ | _, .nan => .nan
  | .posInf, .negInf | .negInf, .posInf => .nan
  | .posInf, _ | _, .posInf => .posInf
  | .negInf, _ | _, .negInf => .negInf

instance : Neg (Extended K) := ⟨neg⟩
instance : Add (Extended K) := ⟨add⟩
instance : Sub (Extended K) := ⟨fun a b => a + -b⟩

@[simp] theorem neg_fin (x : K) : -(fin x) = fin (-x) := rfl

@[simp] theorem neg_posInf : -(posInf : Extended K) = negInf := rfl

@[simp] theorem add_fin (x y : K) : fin x + fin y = fin (x + y) := rfl

@[simp] theorem sub_fin (x y : K) : fin x - fin y = fin (x - y) := by
  change fin (x + -y) = _
  rw [← sub_eq_add_neg]

theorem sub_eq_fin {a b : Extended K} {z : K} (h : a - b = fin z) :
    ∃ x y, a = fin x ∧ b = fin y ∧ z = x - y := by
  change add a (neg b) = fin z at h
  cases a <;> cases b <;> simp_all [add, neg, sub_eq_add_neg]

variable [LinearOrder K]

/-- The infinity with the sign of `x`, not a number for zero. -/
def infOfSign (x : K) : Extended K :=
  if 0 < x then .posInf else if x < 0 then .negInf else .nan

def mul : Extended K → Extended K → Extended K
  | .fin x, .fin y => .fin (x * y)
  | .nan, _ | _, .nan => .nan
  | .posInf, .posInf | .negInf, .negInf => .posInf
  | .posInf, .negInf | .negInf, .posInf => .negInf
  | .posInf, .fin x | .fin x, .posInf => infOfSign x
  | .negInf, .fin x | .fin x, .negInf => infOfSign (-x)

/-- Division; a zero divisor counts as positive. -/
def div : Extended K → Extended K → Extended K
  | .nan, _ | _, .nan => .nan
  | .fin x, .fin y => if y = 0 then infOfSign x else .fin (x / y)
  | .fin _, .posInf | .fin _, .negInf => .fin 0
  | .posInf, .fin y => if y < 0 then .negInf else .posInf
  | .negInf, .fin y => if y < 0 then .posInf else .negInf
  | _, _ => .nan

def abs : Extended K → Extended K
  | .nan => .nan
  | .negInf | .posInf => .posInf
  | .fin x => .fin |x|

instance : Mul (Extended K) := ⟨mul⟩
instance : Div (Extended K) := ⟨div⟩

@[simp] theorem mul_fin (x y : K) : fin x * fin y = fin (x * y) := rfl

@[simp] theorem abs_fin (x : K) : abs (fin x) = fin |x| := rfl

theorem div_fin {x y : K} (hy : y ≠ 0) : fin x / fin y = fin (x / y) := by
  change (if y = 0 then infOfSign x else fin (x / y)) = _
  rw [if_neg hy]

end Arithmetic

end Extended

/-- The length of a hypotenuse, kept exactly as its square. -/
inductive Hypotenuse (K : Type*) where
  | nan
  | inf
  | root (square : K)
  deriving DecidableEq

namespace Hypotenuse

variable {K : Type*} [Field K]

/-- `std::hypot(x, y)`: an infinite side wins over one that is not a number. -/
def hypot (x y : Extended K) : Hypotenuse K :=
  if x.isInf || y.isInf then .inf
  else match x, y with
    | .fin x, .fin y => .root (x * x + y * y)
    | _, _ => .nan

/-- The comparison `length > bound` of IEEE 754. -/
def exceeds [LinearOrder K] : Hypotenuse K → Extended K → Bool
  | .nan, _ | _, .nan => false
  | _, .posInf => false
  | _, .negInf => true
  | .inf, .fin _ => true
  | .root s, .fin t => decide (t < 0 ∨ t * t < s)

theorem exceeds_root_fin [LinearOrder K] (s t : K) :
    (root s).exceeds (.fin t) = decide (t < 0 ∨ t * t < s) := rfl

theorem exceeds_inf_fin [LinearOrder K] (t : K) : inf.exceeds (.fin t) = true := rfl

theorem sqrt_le_of_not_exceeds {s t : ℚ} (h : (root s).exceeds (.fin t) = false) :
    Real.sqrt s ≤ t := by
  rw [exceeds_root_fin, decide_eq_false_iff_not, not_or, not_lt, not_lt] at h
  rw [Real.sqrt_le_iff, sq]
  exact_mod_cast h

end Hypotenuse

end EasyNav.ExtendedArithmetic
