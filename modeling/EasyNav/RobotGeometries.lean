import EasyNav.ExtendedArithmetic
import EasyNav.Polygons
import Mathlib.Analysis.SpecialFunctions.Sqrt

namespace EasyNav.RobotGeometries

open EasyNav.ExtendedArithmetic
open EasyNav.ExtendedArithmetic.Extended
open EasyNav.Polygons

universe u

abbrev FootprintPoint (K : Type u) := Point K

section Footprints

variable {K : Type u} [Field K] [LinearOrder K] (hypot : K → K → K)

/-- Radius of the smallest circle around the robot frame containing the footprint. -/
def footprintRadius (footprint : List (FootprintPoint K)) : K :=
  footprint.foldl (fun radius p => max radius (hypot p.x p.y)) 0

def footprintContains (footprint : List (FootprintPoint K)) (x y : K) : Bool :=
  (edges footprint).foldl
    (fun inside (a, b) =>
      if (decide (y < a.y) != decide (y < b.y)) &&
          decide (x < (b.x - a.x) * (y - a.y) / (b.y - a.y) + a.x)
      then !inside else inside)
    false

/-- Distance from `(x, y)` to the border of the footprint. -/
def footprintBorderDistance (footprint : List (FootprintPoint K)) (x y : K) : Extended K :=
  (edges footprint).foldl
    (fun best (b, a) =>
      let dx := b.x - a.x
      let dy := b.y - a.y
      let len2 := dx * dx + dy * dy
      let t := if 0 < len2 then max 0 (min 1 (((x - a.x) * dx + (y - a.y) * dy) / len2)) else 0
      stdMin best (.fin (hypot (x - (a.x + t * dx)) (y - (a.y + t * dy)))))
    .posInf

/-- Radius of the largest circle around the robot frame inside the footprint. -/
def footprintInscribedRadius (footprint : List (FootprintPoint K)) : Extended K :=
  if decide (footprint.length < 3) || !footprintContains footprint 0 0 then 0
  else footprintBorderDistance hypot footprint 0 0

end Footprints

section Folds

variable {K : Type u} [LinearOrder K]

theorem lt_stdMin_iff {r d : K} {a : Extended K} :
    (.fin r < stdMin a (.fin d)) ↔ (.fin r < a) ∧ r < d := by
  cases a with
  | nan => simp [stdMin]
  | negInf => simp [stdMin]
  | posInf => simp [stdMin]
  | fin x => simp

theorem lt_foldl_stdMin {α : Type u} {r : K} (d : α → K) {l : List α} {best : Extended K}
    (h : .fin r < l.foldl (fun best a => stdMin best (.fin (d a))) best) :
    (.fin r < best) ∧ ∀ a ∈ l, r < d a := by
  induction l generalizing best with
  | nil => exact ⟨h, fun a ha => absurd ha List.not_mem_nil⟩
  | cons b l ih =>
      obtain ⟨hfirst, hrest⟩ := ih h
      obtain ⟨hbest, hb⟩ := lt_stdMin_iff.mp hfirst
      exact ⟨hbest, List.forall_mem_cons.mpr ⟨hb, hrest⟩⟩

theorem foldl_stdMin_cases {α : Type u} (d : α → K) (l : List α) (best : Extended K) :
    l.foldl (fun best a => stdMin best (.fin (d a))) best = best ∨
      ∃ a ∈ l, l.foldl (fun best a => stdMin best (.fin (d a))) best = .fin (d a) := by
  induction l generalizing best with
  | nil => exact Or.inl rfl
  | cons b l ih =>
      rw [List.foldl_cons]
      rcases ih (stdMin best (.fin (d b))) with hbest | ⟨a, ha, hlast⟩
      · rw [hbest, stdMin]
        split
        · exact Or.inr ⟨b, List.mem_cons_self, rfl⟩
        · exact Or.inl rfl
      · exact Or.inr ⟨a, List.mem_cons_of_mem _ ha, hlast⟩

theorem exists_foldl_stdMin {α : Type u} (d : α → K) {l : List α} (hne : l ≠ []) :
    ∃ a ∈ l, l.foldl (fun best a => stdMin best (.fin (d a))) .posInf = .fin (d a) := by
  obtain ⟨b, l, rfl⟩ := List.exists_cons_of_ne_nil hne
  have hfirst : stdMin .posInf (.fin (d b)) = .fin (d b) := if_pos (fin_lt_posInf _)
  rw [List.foldl_cons, hfirst]
  rcases foldl_stdMin_cases d l (.fin (d b)) with hb | ⟨a, ha, hlast⟩
  · exact ⟨b, List.mem_cons_self, hb⟩
  · exact ⟨a, List.mem_cons_of_mem _ ha, hlast⟩

theorem le_foldl_max {α : Type u} (f : α → K) (l : List α) (start : K) :
    start ≤ l.foldl (fun greatest a => max greatest (f a)) start ∧
      ∀ a ∈ l, f a ≤ l.foldl (fun greatest a => max greatest (f a)) start := by
  induction l generalizing start with
  | nil => exact ⟨le_rfl, fun a ha => absurd ha List.not_mem_nil⟩
  | cons b l ih =>
      obtain ⟨hstart, hrest⟩ := ih (max start (f b))
      exact ⟨(le_max_left _ _).trans hstart,
        List.forall_mem_cons.mpr ⟨(le_max_right _ _).trans hstart, hrest⟩⟩

end Folds

section Bounds

variable {K : Type u} [Field K] [LinearOrder K] {hypot : K → K → K}

/-- `std::hypot` in exact arithmetic. -/
structure IsHypot (hypot : K → K → K) : Prop where
  nonneg : ∀ x y, 0 ≤ hypot x y
  sq : ∀ x y, hypot x y ^ 2 = x ^ 2 + y ^ 2

theorem footprintContains_eq_inside (footprint : List (FootprintPoint K)) (x y : K) :
    footprintContains footprint x y = inside footprint ⟨x, y⟩ := by
  rw [inside, ← Bool.false_xor (parity _ _), ← foldl_toggle]
  rfl

theorem footprintBorderDistance_eq (footprint : List (FootprintPoint K)) (x y : K) :
    footprintBorderDistance hypot footprint x y =
      (edges footprint).foldl
        (fun best e => stdMin best (.fin (hypot (x - (along e.2 e.1 (closest e.2 e.1 x y)).x)
          (y - (along e.2 e.1 (closest e.2 e.1 x y)).y)))) .posInf := rfl

theorem footprintRadius_nonneg (footprint : List (FootprintPoint K)) :
    0 ≤ footprintRadius hypot footprint :=
  (le_foldl_max (fun p : Point K => hypot p.x p.y) footprint 0).1

variable {footprint : List (FootprintPoint K)}

theorem edges_ne_nil_of_contains {x y : K} (h : footprintContains footprint x y = true) :
    edges footprint ≠ [] := by
  intro hnil
  rw [footprintContains, hnil] at h
  cases h

variable [IsStrictOrderedRing K]

theorem sq_lt_of_lt_footprintBorderDistance (hhypot : IsHypot hypot) {x y r : K} (hr : 0 ≤ r)
    (h : .fin r < footprintBorderDistance hypot footprint x y) {q : Point K}
    (hq : OnBorder footprint q) : r ^ 2 < (x - q.x) ^ 2 + (y - q.y) ^ 2 := by
  rw [footprintBorderDistance_eq] at h
  obtain ⟨e, he, hsegment⟩ := hq
  have hlt := (lt_foldl_stdMin _ h).2 e he
  refine lt_of_lt_of_le ?_ (closest_le x y hsegment.symm)
  rw [← hhypot.sq]
  exact pow_lt_pow_left₀ hlt hr two_ne_zero

theorem footprintContains_of_lt (hhypot : IsHypot hypot) {x y : K}
    (h : .fin (hypot x y) < footprintInscribedRadius hypot footprint) :
    footprintContains footprint x y = true := by
  have hnonneg := hhypot.nonneg x y
  rw [footprintInscribedRadius] at h
  split at h
  · rw [zero_def, fin_lt_fin] at h
    exact absurd h (not_lt.mpr hnonneg)
  · rename_i hinside
    rw [Bool.or_eq_true, not_or, Bool.not_eq_true', Bool.not_eq_false] at hinside
    have hcloser : ∀ q, OnBorder footprint q → normSq (⟨x, y⟩ : Point K) < normSq q := by
      intro q hq
      have hlt := sq_lt_of_lt_footprintBorderDistance hhypot hnonneg h hq
      rw [hhypot.sq, zero_sub, zero_sub, neg_sq, neg_sq] at hlt
      exact hlt
    rw [footprintContains_eq_inside, inside_eq_of_closer hcloser, ← footprintContains_eq_inside]
    exact hinside.2

theorem hypot_le_footprintRadius (hhypot : IsHypot hypot) {x y : K}
    (h : footprintContains footprint x y = true) : hypot x y ≤ footprintRadius hypot footprint := by
  rw [footprintContains_eq_inside] at h
  have hvertices : ∀ v ∈ footprint, normSq v ≤ footprintRadius hypot footprint ^ 2 := by
    intro v hv
    rw [normSq, ← hhypot.sq]
    exact pow_le_pow_left₀ (hhypot.nonneg _ _)
      ((le_foldl_max (fun p : Point K => hypot p.x p.y) footprint 0).2 v hv) 2
  have hle := normSq_le_of_inside hvertices h
  rw [normSq, ← hhypot.sq] at hle
  exact (pow_le_pow_iff_left₀ (hhypot.nonneg x y) (footprintRadius_nonneg footprint)
    two_ne_zero).mp hle

theorem exists_footprintBorderDistance (hhypot : IsHypot hypot) (hne : edges footprint ≠ []) :
    ∃ r, footprintBorderDistance hypot footprint 0 0 = .fin r ∧ 0 ≤ r ∧
      r ≤ footprintRadius hypot footprint := by
  rw [footprintBorderDistance_eq]
  obtain ⟨e, he, heq⟩ := exists_foldl_stdMin
    (fun e : Point K × Point K => hypot (0 - (along e.2 e.1 (closest e.2 e.1 0 0)).x)
      (0 - (along e.2 e.1 (closest e.2 e.1 0 0)).y)) hne
  refine ⟨_, heq, hhypot.nonneg _ _, ?_⟩
  have hvertex : hypot e.1.x e.1.y ≤ footprintRadius hypot footprint :=
    (le_foldl_max (fun p : Point K => hypot p.x p.y) footprint 0).2 e.1 (mem_edges he).1
  refine le_trans ?_ hvertex
  rw [← pow_le_pow_iff_left₀ (hhypot.nonneg _ _) (hhypot.nonneg _ _) two_ne_zero, hhypot.sq,
    hhypot.sq]
  refine (closest_le 0 0 (onSegment_right e.2 e.1)).trans ?_
  rw [zero_sub, zero_sub, neg_sq, neg_sq]

theorem exists_footprintInscribedRadius (hhypot : IsHypot hypot)
    (footprint : List (FootprintPoint K)) :
    ∃ r, footprintInscribedRadius hypot footprint = .fin r ∧ 0 ≤ r ∧
      r ≤ footprintRadius hypot footprint := by
  rw [footprintInscribedRadius]
  split
  · exact ⟨0, zero_def, le_rfl, footprintRadius_nonneg footprint⟩
  · rename_i hinside
    rw [Bool.or_eq_true, not_or, Bool.not_eq_true', Bool.not_eq_false] at hinside
    exact exists_footprintBorderDistance hhypot (edges_ne_nil_of_contains hinside.2)

end Bounds

section Real

noncomputable def realHypot (x y : ℝ) : ℝ := √(x ^ 2 + y ^ 2)

theorem realHypot_isHypot : IsHypot realHypot where
  nonneg _ _ := Real.sqrt_nonneg _
  sq x y := Real.sq_sqrt (add_nonneg (sq_nonneg x) (sq_nonneg y))

end Real

/-- In exact arithmetic every point closer to the robot frame than the inscribed radius is
inside the footprint, and every point inside it is within its radius. -/
theorem footprint_between_radii (footprint : List (FootprintPoint ℝ)) (x y : ℝ) :
    (.fin (realHypot x y) < footprintInscribedRadius realHypot footprint →
        footprintContains footprint x y = true) ∧
      (footprintContains footprint x y = true →
        realHypot x y ≤ footprintRadius realHypot footprint) :=
  ⟨footprintContains_of_lt realHypot_isHypot, hypot_le_footprintRadius realHypot_isHypot⟩

def square : List (FootprintPoint ℝ) := [⟨1, 1⟩, ⟨-1, 1⟩, ⟨-1, -1⟩, ⟨1, -1⟩]

theorem square_inscribedRadius : footprintInscribedRadius realHypot square = .fin 1 := by
  have hcontains : footprintContains square 0 0 = true := by
    norm_num [footprintContains, square, edges, edgesFrom]
  have hdistance : footprintBorderDistance realHypot square 0 0 = .fin 1 := by
    norm_num [footprintBorderDistance, square, edges, edgesFrom, realHypot, stdMin]
  rw [footprintInscribedRadius, if_neg, hdistance]
  rw [hcontains]
  decide

theorem footprint_between_radii_square :
    footprintContains square (1 / 2) 0 = true ∧
      realHypot (1 / 2) 0 ≤ footprintRadius realHypot square := by
  have hcontains : footprintContains square (1 / 2) 0 = true := by
    refine (footprint_between_radii square (1 / 2) 0).1 ?_
    rw [square_inscribedRadius, fin_lt_fin, realHypot, Real.sqrt_lt' one_pos]
    norm_num
  exact ⟨hcontains, (footprint_between_radii square (1 / 2) 0).2 hcontains⟩

end EasyNav.RobotGeometries
