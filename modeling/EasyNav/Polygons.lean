import Mathlib.Algebra.Order.Field.Basic
import Mathlib.Order.Interval.Set.UnorderedInterval
import Mathlib.Tactic.Push
import Mathlib.Tactic.FieldSimp
import Mathlib.Tactic.Linarith
import Mathlib.Tactic.Ring

namespace EasyNav.Polygons

universe u

section Parity

variable {α : Type u}

def parity (f : α → Bool) (l : List α) : Bool := l.foldr (fun a odd => f a ^^ odd) false

@[simp] theorem parity_nil (f : α → Bool) : parity f [] = false := rfl

@[simp] theorem parity_cons (f : α → Bool) (a : α) (l : List α) :
    parity f (a :: l) = (f a ^^ parity f l) := rfl

theorem parity_congr {f g : α → Bool} {l : List α} (h : ∀ a ∈ l, f a = g a) :
    parity f l = parity g l := by
  induction l with
  | nil => rfl
  | cons a l ih =>
      rw [parity_cons, parity_cons, h a List.mem_cons_self,
        ih fun b hb => h b (List.mem_cons_of_mem a hb)]

theorem parity_xor (f g : α → Bool) (l : List α) :
    parity (fun a => f a ^^ g a) l = (parity f l ^^ parity g l) := by
  induction l with
  | nil => rfl
  | cons a l ih =>
      rw [parity_cons, parity_cons, parity_cons, ih]
      cases f a <;> cases g a <;> cases parity f l <;> cases parity g l <;> rfl

theorem exists_of_parity {f : α → Bool} {l : List α} (h : parity f l = true) :
    ∃ a ∈ l, f a = true := by
  induction l with
  | nil => cases h
  | cons a l ih =>
      cases hfa : f a with
      | true => exact ⟨a, List.mem_cons_self, hfa⟩
      | false =>
          rw [parity_cons, hfa, Bool.false_xor] at h
          obtain ⟨b, hb, hfb⟩ := ih h
          exact ⟨b, List.mem_cons_of_mem a hb, hfb⟩

theorem foldl_toggle (f : α → Bool) (l : List α) (flag : Bool) :
    l.foldl (fun flag a => if f a then !flag else flag) flag = (flag ^^ parity f l) := by
  induction l generalizing flag with
  | nil => rw [List.foldl_nil, parity_nil, Bool.xor_false]
  | cons a l ih =>
      rw [List.foldl_cons, ih, parity_cons]
      cases f a <;> cases flag <;> cases parity f l <;> rfl

end Parity

section Edges

variable {α : Type u}

def edgesFrom : α → List α → List (α × α)
  | _, [] => []
  | previous, a :: vertices => (a, previous) :: edgesFrom a vertices

/-- Each vertex with the one before it; before the first comes the last. -/
def edges (vertices : List α) : List (α × α) :=
  match vertices.getLast? with
  | none => []
  | some last => edgesFrom last vertices

theorem mem_edgesFrom {previous : α} {vertices : List α} {e : α × α}
    (h : e ∈ edgesFrom previous vertices) :
    e.1 ∈ vertices ∧ (e.2 = previous ∨ e.2 ∈ vertices) := by
  induction vertices generalizing previous with
  | nil => cases h
  | cons a vertices ih =>
      rcases List.mem_cons.mp h with rfl | h
      · exact ⟨List.mem_cons_self, Or.inl rfl⟩
      · obtain ⟨hfirst, hsecond⟩ := ih h
        refine ⟨List.mem_cons_of_mem a hfirst, Or.inr ?_⟩
        rcases hsecond with rfl | hsecond
        · exact List.mem_cons_self
        · exact List.mem_cons_of_mem a hsecond

theorem mem_edges {vertices : List α} {e : α × α} (h : e ∈ edges vertices) :
    e.1 ∈ vertices ∧ e.2 ∈ vertices := by
  rw [edges] at h
  cases hlast : vertices.getLast? with
  | none =>
      rw [hlast] at h
      cases h
  | some last =>
      rw [hlast] at h
      obtain ⟨hfirst, hsecond⟩ := mem_edgesFrom h
      refine ⟨hfirst, hsecond.elim (fun heq => ?_) id⟩
      rw [heq]
      exact List.mem_of_getLast? hlast

theorem parity_edgesFrom (f : α → Bool) (previous : α) (vertices : List α) :
    parity (fun e => f e.1 ^^ f e.2) (edgesFrom previous vertices) =
      (f previous ^^ f ((vertices.getLast?).getD previous)) := by
  induction vertices generalizing previous with
  | nil => rw [edgesFrom, parity_nil, List.getLast?_nil, Option.getD_none, Bool.xor_self]
  | cons a vertices ih =>
      have hlast : (a :: vertices).getLast?.getD previous = vertices.getLast?.getD a := by
        rw [List.getLast?_cons]
        rfl
      rw [edgesFrom, parity_cons, ih, hlast]
      cases f a <;> cases f previous <;> cases f (vertices.getLast?.getD a) <;> rfl

/-- Around a closed line there are an even number of changes. -/
theorem parity_edges (f : α → Bool) (vertices : List α) :
    parity (fun e => f e.1 ^^ f e.2) (edges vertices) = false := by
  rw [edges]
  cases hlast : vertices.getLast? with
  | none => rfl
  | some last =>
      dsimp only
      rw [parity_edgesFrom, hlast, Option.getD_some, Bool.xor_self]

end Edges

@[ext] structure Point (K : Type u) where
  x : K
  y : K

section Segments

variable {K : Type u} [Field K]

def normSq (p : Point K) : K := p.x ^ 2 + p.y ^ 2

/-- The point at the fraction `t` of the way from `a` to `b`. -/
def along (a b : Point K) (t : K) : Point K :=
  { x := a.x + t * (b.x - a.x), y := a.y + t * (b.y - a.y) }

theorem along_zero (a b : Point K) : along a b 0 = a := by
  rw [along, zero_mul, zero_mul, add_zero, add_zero]

theorem along_one (a b : Point K) : along a b 1 = b := by
  rw [along, one_mul, one_mul, add_sub_cancel, add_sub_cancel]

variable [LinearOrder K]

def OnSegment (a b q : Point K) : Prop := ∃ t, 0 ≤ t ∧ t ≤ 1 ∧ along a b t = q

variable [IsStrictOrderedRing K]

theorem onSegment_left (a b : Point K) : OnSegment a b a :=
  ⟨0, le_rfl, zero_le_one, along_zero a b⟩

theorem onSegment_right (a b : Point K) : OnSegment a b b :=
  ⟨1, zero_le_one, le_rfl, along_one a b⟩

theorem OnSegment.symm {a b q : Point K} (h : OnSegment a b q) : OnSegment b a q := by
  obtain ⟨t, hnonneg, hle, rfl⟩ := h
  refine ⟨1 - t, sub_nonneg.mpr hle, sub_le_self 1 hnonneg, ?_⟩
  ext
  · simp only [along]
    ring
  · simp only [along]
    ring

theorem normSq_le_of_onSegment {a b q : Point K} {bound : K} (ha : normSq a ≤ bound)
    (hb : normSq b ≤ bound) (h : OnSegment a b q) : normSq q ≤ bound := by
  obtain ⟨t, hnonneg, hle, rfl⟩ := h
  have hrest : 0 ≤ 1 - t := sub_nonneg.mpr hle
  have hsplit : normSq (along a b t) =
      (1 - t) * normSq a + t * normSq b -
        (1 - t) * t * ((a.x - b.x) ^ 2 + (a.y - b.y) ^ 2) := by
    simp only [normSq, along]
    ring
  have hgap : 0 ≤ (1 - t) * t * ((a.x - b.x) ^ 2 + (a.y - b.y) ^ 2) :=
    mul_nonneg (mul_nonneg hrest hnonneg) (add_nonneg (sq_nonneg _) (sq_nonneg _))
  have hfirst := mul_le_mul_of_nonneg_left ha hrest
  have hsecond := mul_le_mul_of_nonneg_left hb hnonneg
  rw [hsplit]
  linarith

/-- Of the fractions of a segment, the clamped quotient is where the quadratic is least. -/
theorem clamped_quotient_least {len2 dot t : K} (hpos : 0 < len2) (hnonneg : 0 ≤ t)
    (hle : t ≤ 1) :
    0 ≤ (t - max 0 (min 1 (dot / len2))) *
      ((t + max 0 (min 1 (dot / len2))) * len2 - 2 * dot) := by
  have hquot : dot = dot / len2 * len2 := (div_mul_cancel₀ dot hpos.ne').symm
  rcases le_total (dot / len2) 0 with hneg | hnonneg'
  · rw [max_eq_left ((min_le_right _ _).trans hneg), sub_zero, add_zero]
    refine mul_nonneg hnonneg ?_
    have hdot : dot ≤ 0 := by
      rw [hquot]
      exact mul_nonpos_of_nonpos_of_nonneg hneg hpos.le
    linarith [mul_nonneg hnonneg hpos.le]
  · rcases le_total (dot / len2) 1 with hwithin | hbeyond
    · rw [min_eq_right hwithin, max_eq_right hnonneg']
      have hsquare : (t - dot / len2) * ((t + dot / len2) * len2 - 2 * dot) =
          (t - dot / len2) ^ 2 * len2 := by
        nth_rewrite 3 [hquot]
        ring
      rw [hsquare]
      exact mul_nonneg (sq_nonneg _) hpos.le
    · rw [min_eq_left hbeyond, max_eq_right zero_le_one]
      refine mul_nonneg_of_nonpos_of_nonpos (by linarith) ?_
      have hdot : len2 ≤ dot := by
        rw [hquot]
        exact le_mul_of_one_le_left hpos.le hbeyond
      linarith [mul_le_mul_of_nonneg_right hle hpos.le]

theorem eq_zero_of_sum_squares {dx dy : K} (h : dx * dx + dy * dy = 0) : dx = 0 ∧ dy = 0 := by
  constructor
  · exact mul_self_eq_zero.mp (le_antisymm (by linarith [mul_self_nonneg dy])
      (mul_self_nonneg dx))
  · exact mul_self_eq_zero.mp (le_antisymm (by linarith [mul_self_nonneg dx])
      (mul_self_nonneg dy))

/-- The fraction at which a segment is closest to `(x, y)`. -/
def closest (a b : Point K) (x y : K) : K :=
  let dx := b.x - a.x
  let dy := b.y - a.y
  let len2 := dx * dx + dy * dy
  if 0 < len2 then max 0 (min 1 (((x - a.x) * dx + (y - a.y) * dy) / len2)) else 0

theorem closest_le {a b q : Point K} (x y : K) (h : OnSegment a b q) :
    (x - (along a b (closest a b x y)).x) ^ 2 + (y - (along a b (closest a b x y)).y) ^ 2 ≤
      (x - q.x) ^ 2 + (y - q.y) ^ 2 := by
  obtain ⟨t, hnonneg, hle, rfl⟩ := h
  simp only [along, closest]
  set dx := b.x - a.x
  set dy := b.y - a.y
  set len2 := dx * dx + dy * dy with hlen2
  set dot := (x - a.x) * dx + (y - a.y) * dy with hdot
  -- The difference of the squared distances is a quadratic in the fraction.
  have hdiff : ∀ s : K, (x - (a.x + t * dx)) ^ 2 + (y - (a.y + t * dy)) ^ 2 -
        ((x - (a.x + s * dx)) ^ 2 + (y - (a.y + s * dy)) ^ 2) =
      (t - s) * ((t + s) * len2 - 2 * dot) := by
    intro s
    rw [hlen2, hdot]
    ring
  rw [← sub_nonneg, hdiff]
  split
  · rename_i hpos
    exact clamped_quotient_least hpos hnonneg hle
  · rename_i hdegenerate
    have hlen2_nonneg : 0 ≤ len2 := add_nonneg (mul_self_nonneg dx) (mul_self_nonneg dy)
    have hzero : len2 = 0 := le_antisymm (not_lt.mp hdegenerate) hlen2_nonneg
    obtain ⟨hdx, hdy⟩ := eq_zero_of_sum_squares hzero
    have hdot' : dot = 0 := by
      rw [hdot, hdx, hdy, mul_zero, mul_zero, add_zero]
    simp [hzero, hdot']

end Segments

section Straddling

variable {K : Type u} [LinearOrder K]

/-- The ends are on different sides of a horizontal line; one that is on it counts as below. -/
def straddles (a b : Point K) (y : K) : Bool := decide (y < a.y) ^^ decide (y < b.y)

theorem straddles_cases {a b : Point K} {y : K} (h : straddles a b y = true) :
    a.y ≤ y ∧ y < b.y ∨ b.y ≤ y ∧ y < a.y := by
  rw [straddles] at h
  rcases lt_or_ge y a.y with ha | ha
  · rcases lt_or_ge y b.y with hb | hb
    · simp [ha, hb] at h
    · exact Or.inr ⟨hb, ha⟩
  · rcases lt_or_ge y b.y with hb | hb
    · exact Or.inl ⟨ha, hb⟩
    · simp [not_lt.mpr ha, not_lt.mpr hb] at h

end Straddling

section Crossings

variable {K : Type u} [Field K] [LinearOrder K]

/-- Where the segment meets the horizontal line. -/
def crossing (a b : Point K) (y : K) : K := (b.x - a.x) * (y - a.y) / (b.y - a.y) + a.x

/-- The segment is crossed by the ray to the right. -/
def crosses (a b p : Point K) : Bool := straddles a b p.y && decide (p.x < crossing a b p.y)

def inside (vertices : List (Point K)) (p : Point K) : Bool :=
  parity (fun e => crosses e.1 e.2 p) (edges vertices)

def OnBorder (vertices : List (Point K)) (q : Point K) : Prop :=
  ∃ e ∈ edges vertices, OnSegment e.1 e.2 q

variable [IsStrictOrderedRing K]

theorem crossing_onSegment {a b : Point K} {y : K} (h : straddles a b y = true) :
    OnSegment a b ⟨crossing a b y, y⟩ := by
  have hne : b.y - a.y ≠ 0 := by
    rcases straddles_cases h with ⟨ha, hb⟩ | ⟨hb, ha⟩
    · exact (sub_pos.mpr (ha.trans_lt hb)).ne'
    · exact (sub_neg.mpr (hb.trans_lt ha)).ne
  refine ⟨(y - a.y) / (b.y - a.y), ?_, ?_, ?_⟩
  · rcases straddles_cases h with ⟨ha, hb⟩ | ⟨hb, ha⟩
    · exact div_nonneg (by linarith) (by linarith)
    · exact div_nonneg_of_nonpos (by linarith) (by linarith)
  · rcases straddles_cases h with ⟨ha, hb⟩ | ⟨hb, ha⟩
    · rw [div_le_one (by linarith)]
      linarith
    · rw [div_le_one_of_neg (by linarith)]
      linarith
  · ext
    · simp only [along, crossing]
      ring
    · simp only [along]
      rw [div_mul_cancel₀ _ hne]
      ring

theorem exists_onSegment_between {a b q r : Point K} {x low high : K} (hq : OnSegment a b q)
    (hr : OnSegment a b r) (hqx : q.x ≤ x) (hrx : x ≤ r.x) (hqlow : low ≤ q.y)
    (hqhigh : q.y ≤ high) (hrlow : low ≤ r.y) (hrhigh : r.y ≤ high) :
    ∃ y, low ≤ y ∧ y ≤ high ∧ OnSegment a b ⟨x, y⟩ := by
  rcases hqx.eq_or_lt with rfl | hqx
  · exact ⟨q.y, hqlow, hqhigh, hq⟩
  · obtain ⟨t, ht, ht', rfl⟩ := hq
    obtain ⟨s, hs, hs', rfl⟩ := hr
    have hgap : 0 < (along a b s).x - (along a b t).x := by linarith
    -- The fraction of the way from the one point to the other.
    set f := (x - (along a b t).x) / ((along a b s).x - (along a b t).x) with hf
    have hf0 : 0 ≤ f := div_nonneg (by linarith) hgap.le
    have hf1 : f ≤ 1 := by
      rw [hf, div_le_one hgap]
      linarith
    have hrest : 0 ≤ 1 - f := by linarith
    have hpoint : along a b (t + f * (s - t)) =
        ⟨x, (1 - f) * (along a b t).y + f * (along a b s).y⟩ := by
      have hx : f * ((along a b s).x - (along a b t).x) = x - (along a b t).x :=
        div_mul_cancel₀ _ hgap.ne'
      ext
      · simp only [along] at hx ⊢
        linarith
      · simp only [along]
        ring
    refine ⟨(1 - f) * (along a b t).y + f * (along a b s).y, ?_, ?_, t + f * (s - t), ?_, ?_,
      hpoint⟩
    · linarith [mul_le_mul_of_nonneg_left hqlow hrest, mul_le_mul_of_nonneg_left hrlow hf0]
    · linarith [mul_le_mul_of_nonneg_left hqhigh hrest, mul_le_mul_of_nonneg_left hrhigh hf0]
    · have heq : t + f * (s - t) = (1 - f) * t + f * s := by ring
      rw [heq]
      exact add_nonneg (mul_nonneg hrest ht) (mul_nonneg hf0 hs)
    · have heq : t + f * (s - t) = (1 - f) * t + f * s := by ring
      rw [heq]
      linarith [mul_le_mul_of_nonneg_left ht' hrest, mul_le_mul_of_nonneg_left hs' hf0]

theorem crosses_eq_of_horizontal {a b : Point K} {y low high : K} (hle : low ≤ high)
    (havoid : ∀ x, low ≤ x → x ≤ high → ¬ OnSegment a b ⟨x, y⟩) :
    crosses a b ⟨low, y⟩ = crosses a b ⟨high, y⟩ := by
  rw [crosses, crosses]
  dsimp only
  cases hstraddles : straddles a b y with
  | false => rfl
  | true =>
      have hiff : low < crossing a b y ↔ high < crossing a b y := by
        refine ⟨fun hlow => ?_, fun hhigh => hle.trans_lt hhigh⟩
        by_contra hhigh
        exact havoid _ hlow.le (not_lt.mp hhigh) (crossing_onSegment hstraddles)
      rw [decide_eq_decide.mpr hiff]

/-- A vertex to the right of the vertical line through `x`, and between two heights. -/
def passed (x low high : K) (v : Point K) : Bool :=
  decide (x < v.x) && (decide (low < v.y) && decide (v.y ≤ high))

/-- A segment to the right of a part of a vertical line is crossed wherever it straddles. -/
theorem crosses_xor_of_right {a b : Point K} {x low high : K} (hle : low ≤ high)
    (hright : ∀ q, OnSegment a b q → low ≤ q.y → q.y ≤ high → x < q.x) :
    (crosses a b ⟨x, low⟩ ^^ crosses a b ⟨x, high⟩) =
      (passed x low high a ^^ passed x low high b) := by
  have hcrosses : ∀ y, low ≤ y → y ≤ high → crosses a b ⟨x, y⟩ = straddles a b y := by
    intro y hlow hhigh
    rw [crosses]
    dsimp only
    cases hstraddles : straddles a b y with
    | false => rfl
    | true => exact decide_eq_true (hright _ (crossing_onSegment hstraddles) hlow hhigh)
  have hpassed : ∀ v, OnSegment a b v →
      passed x low high v = (decide (low < v.y) ^^ decide (high < v.y)) := by
    intro v hv
    rw [passed]
    rcases lt_or_ge low v.y with hlow | hlow
    · rcases lt_or_ge high v.y with hhigh | hhigh
      · simp [hlow, hhigh, not_le.mpr hhigh]
      · simp [hlow, hhigh, not_lt.mpr hhigh, hright v hv hlow.le hhigh]
    · simp [not_lt.mpr hlow, not_lt.mpr (hlow.trans hle)]
  rw [hcrosses low le_rfl hle, hcrosses high hle le_rfl, hpassed a (onSegment_left a b),
    hpassed b (onSegment_right a b), straddles, straddles]
  generalize decide (low < a.y) = al
  generalize decide (low < b.y) = bl
  generalize decide (high < a.y) = ah
  generalize decide (high < b.y) = bh
  cases al <;> cases bl <;> cases ah <;> cases bh <;> rfl

theorem crosses_xor_of_left {a b : Point K} {x low high : K} (hle : low ≤ high)
    (hleft : ∀ q, OnSegment a b q → low ≤ q.y → q.y ≤ high → ¬ x < q.x) :
    (crosses a b ⟨x, low⟩ ^^ crosses a b ⟨x, high⟩) =
      (passed x low high a ^^ passed x low high b) := by
  have hcrosses : ∀ y, low ≤ y → y ≤ high → crosses a b ⟨x, y⟩ = false := by
    intro y hlow hhigh
    rw [crosses]
    dsimp only
    cases hstraddles : straddles a b y with
    | false => rfl
    | true => exact decide_eq_false (hleft _ (crossing_onSegment hstraddles) hlow hhigh)
  have hpassed : ∀ v, OnSegment a b v → passed x low high v = false := by
    intro v hv
    by_contra hpassed
    rw [Bool.not_eq_false, passed, Bool.and_eq_true, Bool.and_eq_true, decide_eq_true_eq,
      decide_eq_true_eq, decide_eq_true_eq] at hpassed
    obtain ⟨hx, hlow, hhigh⟩ := hpassed
    exact hleft v hv hlow.le hhigh hx
  rw [hcrosses low le_rfl hle, hcrosses high hle le_rfl, hpassed a (onSegment_left a b),
    hpassed b (onSegment_right a b)]

/-- Moving along a vertical line past a segment without touching it, what changes is whether its
ends are passed. -/
theorem crosses_xor_of_vertical {a b : Point K} {x low high : K} (hle : low ≤ high)
    (havoid : ∀ y, low ≤ y → y ≤ high → ¬ OnSegment a b ⟨x, y⟩) :
    (crosses a b ⟨x, low⟩ ^^ crosses a b ⟨x, high⟩) =
      (passed x low high a ^^ passed x low high b) := by
  -- All of the segment between the two heights is on one side of the line.
  by_cases hright : ∀ q, OnSegment a b q → low ≤ q.y → q.y ≤ high → x < q.x
  · exact crosses_xor_of_right hle hright
  · push Not at hright
    obtain ⟨q, hq, hqlow, hqhigh, hqx⟩ := hright
    refine crosses_xor_of_left hle fun r hr hrlow hrhigh hrx => ?_
    obtain ⟨y, hylow, hyhigh, hy⟩ :=
      exists_onSegment_between hq hr hqx hrx.le hqlow hqhigh hrlow hrhigh
    exact havoid y hylow hyhigh hy

section Paths

variable {vertices : List (Point K)}

theorem inside_eq_of_horizontal {y : K} (x x' : K)
    (havoid : ∀ z ∈ Set.uIcc x x', ¬ OnBorder vertices ⟨z, y⟩) :
    inside vertices ⟨x, y⟩ = inside vertices ⟨x', y⟩ := by
  wlog hle : x ≤ x' generalizing x x'
  · rw [Set.uIcc_comm] at havoid
    exact (this x' x havoid (le_of_not_ge hle)).symm
  refine parity_congr fun e he => crosses_eq_of_horizontal hle fun z hz hz' hon => ?_
  exact havoid z (Set.mem_uIcc_of_le hz hz') ⟨e, he, hon⟩

theorem inside_eq_of_vertical {x : K} (y y' : K)
    (havoid : ∀ z ∈ Set.uIcc y y', ¬ OnBorder vertices ⟨x, z⟩) :
    inside vertices ⟨x, y⟩ = inside vertices ⟨x, y'⟩ := by
  wlog hle : y ≤ y' generalizing y y'
  · rw [Set.uIcc_comm] at havoid
    exact (this y' y havoid (le_of_not_ge hle)).symm
  have hxor : (inside vertices ⟨x, y⟩ ^^ inside vertices ⟨x, y'⟩) = false := by
    rw [inside, inside, ← parity_xor]
    refine (parity_congr fun e he => ?_).trans (parity_edges (passed x y y') vertices)
    exact crosses_xor_of_vertical hle fun z hz hz' hon =>
      havoid z (Set.mem_uIcc_of_le hz hz') ⟨e, he, hon⟩
  exact bne_eq_false_iff_eq.mp hxor

theorem sq_le_of_mem_uIcc {z x : K} (h : z ∈ Set.uIcc 0 x) : z ^ 2 ≤ x ^ 2 := by
  rw [sq_le_sq]
  rcases Set.mem_uIcc.mp h with ⟨hnonneg, hle⟩ | ⟨hle, hnonpos⟩
  · exact abs_le_abs_of_nonneg hnonneg hle
  · rw [abs_of_nonpos hnonpos, abs_of_nonpos (hle.trans hnonpos)]
    exact neg_le_neg hle

/-- A point that is closer to the origin than all of the border is on the same side of it. -/
theorem inside_eq_of_closer {p : Point K}
    (hcloser : ∀ q, OnBorder vertices q → normSq p < normSq q) :
    inside vertices p = inside vertices ⟨0, 0⟩ := by
  have hhorizontal : ∀ z ∈ Set.uIcc 0 p.x, ¬ OnBorder vertices ⟨z, 0⟩ := by
    intro z hz hborder
    have hlt := hcloser _ hborder
    have hle := sq_le_of_mem_uIcc hz
    rw [normSq, normSq] at hlt
    dsimp only at hlt
    linarith [sq_nonneg p.y]
  have hvertical : ∀ z ∈ Set.uIcc 0 p.y, ¬ OnBorder vertices ⟨p.x, z⟩ := by
    intro z hz hborder
    have hlt := hcloser _ hborder
    have hle := sq_le_of_mem_uIcc hz
    rw [normSq, normSq] at hlt
    dsimp only at hlt
    linarith
  have hfirst := inside_eq_of_horizontal 0 p.x hhorizontal
  exact (hfirst.trans (inside_eq_of_vertical 0 p.y hvertical)).symm

/-- What is inside lies between two points of the border, to its left and to its right. -/
theorem exists_border_around {p : Point K} (h : inside vertices p = true) :
    ∃ left right, OnBorder vertices ⟨left, p.y⟩ ∧ OnBorder vertices ⟨right, p.y⟩ ∧
      left ≤ p.x ∧ p.x < right := by
  obtain ⟨e, he, hcrosses⟩ := exists_of_parity h
  -- An even number of edges straddle, so one of them is crossed to the left.
  have hstraddling : parity (fun e => straddles e.1 e.2 p.y) (edges vertices) = false :=
    parity_edges (fun v : Point K => decide (p.y < v.y)) vertices
  have hodd : parity (fun e => crosses e.1 e.2 p ^^ straddles e.1 e.2 p.y) (edges vertices) =
      true := by
    rw [parity_xor, hstraddling]
    exact (Bool.xor_false _).trans h
  obtain ⟨e', he', hleft⟩ := exists_of_parity hodd
  rw [crosses, Bool.and_eq_true, decide_eq_true_eq] at hcrosses
  have hleft' : straddles e'.1 e'.2 p.y = true ∧ crossing e'.1 e'.2 p.y ≤ p.x := by
    rw [crosses] at hleft
    cases hstraddles : straddles e'.1 e'.2 p.y with
    | false =>
        rw [hstraddles] at hleft
        cases hleft
    | true =>
        rw [hstraddles, Bool.true_and, Bool.xor_true, Bool.not_eq_true', decide_eq_false_iff_not,
          not_lt] at hleft
        exact ⟨rfl, hleft⟩
  exact ⟨_, _, ⟨e', he', crossing_onSegment hleft'.1⟩, ⟨e, he, crossing_onSegment hcrosses.1⟩,
    hleft'.2, hcrosses.2⟩

theorem normSq_le_of_inside {p : Point K} {bound : K}
    (hvertices : ∀ v ∈ vertices, normSq v ≤ bound) (h : inside vertices p = true) :
    normSq p ≤ bound := by
  have hborder : ∀ q, OnBorder vertices q → normSq q ≤ bound := by
    rintro q ⟨e, he, hq⟩
    obtain ⟨hfirst, hsecond⟩ := mem_edges he
    exact normSq_le_of_onSegment (hvertices _ hfirst) (hvertices _ hsecond) hq
  obtain ⟨left, right, hleft, hright, hle, hlt⟩ := exists_border_around h
  have hleft' := hborder _ hleft
  have hright' := hborder _ hright
  rw [normSq] at hleft' hright' ⊢
  dsimp only at hleft' hright'
  rcases le_total 0 p.x with hnonneg | hnonpos
  · have hsq := sq_le_of_mem_uIcc (Set.mem_uIcc_of_le hnonneg hlt.le)
    linarith
  · have hsq := sq_le_of_mem_uIcc (Set.mem_uIcc_of_ge hle hnonpos)
    linarith

end Paths

end Crossings

end EasyNav.Polygons
