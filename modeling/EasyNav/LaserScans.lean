import EasyNav.MachineNumbers
import EasyNav.VoxelGrids

namespace EasyNav.LaserScans

open EasyNav.ExtendedArithmetic
open EasyNav.ExtendedArithmetic.Extended
open EasyNav.DoubleArithmetic
open EasyNav.MachineNumbers
open EasyNav.FirstOccurrences
open EasyNav.PointPerceptions
open EasyNav.PointViews
open EasyNav.PointViews.Slot
open EasyNav.VoxelGrids

universe u

/-- Its angles and ranges are of the type `F` of coordinates. -/
structure LaserScan (F : Type u) where
  angleMin : F
  angleIncrement : F
  rangeMin : F
  rangeMax : F
  ranges : List F

/-- A `float` can be zero, and not a number. -/
structure IsFloat {F : Type u} (c : Conversions F) : Prop where
  zero : c.toDouble (c.toFloat 0) = 0
  nan : c.toDouble (c.toFloat .nan) = .nan

section Converting

variable {F : Type u} (c : Conversions F) (cos sin : F → F)

/-- Products and sums are rounded to `float`. -/
def mul (x y : F) : F := c.toFloat (c.toDouble x * c.toDouble y)

def add (x y : F) : F := c.toFloat (c.toDouble x + c.toDouble y)

namespace LaserScan

variable (scan : LaserScan F)

def isInvalid (range : F) : Bool :=
  !(c.toDouble range).isFinite || decide (c.toDouble range < c.toDouble scan.rangeMin) ||
    decide (c.toDouble scan.rangeMax < c.toDouble range)

def angle (i : Nat) : F :=
  add c scan.angleMin (mul c (c.toFloat (.fin i)) scan.angleIncrement)

def point (i : Nat) (range : F) : Point F :=
  if scan.isInvalid c range then ⟨c.toFloat .nan, c.toFloat .nan, c.toFloat .nan⟩
  else
    { x := mul c range (cos (scan.angle c i))
      y := mul c range (sin (scan.angle c i))
      z := c.toFloat 0 }

def convert : Cloud F := scan.ranges.mapIdx (scan.point c cos sin)

end LaserScan

/-- The values whose floors the loop of `downsample` converts to `int`, in their order. -/
def slotConversions (slot : Slot F) (collapseTo : Collapse F) (invRes : Double) : List Double :=
  if slot.cloud.isEmpty || decide (slot.indices.length ≤ 1) then []
  else
    slot.indices.flatMap fun i =>
      match slot.cloud[i]? with
      | none => []
      | some point =>
          [rounded (c.toDouble point.x * invRes), rounded (c.toDouble point.y * invRes),
            rounded (c.toDouble (collapseTo.z.getD point.z) * invRes)]

def conversions (view : PointPerceptionsOpsView F) (resolution : Double) : List Double :=
  if resolution ≤ 0 then []
  else
    view.slots.flatMap fun slot =>
      slotConversions c slot view.collapseTo (rounded (.fin 1 / resolution))

/-- The loop of `downsample` for a resolution, with what it computes rounded. -/
def roundedDownsample (view : PointPerceptionsOpsView F) (resolution : Double) :
    PointPerceptionsOpsView F :=
  if resolution ≤ 0 then view
  else
    { view with
      slots := view.slots.map fun slot =>
        slot.downsample { c with floorToInt := fun x => c.floorToInt (rounded x) }
          view.collapseTo (rounded (.fin 1 / resolution)) }

end Converting

/-- The floor of this value is an `int`. -/
def Representable (x : Double) : Prop := ∃ q, x = .fin q ∧ (toInt q).isSome

def IsDefined {F : Type u} (c : Conversions F) (view : PointPerceptionsOpsView F)
    (resolution : Double) : Prop :=
  ∀ x ∈ conversions c view resolution, Representable x

/-- A coordinate that is finite and, for a resolution whose inverse is finite as well, less than
so many voxels away. -/
def WithinReach (resolution x : Double) : Prop :=
  ∃ q inverse, x = .fin q ∧ rounded (.fin 1 / resolution) = .fin inverse ∧
    -(2 ^ 31 + 1 / 2 ^ 22) ≤ q * inverse ∧ q * inverse < 2 ^ 31 - 1 / 2 ^ 23

/-- The coordinates of a point that decide on its voxel are within reach. -/
structure PointWithinReach {F : Type u} (c : Conversions F) (collapseTo : Collapse F)
    (resolution : Double) (point : Point F) : Prop where
  x : WithinReach resolution (c.toDouble point.x)
  y : WithinReach resolution (c.toDouble point.y)
  z : WithinReach resolution (c.toDouble (collapseTo.z.getD point.z))

section Reach

variable {F : Type u} {c : Conversions F} {collapseTo : Collapse F} {resolution : Double}

theorem toInt_isSome_iff {q : ℚ} :
    (toInt q).isSome ↔ -2147483648 ≤ q ∧ q < 2147483648 := by
  have hlow : -2147483648 ≤ ⌊q⌋ ↔ -2147483648 ≤ q := by
    rw [Int.le_floor]
    norm_num
  have hhigh : ⌊q⌋ ≤ 2147483647 ↔ q < 2147483648 := by
    rw [← Int.lt_add_one_iff, Int.floor_lt]
    norm_num
  rw [toInt, ← hlow, ← hhigh]
  split
  · rename_i hfits
    exact iff_of_true rfl hfits
  · rename_i hnot
    exact iff_of_false (by simp) hnot

theorem infOfSign_isFinite (x : ℚ) : (infOfSign x).isFinite = false := by
  rw [infOfSign]
  split
  · rfl
  · split <;> rfl

theorem mul_fin_isFinite {x : Double} (hx : x.isFinite = false) (y : ℚ) :
    (x * .fin y).isFinite = false := by
  cases x with
  | fin x => cases hx
  | nan => rfl
  | posInf => exact infOfSign_isFinite y
  | negInf => exact infOfSign_isFinite (-y)

theorem mul_posInf_isFinite (x : Double) : (x * posInf).isFinite = false := by
  cases x with
  | fin x => exact infOfSign_isFinite x
  | nan | posInf | negInf => rfl

theorem inverse_cases (hres : 0 < resolution) :
    rounded (.fin 1 / resolution) = .posInf ∨
      ∃ inverse, rounded (.fin 1 / resolution) = .fin inverse := by
  have hinverse : ∃ r : ℚ, 0 ≤ r ∧ .fin 1 / resolution = (.fin r : Double) := by
    cases resolution with
    | fin r =>
        rw [zero_def, fin_lt_fin] at hres
        exact ⟨1 / r, (one_div_pos.mpr hres).le, div_fin hres.ne'⟩
    | posInf => exact ⟨0, le_rfl, rfl⟩
    | negInf => exact absurd hres (not_lt_negInf _)
    | nan => exact absurd hres (not_lt_nan _)
  obtain ⟨r, hr, hinverse⟩ := hinverse
  rw [hinverse]
  rcases rounded_of_nonneg hr with ⟨hinf, -⟩ | ⟨hfin, -⟩
  · exact Or.inl hinf
  · exact Or.inr ⟨nearest r, hfin⟩

/-- A number is rounded to 2^31 from half a unit below it on. -/
theorem nearest_lt_iff {q : ℚ} (hq : 0 ≤ q) : nearest q < 2 ^ 31 ↔ q < 2 ^ 31 - 1 / 2 ^ 23 := by
  constructor
  · intro h
    by_contra hlarge
    have htie : nearest (2 ^ 31 - 1 / 2 ^ 23) = 2 ^ 31 := by decide +kernel
    have hmono := nearest_mono (by norm_num) (not_lt.mp hlarge)
    rw [htie] at hmono
    exact absurd h (not_lt.mpr hmono)
  · intro h
    have habs : |q| < 2 ^ (31 : Int) := by
      rw [abs_of_nonneg hq]
      norm_num at h ⊢
      linarith
    have hupper := (abs_le.mp (nearest_error_of_lt (by decide) habs)).2
    norm_num at h hupper ⊢
    linarith

theorem nearest_le_iff {q : ℚ} (hq : 0 ≤ q) : nearest q ≤ 2 ^ 31 ↔ q ≤ 2 ^ 31 + 1 / 2 ^ 22 := by
  constructor
  · intro h
    rcases lt_or_ge q (2 ^ (32 : Int)) with hsmall | hlarge
    · have hlower := (abs_le.mp (nearest_error_of_lt (by decide)
        ((abs_of_nonneg hq).trans_lt hsmall))).1
      norm_num at h hlower ⊢
      linarith
    · have hkept : nearest (2 ^ (32 : Int)) = 2 ^ (32 : Int) := by decide +kernel
      have hmono := nearest_mono (by norm_num) hlarge
      rw [hkept] at hmono
      norm_num at h hmono
      linarith
  · intro h
    have htie : nearest (2 ^ 31 + 1 / 2 ^ 22) = 2 ^ 31 := by decide +kernel
    rw [← htie]
    exact nearest_mono hq h

theorem representable_fin_iff {q : ℚ} :
    Representable (.fin q) ↔ -2 ^ 31 ≤ q ∧ q < 2 ^ 31 := by
  have hfits := toInt_isSome_iff (q := q)
  norm_num at hfits ⊢
  rw [← hfits]
  constructor
  · rintro ⟨q', hq, hsome⟩
    rw [Extended.fin.inj hq]
    exact hsome
  · exact fun hsome => ⟨q, rfl, hsome⟩

theorem representable_rounded (q : ℚ) :
    Representable (rounded (.fin q)) ↔ -2 ^ 31 ≤ nearest q ∧ nearest q < 2 ^ 31 := by
  have hlarge : (2 : ℚ) ^ 31 < 2 ^ 1024 := pow_lt_pow_right₀ one_lt_two (by decide)
  rw [rounded]
  split
  · rename_i hinf
    exact iff_of_false (by rintro ⟨_, h, -⟩; cases h)
      fun h => (h.2.trans hlarge).not_ge hinf
  · split
    · rename_i hinf
      exact iff_of_false (by rintro ⟨_, h, -⟩; cases h)
        fun h => ((neg_lt_neg hlarge).trans_le h.1).not_ge hinf
    · exact representable_fin_iff

theorem representable_rounded_iff (q : ℚ) :
    Representable (rounded (.fin q)) ↔
      -(2 ^ 31 + 1 / 2 ^ 22) ≤ q ∧ q < 2 ^ 31 - 1 / 2 ^ 23 := by
  rw [representable_rounded]
  rcases le_total 0 q with hq | hq
  · rw [nearest_lt_iff hq]
    have hnonneg := nearest_nonneg hq
    exact and_congr_left fun _ => iff_of_true (by linarith) (by linarith)
  · have hneg := nearest_le_iff (neg_nonneg.mpr hq)
    have hnonneg := nearest_nonneg (neg_nonneg.mpr hq)
    rw [nearest_neg] at hneg hnonneg
    rw [neg_le, hneg, neg_le]
    exact and_congr_right fun _ => iff_of_true (by linarith) (by linarith)

theorem representable_iff (hres : 0 < resolution) (x : Double) :
    Representable (rounded (x * rounded (.fin 1 / resolution))) ↔ WithinReach resolution x := by
  rcases inverse_cases hres with hinf | ⟨inverse, hinverse⟩
  · rw [hinf]
    refine iff_of_false ?_ ?_
    · rintro ⟨q, hq, -⟩
      have hnone := rounded_isFinite (mul_posInf_isFinite x)
      rw [hq] at hnone
      cases hnone
    · rintro ⟨q, inverse, -, hinverse, -⟩
      rw [hinf] at hinverse
      cases hinverse
  · rw [hinverse]
    cases hx : x.isFinite with
    | true =>
        obtain ⟨q, rfl⟩ := isFinite_iff.mp hx
        rw [mul_fin, representable_rounded_iff]
        constructor
        · exact fun hreach => ⟨q, inverse, rfl, hinverse, hreach⟩
        · rintro ⟨q', inverse', hq, hinverse', hreach⟩
          rw [hinverse] at hinverse'
          rw [Extended.fin.inj hq, Extended.fin.inj hinverse']
          exact hreach
    | false =>
        refine iff_of_false ?_ ?_
        · rintro ⟨q, hq, -⟩
          have hnone := rounded_isFinite (mul_fin_isFinite hx inverse)
          rw [hq] at hnone
          cases hnone
        · rintro ⟨q, -, rfl, -⟩
          cases hx

end Reach

section Defined

variable {F : Type u} {c : Conversions F} {collapseTo : Collapse F} {resolution : Double}
  {slot : Slot F}

theorem point_iff (hres : 0 < resolution) (point : Point F) :
    (∀ x ∈ [rounded (c.toDouble point.x * rounded (.fin 1 / resolution)),
        rounded (c.toDouble point.y * rounded (.fin 1 / resolution)),
        rounded (c.toDouble (collapseTo.z.getD point.z) * rounded (.fin 1 / resolution))],
          Representable x) ↔
      PointWithinReach c collapseTo resolution point := by
  simp only [List.forall_mem_cons, representable_iff hres]
  constructor
  · rintro ⟨hx, hy, hz, -⟩
    exact ⟨hx, hy, hz⟩
  · rintro ⟨hx, hy, hz⟩
    exact ⟨hx, hy, hz, nofun⟩

/-- The conversions of a perception: those of its points, if the loop comes to them. -/
theorem slotConversions_iff (hres : 0 < resolution) :
    (∀ x ∈ slotConversions c slot collapseTo (rounded (.fin 1 / resolution)), Representable x) ↔
      slot.indices.length ≤ 1 ∨ ∀ i ∈ slot.indices, ∀ point, slot.cloud[i]? = some point →
        PointWithinReach c collapseTo resolution point := by
  rw [slotConversions]
  split
  · rename_i hskip
    rw [Bool.or_eq_true, List.isEmpty_iff, decide_eq_true_eq] at hskip
    refine iff_of_true nofun ?_
    rcases hskip with hempty | hshort
    · exact .inr fun i _ point hpoint => by simp [hempty] at hpoint
    · exact .inl hshort
  · rename_i hloop
    rw [Bool.or_eq_true, decide_eq_true_eq, not_or] at hloop
    rw [or_iff_right hloop.2, List.forall_mem_flatMap]
    refine forall₂_congr fun i _ => ?_
    cases slot.cloud[i]? with
    | none => simp
    | some point =>
        dsimp only
        rw [point_iff hres]
        simp

theorem isDefined_iff (hres : 0 < resolution) (view : PointPerceptionsOpsView F) :
    IsDefined c view resolution ↔ ∀ slot ∈ view.slots, slot.indices.length ≤ 1 ∨
      ∀ i ∈ slot.indices, ∀ point, slot.cloud[i]? = some point →
        PointWithinReach c view.collapseTo resolution point := by
  rw [IsDefined, conversions, if_neg (not_le_zero hres), List.forall_mem_flatMap]
  exact forall₂_congr fun slot _ => slotConversions_iff hres

end Defined

section Conversions

variable {F : Type u} {c : Conversions F}

theorem slot_downsample_congr (floorToInt : Double → Int) (slot : Slot F)
    (collapseTo : Collapse F) (invRes : Double)
    (h : ∀ x ∈ slotConversions c slot collapseTo invRes, c.floorToInt x = floorToInt x) :
    slot.downsample { c with floorToInt := fun x => c.floorToInt (rounded x) } collapseTo invRes =
      slot.downsample { c with floorToInt := fun x => floorToInt (rounded x) } collapseTo
        invRes := by
  rw [Slot.downsample, Slot.downsample]
  split
  · rfl
  · rename_i hloop
    rw [slotConversions, if_neg hloop, List.forall_mem_flatMap] at h
    rw [firstOfVoxels_eq, firstOfVoxels_eq]
    congr 1
    refine firsts_congr (fun i hi => ?_) []
    have hpoint := h i hi
    cases hcloud : slot.cloud[i]? with
    | none => rfl
    | some point =>
        rw [hcloud] at hpoint
        simp only [List.forall_mem_cons] at hpoint
        obtain ⟨hx, hy, hz, -⟩ := hpoint
        rw [Option.map_some, Option.map_some, voxelKey, hx, hy, hz]
        rfl

/-- The result depends on what the conversions listed give, and on no others. -/
theorem downsample_congr (floorToInt : Double → Int) (view : PointPerceptionsOpsView F)
    (resolution : Double)
    (h : ∀ x ∈ conversions c view resolution, c.floorToInt x = floorToInt x) :
    roundedDownsample c view resolution =
      roundedDownsample { c with floorToInt := floorToInt } view resolution := by
  rw [roundedDownsample, roundedDownsample]
  split
  · rfl
  · rename_i hres
    rw [conversions, if_neg hres, List.forall_mem_flatMap] at h
    congr 1
    exact List.map_congr_left fun slot hslot => slot_downsample_congr _ _ _ _ (h slot hslot)

end Conversions

section Scans

variable {F : Type u} {c : Conversions F} {cos sin : F → F} {resolution : Double}
  {scan : LaserScan F}

theorem withinReach_zero {x : Double} (h : WithinReach resolution x) :
    WithinReach resolution 0 := by
  obtain ⟨-, inverse, -, hinverse, -⟩ := h
  exact ⟨0, inverse, rfl, hinverse, by rw [zero_mul]; norm_num, by rw [zero_mul]; norm_num⟩

theorem point_withinReach_iff (hc : IsFloat c) (i : Nat) (range : F) :
    PointWithinReach c {} resolution (scan.point c cos sin i range) ↔
      scan.isInvalid c range = false ∧
        WithinReach resolution (c.toDouble (mul c range (cos (scan.angle c i)))) ∧
        WithinReach resolution (c.toDouble (mul c range (sin (scan.angle c i)))) := by
  rw [LaserScan.point]
  cases hinvalid : scan.isInvalid c range with
  | true =>
      rw [if_pos rfl]
      refine iff_of_false ?_ fun h => by cases h.1
      rintro ⟨⟨q, -, hq, -⟩, -, -⟩
      rw [hc.nan] at hq
      cases hq
  | false =>
      rw [if_neg Bool.false_ne_true]
      constructor
      · rintro ⟨hx, hy, -⟩
        exact ⟨rfl, hx, hy⟩
      · rintro ⟨-, hx, hy⟩
        refine ⟨hx, hy, ?_⟩
        rw [Option.getD_none, hc.zero]
        exact withinReach_zero hx

theorem convert_getElem? (i : Nat) :
    (scan.convert c cos sin)[i]? = scan.ranges[i]?.map (scan.point c cos sin i) :=
  List.getElem?_mapIdx

theorem scan_isDefined_iff (hc : IsFloat c) (hres : 0 < resolution) (owned : Bool)
    {p : PointPerception (Cloud F)} (hvalid : p.valid = true)
    (hdata : p.data = scan.convert c cos sin) :
    IsDefined c (.create owned [some p]) resolution ↔
      scan.ranges.length ≤ 1 ∨ ∀ i range, scan.ranges[i]? = some range →
        scan.isInvalid c range = false ∧
          WithinReach resolution (c.toDouble (mul c range (cos (scan.angle c i)))) ∧
          WithinReach resolution (c.toDouble (mul c range (sin (scan.angle c i)))) := by
  have hcloud : (Slot.create (some p)).cloud = scan.convert c cos sin := by
    change (if p.valid then p.data else []) = _
    rw [if_pos hvalid, hdata]
  have hlength : (scan.convert c cos sin).length = scan.ranges.length := List.length_mapIdx
  have hindices : (Slot.create (some p)).indices = List.range scan.ranges.length := by
    rw [← hlength, ← hcloud]
    rfl
  rw [isDefined_iff hres]
  change (∀ slot ∈ [Slot.create (some p)], _) ↔ _
  rw [List.forall_mem_singleton, hindices, hcloud, List.length_range]
  refine or_congr_right ⟨fun h i range hrange => ?_, fun h i _ point hpoint => ?_⟩
  · have hi := (List.getElem?_eq_some_iff.mp hrange).1
    have hpoint : (scan.convert c cos sin)[i]? = some (scan.point c cos sin i range) := by
      rw [convert_getElem?, hrange, Option.map_some]
    exact (point_withinReach_iff hc i range).mp (h i (List.mem_range.mpr hi) _ hpoint)
  · rw [convert_getElem?] at hpoint
    obtain ⟨range, hrange, rfl⟩ := Option.map_eq_some_iff.mp hpoint
    exact (point_withinReach_iff hc i range).mpr (h i range hrange)

end Scans

/-- All conversions of a downsampling are defined exactly when the selected points of each
perception that has more than one are within reach; those of a scan are where all its ranges
are valid. -/
theorem downsample_defined_iff {F : Type u} {c : Conversions F} (hc : IsFloat c) (cos sin : F → F)
    {resolution : Double} (hres : 0 < resolution) :
    (∀ view : PointPerceptionsOpsView F, IsDefined c view resolution ↔
        ∀ slot ∈ view.slots, slot.indices.length ≤ 1 ∨
          ∀ i ∈ slot.indices, ∀ point, slot.cloud[i]? = some point →
            PointWithinReach c view.collapseTo resolution point) ∧
      ∀ (scan : LaserScan F) (owned : Bool) (p : PointPerception (Cloud F)), p.valid = true →
        p.data = scan.convert c cos sin →
          (IsDefined c (.create owned [some p]) resolution ↔
            scan.ranges.length ≤ 1 ∨ ∀ i range, scan.ranges[i]? = some range →
              scan.isInvalid c range = false ∧
                WithinReach resolution (c.toDouble (mul c range (cos (scan.angle c i)))) ∧
                WithinReach resolution (c.toDouble (mul c range (sin (scan.angle c i))))) :=
  ⟨isDefined_iff hres, fun _ owned _ hvalid hdata => scan_isDefined_iff hc hres owned hvalid hdata⟩

def exampleScan (ranges : List Double) : LaserScan Double where
  angleMin := .fin 0
  angleIncrement := .fin 0
  rangeMin := .fin (1 / 10)
  rangeMax := .fin 30
  ranges := ranges

def scanPerception (ranges : List Double) : PointPerception (Cloud Double) :=
  { PointPerception.create [] with
    valid := true
    data := (exampleScan ranges).convert exactConversions (fun _ => .fin 1) (fun _ => .fin 0) }

theorem downsample_defined_iff_scan :
    IsDefined exactConversions (.create true [some (scanPerception [.fin 1, .fin 2])])
        (.fin (1 / 10)) ↔
      ∀ slot ∈ (PointPerceptionsOpsView.create true
          [some (scanPerception [.fin 1, .fin 2])]).slots,
        slot.indices.length ≤ 1 ∨ ∀ i ∈ slot.indices, ∀ point, slot.cloud[i]? = some point →
          PointWithinReach exactConversions {} (.fin (1 / 10)) point := by
  have hres : (0 : Double) < .fin (1 / 10) := by decide +kernel
  have hc : IsFloat exactConversions := ⟨rfl, rfl⟩
  exact (downsample_defined_iff hc (fun _ => .fin 1) (fun _ => .fin 0) hres).1 _

/-- A ray that hits nothing is kept as a point that is not a number, and its voxel is asked
for. -/
theorem downsample_undefined_for_scan :
    Extended.nan ∈ conversions exactConversions
        (.create true [some (scanPerception [.fin 1, .posInf])]) (.fin (1 / 10)) ∧
      ¬ IsDefined exactConversions (.create true [some (scanPerception [.fin 1, .posInf])])
        (.fin (1 / 10)) := by
  have hmem : Extended.nan ∈ conversions exactConversions
      (.create true [some (scanPerception [.fin 1, .posInf])]) (.fin (1 / 10)) := by
    decide +kernel
  refine ⟨hmem, fun hdefined => ?_⟩
  obtain ⟨q, hq, -⟩ := hdefined _ hmem
  cases hq

end EasyNav.LaserScans
