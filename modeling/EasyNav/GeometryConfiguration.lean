import EasyNav.RobotGeometries
import Mathlib.Data.Finset.Insert

namespace EasyNav.GeometryConfiguration

open EasyNav.ExtendedArithmetic
open EasyNav.ExtendedArithmetic.Extended
open EasyNav.Polygons
open EasyNav.RobotGeometries

universe u

/-- The robot's shape; no footprint is a circle of its radius. -/
structure RobotGeometry (K : Type u) where
  radius : Extended K
  inscribedRadius : Extended K
  height : Extended K
  footprint : List (FootprintPoint K)

/-- The parameters of the system node that its check reads, and the names it got overrides
for. -/
structure SystemParameters (K : Type u) where
  rtFreq : Extended K
  freq : Extended K
  spinTimeRt : Extended K
  spinTimeNort : Extended K
  radius : Extended K
  inscribedRadius : Extended K
  height : Extended K
  footprint : List (Extended K)
  overrides : List String

section Check

variable {K : Type u} [Field K] [LinearOrder K] (toText : Extended K → String)

/-- The error about a parameter, if it is not a valid finite number. -/
def check (name : String) (value : Extended K) (valid : Bool) (expected : String) :
    List String :=
  if !value.isFinite || !valid then [name ++ " = " ++ toText value ++ " (" ++ expected ++ ")"]
  else []

def checkFootprint (footprint : List (Extended K)) : List String :=
  if !footprint.all isFinite || footprint.length % 2 != 0 ||
      (!footprint.isEmpty && decide (footprint.length < 6)) then
    ["robot_geometry.footprint (" ++ toString footprint.length ++
      " values: empty, or x, y of 3 or more vertices)"]
  else []

/-- The errors that `SystemNode` reports; it configures only without any. -/
def checkSystemParameters (params : SystemParameters K) : List String :=
  check toText "rt_freq" params.rtFreq (decide (0 < params.rtFreq)) "> 0" ++
    check toText "freq" params.freq (decide (0 < params.freq)) "> 0" ++
    check toText "spin_time_rt" params.spinTimeRt (decide (0 ≤ params.spinTimeRt)) ">= 0" ++
    check toText "spin_time_nort" params.spinTimeNort (decide (0 ≤ params.spinTimeNort)) ">= 0" ++
    check toText "robot_geometry.radius" params.radius (decide (0 ≤ params.radius)) ">= 0" ++
    check toText "robot_geometry.inscribed_radius" params.inscribedRadius
      (decide (0 ≤ params.inscribedRadius)) ">= 0" ++
    check toText "robot_geometry.height" params.height (decide (0 ≤ params.height)) ">= 0" ++
    checkFootprint params.footprint

end Check

section Configuration

variable {K : Type u} [Field K] [LinearOrder K] (hypot : K → K → K)

def defaults : RobotGeometry K where
  radius := .fin (3 / 10)
  inscribedRadius := .fin (3 / 10)
  height := .fin (1 / 2)
  footprint := []

def defaultParameters : SystemParameters K where
  rtFreq := .fin 200
  freq := .fin 200
  spinTimeRt := .fin (1 / 1000)
  spinTimeNort := .fin (1 / 1000)
  radius := (defaults : RobotGeometry K).radius
  inscribedRadius := (defaults : RobotGeometry K).inscribedRadius
  height := (defaults : RobotGeometry K).height
  footprint := []
  overrides := []

/-- The vertices among `[x1, y1, x2, y2, ...]`. -/
def points : List (Extended K) → List (FootprintPoint K)
  | .fin x :: .fin y :: footprint => ⟨x, y⟩ :: points footprint
  -- The check has turned these down.
  | _ :: _ :: footprint => points footprint
  | _ => []

/-- The geometry as the parameters have it. -/
def SystemParameters.geometry (params : SystemParameters K) : RobotGeometry K where
  radius := params.radius
  inscribedRadius := params.inscribedRadius
  height := params.height
  footprint := points params.footprint

/-- Explicitly configured: among the overrides, or changed at runtime. -/
def SystemParameters.isConfigured (params : SystemParameters K) (field : String)
    (member : RobotGeometry K → Extended K) : Bool :=
  params.overrides.contains ("robot_geometry." ++ field) ||
    !beqIeee (member params.geometry) (member defaults)

def fields : List (String × (RobotGeometry K → Extended K)) :=
  [("radius", RobotGeometry.radius), ("inscribed_radius", RobotGeometry.inscribedRadius),
    ("height", RobotGeometry.height)]

def configuredFields (params : SystemParameters K) : Finset String :=
  fields.foldl
    (fun configured (field, member) =>
      if params.isConfigured field member then insert field configured else configured) ∅

/-- The geometry that the registry gets, and its fields configured explicitly. -/
def configureRobotGeometry (params : SystemParameters K) : RobotGeometry K × Finset String :=
  let geometry := params.geometry
  let configured := configuredFields params
  if !geometry.footprint.isEmpty then
    let configured := insert "footprint" configured
    let geometry :=
      if "radius" ∈ configured then geometry
      else { geometry with radius := .fin (footprintRadius hypot geometry.footprint) }
    let geometry :=
      if "inscribed_radius" ∈ configured then geometry
      else { geometry with
        inscribedRadius := footprintInscribedRadius hypot geometry.footprint }
    (geometry, configured)
  else if "inscribed_radius" ∈ configured then (geometry, configured)
  else ({ geometry with inscribedRadius := geometry.radius }, configured)

end Configuration

section Acceptance

variable {K : Type u} {toText : Extended K → String}

theorem check_eq_nil {name expected : String} {value : Extended K} {valid : Bool} :
    check toText name value valid expected = [] ↔ value.isFinite = true ∧ valid = true := by
  rw [check]
  cases value.isFinite <;> cases valid <;> simp

theorem checkFootprint_eq_nil {footprint : List (Extended K)} :
    checkFootprint footprint = [] ↔
      (∀ value ∈ footprint, value.isFinite = true) ∧ footprint.length % 2 = 0 ∧
        (footprint ≠ [] → 6 ≤ footprint.length) := by
  rw [checkFootprint, ite_eq_right_iff]
  simp only [reduceCtorEq, imp_false, Bool.not_eq_true, Bool.or_eq_false_iff, Bool.not_eq_false',
    List.all_eq_true, bne_eq_false_iff_eq, Bool.and_eq_false_imp, Bool.not_eq_true',
    decide_eq_false_iff_not, not_lt, List.isEmpty_eq_false_iff, and_assoc]

/-- No vertex of an accepted footprint is left out. -/
theorem two_mul_length_points {footprint : List (Extended K)}
    (hfinite : ∀ value ∈ footprint, value.isFinite = true) (heven : footprint.length % 2 = 0) :
    2 * (points footprint).length = footprint.length := by
  induction footprint using points.induct with
  | case1 x y footprint ih =>
      simp only [List.length_cons] at heven
      have hrest := ih (fun value hv => hfinite value (by simp [hv])) (by omega)
      rw [points, List.length_cons, List.length_cons, List.length_cons]
      omega
  | case2 a b footprint hnot ih =>
      obtain ⟨x, rfl⟩ := isFinite_iff.mp (hfinite a (by simp))
      obtain ⟨y, rfl⟩ := isFinite_iff.mp (hfinite b (by simp))
      exact absurd rfl (hnot x y rfl)
  | case3 footprint h₁ h₂ =>
      match footprint, h₂ with
      | [], _ => rfl
      | [a], _ => simp at heven
      | a :: b :: rest, h₂ => exact absurd rfl (h₂ a b rest)

variable [Field K] [LinearOrder K]

theorem geometry_of_accepted {params : SystemParameters K}
    (h : checkSystemParameters toText params = []) :
    (∃ r, params.radius = .fin r ∧ 0 ≤ r) ∧ (∃ r, params.inscribedRadius = .fin r ∧ 0 ≤ r) ∧
      (params.footprint ≠ [] → points params.footprint ≠ []) := by
  simp only [checkSystemParameters, List.append_eq_nil_iff, check_eq_nil, decide_eq_true_eq,
    checkFootprint_eq_nil, and_assoc] at h
  obtain ⟨-, -, -, -, -, -, -, -, hr, hradius, hi, hinscribed, -, -, hfinite, heven, -⟩ := h
  obtain ⟨r, hr⟩ := isFinite_iff.mp hr
  obtain ⟨i, hi⟩ := isFinite_iff.mp hi
  rw [hr, zero_def, fin_le_fin] at hradius
  rw [hi, zero_def, fin_le_fin] at hinscribed
  refine ⟨⟨r, hr, hradius⟩, ⟨i, hi, hinscribed⟩, fun hne hnil => hne ?_⟩
  have hlength := two_mul_length_points hfinite heven
  rw [hnil, List.length_nil] at hlength
  exact List.length_eq_zero_iff.mp (by omega)

end Acceptance

section Published

variable {K : Type u} [Field K] [LinearOrder K] {hypot : K → K → K} {params : SystemParameters K}

theorem mem_configuredFields_radius :
    "radius" ∈ configuredFields params ↔
      params.isConfigured "radius" RobotGeometry.radius = true := by
  simp only [configuredFields, fields, List.foldl]
  split_ifs <;> simp_all

theorem mem_configuredFields_inscribedRadius :
    "inscribed_radius" ∈ configuredFields params ↔
      params.isConfigured "inscribed_radius" RobotGeometry.inscribedRadius = true := by
  simp only [configuredFields, fields, List.foldl]
  split_ifs <;> simp_all

/-- The radius is the one given, else the one of the footprint. -/
def publishedRadius (hypot : K → K → K) (params : SystemParameters K) : Extended K :=
  if params.isConfigured "radius" RobotGeometry.radius || (points params.footprint).isEmpty
  then params.radius
  else .fin (footprintRadius hypot (points params.footprint))

/-- The inscribed radius is the one given, else that of the robot's shape. -/
def publishedInscribedRadius (hypot : K → K → K) (params : SystemParameters K) : Extended K :=
  if params.isConfigured "inscribed_radius" RobotGeometry.inscribedRadius
  then params.inscribedRadius
  else if (points params.footprint).isEmpty then publishedRadius hypot params
  else footprintInscribedRadius hypot (points params.footprint)

theorem configureRobotGeometry_eq :
    (configureRobotGeometry hypot params).1 =
      { params.geometry with
        radius := publishedRadius hypot params
        inscribedRadius := publishedInscribedRadius hypot params } := by
  rw [publishedInscribedRadius, publishedRadius, configureRobotGeometry]
  simp only [SystemParameters.geometry, Finset.mem_insert, mem_configuredFields_radius,
    mem_configuredFields_inscribedRadius, String.reduceEq, false_or]
  cases (points params.footprint).isEmpty <;>
    cases params.isConfigured "radius" RobotGeometry.radius <;>
    cases params.isConfigured "inscribed_radius" RobotGeometry.inscribedRadius <;> rfl

end Published

section Coherence

variable {K : Type u} [Field K] [LinearOrder K] (hypot : K → K → K) (params : SystemParameters K)

/-- The radius is not given smaller than the footprint requires. -/
def RadiusCovers : Prop :=
  params.isConfigured "radius" RobotGeometry.radius = true →
    .fin (footprintRadius hypot (points params.footprint)) ≤ params.radius

/-- The inscribed radius is not given larger than the radius. -/
def InscribedCovered : Prop :=
  params.isConfigured "inscribed_radius" RobotGeometry.inscribedRadius = true →
    params.inscribedRadius ≤ publishedRadius hypot params

/-- The inscribed radius is not given larger than what fits in the footprint. -/
def InscribedFits : Prop :=
  params.isConfigured "inscribed_radius" RobotGeometry.inscribedRadius = true →
    params.inscribedRadius ≤ footprintInscribedRadius hypot (points params.footprint)

variable {hypot} {params}

theorem publishedInscribedRadius_of_given
    (h : params.isConfigured "inscribed_radius" RobotGeometry.inscribedRadius = true) :
    publishedInscribedRadius hypot params = params.inscribedRadius := by
  rw [publishedInscribedRadius, if_pos h]

theorem publishedInscribedRadius_of_footprint
    (h : ¬ params.isConfigured "inscribed_radius" RobotGeometry.inscribedRadius = true)
    (hfootprint : points params.footprint ≠ []) :
    publishedInscribedRadius hypot params =
      footprintInscribedRadius hypot (points params.footprint) := by
  rw [publishedInscribedRadius, if_neg h, if_neg (by simpa using hfootprint)]

theorem footprintRadius_le_publishedRadius (h : RadiusCovers hypot params)
    (hfootprint : points params.footprint ≠ []) :
    .fin (footprintRadius hypot (points params.footprint)) ≤ publishedRadius hypot params := by
  rw [publishedRadius]
  split
  · rename_i hgiven
    rw [Bool.or_eq_true, List.isEmpty_iff, or_iff_left hfootprint] at hgiven
    exact h hgiven
  · exact fin_le_fin.mpr le_rfl

theorem exists_publishedRadius {toText : Extended K → String}
    (haccepted : checkSystemParameters toText params = []) :
    ∃ r, publishedRadius hypot params = .fin r ∧ 0 ≤ r := by
  rw [publishedRadius]
  split
  · exact (geometry_of_accepted haccepted).1
  · exact ⟨_, rfl, footprintRadius_nonneg _⟩

variable [IsStrictOrderedRing K] {toText : Extended K → String}

theorem publishedInscribedRadius_nonneg (hhypot : IsHypot hypot)
    (haccepted : checkSystemParameters toText params = []) :
    0 ≤ publishedInscribedRadius hypot params := by
  have hexists : ∃ r, publishedInscribedRadius hypot params = .fin r ∧ 0 ≤ r := by
    rw [publishedInscribedRadius]
    split_ifs
    · exact (geometry_of_accepted haccepted).2.1
    · exact exists_publishedRadius haccepted
    · obtain ⟨r, hr, hnonneg, -⟩ :=
        exists_footprintInscribedRadius hhypot (points params.footprint)
      exact ⟨r, hr, hnonneg⟩
  obtain ⟨r, hr, hnonneg⟩ := hexists
  rw [hr, zero_def]
  exact fin_le_fin.mpr hnonneg

/-- A radius that covers the footprint is at least an inscribed radius not given. -/
theorem publishedInscribedRadius_le_of_not_given (hhypot : IsHypot hypot)
    (haccepted : checkSystemParameters toText params = []) (hcovers : RadiusCovers hypot params)
    (hgiven : ¬ params.isConfigured "inscribed_radius" RobotGeometry.inscribedRadius = true) :
    publishedInscribedRadius hypot params ≤ publishedRadius hypot params := by
  obtain ⟨radius, hradius, -⟩ := exists_publishedRadius haccepted
  by_cases hfootprint : points params.footprint = []
  · rw [publishedInscribedRadius, if_neg hgiven, if_pos (List.isEmpty_iff.mpr hfootprint), hradius]
    exact fin_le_fin.mpr le_rfl
  · have hle := footprintRadius_le_publishedRadius hcovers hfootprint
    obtain ⟨r, hr, -, hbound⟩ := exists_footprintInscribedRadius hhypot (points params.footprint)
    rw [publishedInscribedRadius_of_footprint hgiven hfootprint, hr]
    rw [hradius, fin_le_fin] at hle ⊢
    exact hbound.trans hle

theorem publishedInscribedRadius_le_iff (hhypot : IsHypot hypot)
    (haccepted : checkSystemParameters toText params = [])
    (hcovers : RadiusCovers hypot params) :
    publishedInscribedRadius hypot params ≤ publishedRadius hypot params ↔
      InscribedCovered hypot params := by
  by_cases hgiven : params.isConfigured "inscribed_radius" RobotGeometry.inscribedRadius = true
  · rw [publishedInscribedRadius_of_given hgiven]
    exact ⟨fun h _ => h, fun h => h hgiven⟩
  · exact ⟨fun _ h => absurd h hgiven,
      fun _ => publishedInscribedRadius_le_of_not_given hhypot haccepted hcovers hgiven⟩

/-- An inscribed radius that fits in the footprint is at most that of the footprint. -/
theorem publishedInscribedRadius_le_footprint (hhypot : IsHypot hypot)
    (hfootprint : points params.footprint ≠ []) (hfits : InscribedFits hypot params) :
    publishedInscribedRadius hypot params ≤
      footprintInscribedRadius hypot (points params.footprint) := by
  by_cases hgiven : params.isConfigured "inscribed_radius" RobotGeometry.inscribedRadius = true
  · rw [publishedInscribedRadius_of_given hgiven]
    exact hfits hgiven
  · obtain ⟨r, hr, -⟩ := exists_footprintInscribedRadius hhypot (points params.footprint)
    rw [publishedInscribedRadius_of_footprint hgiven hfootprint, hr]
    exact fin_le_fin.mpr le_rfl

theorem contains_of_lt_publishedInscribedRadius (hhypot : IsHypot hypot)
    (hfootprint : points params.footprint ≠ []) (hfits : InscribedFits hypot params) {x y : K}
    (h : .fin (hypot x y) < publishedInscribedRadius hypot params) :
    footprintContains (points params.footprint) x y = true := by
  refine footprintContains_of_lt hhypot ?_
  have hle := publishedInscribedRadius_le_footprint hhypot hfootprint hfits
  obtain ⟨r, hr, -⟩ := exists_footprintInscribedRadius hhypot (points params.footprint)
  rw [hr] at hle ⊢
  cases hpublished : publishedInscribedRadius hypot params with
  | fin s =>
      rw [hpublished] at h hle
      exact fin_lt_fin.mpr ((fin_lt_fin.mp h).trans_le (fin_le_fin.mp hle))
  | nan => exact absurd (hpublished ▸ h) (not_lt_nan _)
  | negInf => exact absurd (hpublished ▸ h) (not_lt_negInf _)
  | posInf =>
      rw [hpublished] at hle
      cases hle

theorem defaultParameters_accepted :
    checkSystemParameters toText (defaultParameters : SystemParameters K) = [] := by
  simp [checkSystemParameters, check_eq_nil, checkFootprint_eq_nil, defaultParameters, defaults,
    zero_def]
  positivity

end Coherence

/-- The inscribed radius of an accepted geometry is not negative. Where the radius is not given
smaller than the footprint requires, it is within the radius unless it is given larger; and
every point closer than it is inside the footprint unless it is given larger than what fits. -/
theorem accepted_geometry_coherent (toText : Extended ℝ → String) (params : SystemParameters ℝ)
    (haccepted : checkSystemParameters toText params = []) :
    let geometry := (configureRobotGeometry realHypot params).1
    (0 ≤ geometry.inscribedRadius) ∧
      (RadiusCovers realHypot params →
        (geometry.inscribedRadius ≤ geometry.radius ↔ InscribedCovered realHypot params)) ∧
      (params.footprint ≠ [] → InscribedFits realHypot params →
        ∀ x y : ℝ, (.fin (realHypot x y) < geometry.inscribedRadius) →
          footprintContains geometry.footprint x y = true) := by
  intro geometry
  have heq : geometry = _ := configureRobotGeometry_eq
  rw [heq]
  refine ⟨publishedInscribedRadius_nonneg realHypot_isHypot haccepted,
    publishedInscribedRadius_le_iff realHypot_isHypot haccepted, fun hne hfits x y h => ?_⟩
  have hfootprint := (geometry_of_accepted haccepted).2.2 hne
  exact contains_of_lt_publishedInscribedRadius realHypot_isHypot hfootprint hfits h

/-- A robot with the square as its footprint, and nothing else given. -/
def squareRobot {K : Type u} [Field K] : SystemParameters K :=
  { defaultParameters with
    footprint := [.fin 1, .fin 1, .fin (-1), .fin 1, .fin (-1), .fin (-1), .fin 1, .fin (-1)]
    overrides := ["robot_geometry.footprint"] }

theorem squareRobot_not_given :
    (squareRobot : SystemParameters ℝ).isConfigured "radius" RobotGeometry.radius = false ∧
      (squareRobot : SystemParameters ℝ).isConfigured "inscribed_radius"
        RobotGeometry.inscribedRadius = false := by
  simp [SystemParameters.isConfigured, SystemParameters.geometry, squareRobot, defaultParameters,
    defaults, beqIeee]

theorem accepted_geometry_coherent_square :
    (0 ≤ (configureRobotGeometry realHypot squareRobot).1.inscribedRadius) ∧
      ((configureRobotGeometry realHypot squareRobot).1.inscribedRadius ≤
        (configureRobotGeometry realHypot squareRobot).1.radius) ∧
      footprintContains (configureRobotGeometry realHypot squareRobot).1.footprint (1 / 2) 0 =
        true := by
  obtain ⟨hradius, hinscribed⟩ := squareRobot_not_given
  obtain ⟨hnonneg, hle, hcontains⟩ :=
    accepted_geometry_coherent (fun _ => "") squareRobot (by
      simp [checkSystemParameters, check_eq_nil, checkFootprint_eq_nil, squareRobot,
        defaultParameters, defaults, zero_def]
      norm_num)
  have hpoints : points (squareRobot : SystemParameters ℝ).footprint = square := rfl
  have hnot : ∀ {P : Prop}, (false = true) → P := fun h => absurd h Bool.false_ne_true
  refine ⟨hnonneg, (hle fun h => hnot (hradius ▸ h)).mpr fun h => hnot (hinscribed ▸ h),
    hcontains (List.cons_ne_nil _ _) (fun h => hnot (hinscribed ▸ h)) (1 / 2) 0 ?_⟩
  rw [configureRobotGeometry_eq]
  change .fin _ < publishedInscribedRadius realHypot squareRobot
  rw [publishedInscribedRadius_of_footprint (fun h => hnot (hinscribed ▸ h))
    (hpoints ▸ List.cons_ne_nil _ _), hpoints, square_inscribedRadius, fin_lt_fin, realHypot,
    Real.sqrt_lt' one_pos]
  norm_num

section Margins

variable {K : Type u} [Field K]

def wideInscribed : SystemParameters K :=
  { defaultParameters with
    inscribedRadius := .fin 5
    overrides := ["robot_geometry.inscribed_radius"] }

def planningMargins : SystemParameters K :=
  { defaultParameters with
    radius := .fin (9 / 10)
    inscribedRadius := .fin (3 / 10)
    footprint := [.fin (2 / 5), .fin (1 / 4), .fin (-(2 / 5)), .fin (1 / 4), .fin (-(2 / 5)),
      .fin (-(1 / 4)), .fin (2 / 5), .fin (-(1 / 4))]
    overrides := ["robot_geometry.footprint", "robot_geometry.radius",
      "robot_geometry.inscribed_radius"] }

end Margins

theorem margins_accepted (toText : Extended ℝ → String) :
    checkSystemParameters toText (wideInscribed : SystemParameters ℝ) = [] ∧
      checkSystemParameters toText (planningMargins : SystemParameters ℝ) = [] := by
  constructor
  · simp [checkSystemParameters, check_eq_nil, checkFootprint_eq_nil, wideInscribed,
      defaultParameters, defaults, zero_def]
    norm_num
  · simp [checkSystemParameters, check_eq_nil, checkFootprint_eq_nil, planningMargins,
      defaultParameters, defaults, zero_def]
    norm_num

theorem wideInscribed_radii :
    RadiusCovers realHypot wideInscribed ∧
      ¬ publishedInscribedRadius realHypot wideInscribed ≤
        publishedRadius realHypot wideInscribed := by
  have hgiven : (wideInscribed : SystemParameters ℝ).isConfigured "inscribed_radius"
      RobotGeometry.inscribedRadius = true := by
    rw [SystemParameters.isConfigured, Bool.or_eq_true]
    exact Or.inl (by decide)
  have hdefault : ¬ (wideInscribed : SystemParameters ℝ).isConfigured "radius"
      RobotGeometry.radius = true := by
    simp [SystemParameters.isConfigured, SystemParameters.geometry, wideInscribed,
      defaultParameters, defaults, beqIeee]
  refine ⟨fun h => absurd h hdefault, ?_⟩
  rw [publishedInscribedRadius_of_given hgiven, publishedRadius]
  norm_num [points, wideInscribed, defaultParameters, defaults]

theorem planningMargins_radii :
    RadiusCovers realHypot planningMargins ∧
      (.fin (realHypot 0 (28 / 100)) < publishedInscribedRadius realHypot planningMargins) ∧
      footprintContains (points (planningMargins : SystemParameters ℝ).footprint) 0 (28 / 100) =
        false := by
  have hgiven : (planningMargins : SystemParameters ℝ).isConfigured "inscribed_radius"
      RobotGeometry.inscribedRadius = true := by
    rw [SystemParameters.isConfigured, Bool.or_eq_true]
    exact Or.inl (by decide)
  refine ⟨fun _ => ?_, ?_, ?_⟩
  · have hcorner : ∀ x y : ℝ, x ^ 2 = 4 / 25 → y ^ 2 = 1 / 16 → realHypot x y ≤ 9 / 10 := by
      intro x y hx hy
      rw [realHypot, Real.sqrt_le_left (by norm_num), hx, hy]
      norm_num
    simp only [footprintRadius, points, planningMargins, List.foldl, fin_le_fin, max_le_iff]
    refine ⟨⟨⟨⟨?_, hcorner _ _ ?_ ?_⟩, hcorner _ _ ?_ ?_⟩, hcorner _ _ ?_ ?_⟩,
      hcorner _ _ ?_ ?_⟩ <;> norm_num
  · rw [publishedInscribedRadius_of_given hgiven, planningMargins, fin_lt_fin, realHypot,
      Real.sqrt_lt' (by norm_num)]
    norm_num
  · norm_num [points, planningMargins, footprintContains, edges, edgesFrom]

/-- Radii given explicitly are published as they are, as planning margins. -/
theorem given_radii_not_coherent :
    (∀ toText, checkSystemParameters toText (wideInscribed : SystemParameters ℝ) = [] ∧
      checkSystemParameters toText (planningMargins : SystemParameters ℝ) = []) ∧
    (RadiusCovers realHypot wideInscribed ∧
      ¬ (configureRobotGeometry realHypot wideInscribed).1.inscribedRadius ≤
        (configureRobotGeometry realHypot wideInscribed).1.radius) ∧
    RadiusCovers realHypot planningMargins ∧
      (.fin (realHypot 0 (28 / 100)) <
        (configureRobotGeometry realHypot planningMargins).1.inscribedRadius) ∧
      footprintContains (configureRobotGeometry realHypot planningMargins).1.footprint 0
        (28 / 100) = false := by
  rw [configureRobotGeometry_eq, configureRobotGeometry_eq]
  exact ⟨margins_accepted, wideInscribed_radii, planningMargins_radii⟩

end EasyNav.GeometryConfiguration
