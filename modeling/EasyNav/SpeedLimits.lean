import EasyNav.DoubleArithmetic

namespace EasyNav.SpeedLimits

open EasyNav.ExtendedArithmetic
open EasyNav.ExtendedArithmetic.Extended
open EasyNav.DoubleArithmetic

/-- Velocity and acceleration limits, with the defaults of the source. -/
structure RobotLimits where
  maxLinearVel : Double := .fin (1 / 2)
  minLinearVel : Double := .fin (-1 / 5)
  maxAngularVel : Double := .fin 1
  maxLinearAcc : Double := .fin (1 / 2)
  maxLinearDecel : Double := .fin 1
  maxAngularAcc : Double := .fin 1
  maxAngularDecel : Double := .fin 2
  maxLateralVel : Double := .fin (1 / 2)
  maxLateralAcc : Double := .fin (1 / 2)
  maxLateralDecel : Double := .fin 1
  maxVerticalVel : Double := .fin 0
  maxVerticalAcc : Double := .fin (1 / 2)
  maxVerticalDecel : Double := .fin 1
  minTurningRadius : Double := .fin 0
  deriving DecidableEq

/-- The lateral limits that are not configured take the linear ones. -/
def defaultLateralLimits (limits : RobotLimits) (configured : String → Bool) : RobotLimits :=
  { limits with
    maxLateralVel :=
      if configured "max_lateral_vel" then limits.maxLateralVel else limits.maxLinearVel
    maxLateralAcc :=
      if configured "max_lateral_acc" then limits.maxLateralAcc else limits.maxLinearAcc
    maxLateralDecel :=
      if configured "max_lateral_decel" then limits.maxLateralDecel
      else limits.maxLinearDecel }

theorem defaultLateralLimits_idem (limits : RobotLimits) (configured : String → Bool) :
    defaultLateralLimits (defaultLateralLimits limits configured) configured =
      defaultLateralLimits limits configured := by
  unfold defaultLateralLimits
  congr 1 <;> split <;> rfl

/-- One line of the table checked by `invalidRobotLimits`. -/
structure LimitCheck where
  name : String
  value : Double
  valid : Bool

def limitChecks (limits : RobotLimits) : List LimitCheck :=
  [⟨"max_linear_vel", limits.maxLinearVel, decide (0 ≤ limits.maxLinearVel)⟩,
    ⟨"min_linear_vel", limits.minLinearVel, decide (limits.minLinearVel ≤ 0)⟩,
    ⟨"max_angular_vel", limits.maxAngularVel, decide (0 ≤ limits.maxAngularVel)⟩,
    ⟨"max_linear_acc", limits.maxLinearAcc, decide (0 < limits.maxLinearAcc)⟩,
    ⟨"max_linear_decel", limits.maxLinearDecel, decide (0 < limits.maxLinearDecel)⟩,
    ⟨"max_angular_acc", limits.maxAngularAcc, decide (0 < limits.maxAngularAcc)⟩,
    ⟨"max_angular_decel", limits.maxAngularDecel, decide (0 < limits.maxAngularDecel)⟩,
    ⟨"max_lateral_vel", limits.maxLateralVel, decide (0 ≤ limits.maxLateralVel)⟩,
    ⟨"max_lateral_acc", limits.maxLateralAcc, decide (0 < limits.maxLateralAcc)⟩,
    ⟨"max_lateral_decel", limits.maxLateralDecel, decide (0 < limits.maxLateralDecel)⟩,
    ⟨"max_vertical_vel", limits.maxVerticalVel, decide (0 ≤ limits.maxVerticalVel)⟩,
    ⟨"max_vertical_acc", limits.maxVerticalAcc, decide (0 < limits.maxVerticalAcc)⟩,
    ⟨"max_vertical_decel", limits.maxVerticalDecel, decide (0 < limits.maxVerticalDecel)⟩,
    ⟨"min_turning_radius", limits.minTurningRadius, decide (0 ≤ limits.minTurningRadius)⟩]

def LimitCheck.fails (check : LimitCheck) : Bool := !check.value.isFinite || !check.valid

def LimitCheck.message (check : LimitCheck) : String :=
  "robot_limits." ++ check.name ++ " = " ++ stdToString check.value ++
    " (velocities: max >= 0, min <= 0; accelerations > 0; radius >= 0)"

def invalidRobotLimits (limits : RobotLimits) : String :=
  match (limitChecks limits).find? LimitCheck.fails with
  | some check => check.message
  | none => ""

/-- Limits in exact arithmetic that carry their own ranges. -/
structure ExactLimits where
  maxLinearVel : ℚ
  minLinearVel : ℚ
  maxAngularVel : ℚ
  maxLinearAcc : ℚ
  maxLinearDecel : ℚ
  maxAngularAcc : ℚ
  maxAngularDecel : ℚ
  maxLateralVel : ℚ
  maxLateralAcc : ℚ
  maxLateralDecel : ℚ
  maxVerticalVel : ℚ
  maxVerticalAcc : ℚ
  maxVerticalDecel : ℚ
  minTurningRadius : ℚ
  maxLinearVel_nonneg : 0 ≤ maxLinearVel
  minLinearVel_nonpos : minLinearVel ≤ 0
  maxAngularVel_nonneg : 0 ≤ maxAngularVel
  maxLinearAcc_pos : 0 < maxLinearAcc
  maxLinearDecel_pos : 0 < maxLinearDecel
  maxAngularAcc_pos : 0 < maxAngularAcc
  maxAngularDecel_pos : 0 < maxAngularDecel
  maxLateralVel_nonneg : 0 ≤ maxLateralVel
  maxLateralAcc_pos : 0 < maxLateralAcc
  maxLateralDecel_pos : 0 < maxLateralDecel
  maxVerticalVel_nonneg : 0 ≤ maxVerticalVel
  maxVerticalAcc_pos : 0 < maxVerticalAcc
  maxVerticalDecel_pos : 0 < maxVerticalDecel
  minTurningRadius_nonneg : 0 ≤ minTurningRadius

def ExactLimits.toRobotLimits (e : ExactLimits) : RobotLimits where
  maxLinearVel := .fin e.maxLinearVel
  minLinearVel := .fin e.minLinearVel
  maxAngularVel := .fin e.maxAngularVel
  maxLinearAcc := .fin e.maxLinearAcc
  maxLinearDecel := .fin e.maxLinearDecel
  maxAngularAcc := .fin e.maxAngularAcc
  maxAngularDecel := .fin e.maxAngularDecel
  maxLateralVel := .fin e.maxLateralVel
  maxLateralAcc := .fin e.maxLateralAcc
  maxLateralDecel := .fin e.maxLateralDecel
  maxVerticalVel := .fin e.maxVerticalVel
  maxVerticalAcc := .fin e.maxVerticalAcc
  maxVerticalDecel := .fin e.maxVerticalDecel
  minTurningRadius := .fin e.minTurningRadius

theorem ExactLimits.minLinearVel_le_maxLinearVel (e : ExactLimits) :
    e.minLinearVel ≤ e.maxLinearVel :=
  e.minLinearVel_nonpos.trans e.maxLinearVel_nonneg

theorem LimitCheck.message_ne_empty (check : LimitCheck) : check.message ≠ "" := by
  intro hempty
  have hhint := (String.append_eq_empty_iff.mp hempty).2
  contradiction

theorem invalidRobotLimits_eq_empty {limits : RobotLimits} :
    invalidRobotLimits limits = "" ↔ ∀ c ∈ limitChecks limits, c.fails = false := by
  unfold invalidRobotLimits
  cases h : (limitChecks limits).find? LimitCheck.fails with
  | none =>
      rw [List.find?_eq_none] at h
      simpa using h
  | some check =>
      have hfails := List.find?_some h
      have hmem := List.mem_of_find?_eq_some h
      constructor
      · intro hempty
        exact absurd hempty check.message_ne_empty
      · intro hall
        rw [hall check hmem] at hfails
        contradiction

theorem LimitCheck.fails_eq_false {check : LimitCheck} :
    check.fails = false ↔ (∃ x, check.value = .fin x) ∧ check.valid = true := by
  simp [LimitCheck.fails, isFinite_iff]

/-- The limits the check accepts are exactly those that are finite and in
range. -/
theorem invalidRobotLimits_eq_empty_iff {limits : RobotLimits} :
    invalidRobotLimits limits = "" ↔ ∃ e : ExactLimits, limits = e.toRobotLimits := by
  rw [invalidRobotLimits_eq_empty]
  constructor
  · intro h
    simp only [limitChecks, List.forall_mem_cons, LimitCheck.fails_eq_false,
      decide_eq_true_eq] at h
    obtain ⟨⟨⟨a, ha⟩, ha'⟩, ⟨⟨b, hb⟩, hb'⟩, ⟨⟨c, hc⟩, hc'⟩, ⟨⟨d, hd⟩, hd'⟩,
      ⟨⟨f, hf⟩, hf'⟩, ⟨⟨g, hg⟩, hg'⟩, ⟨⟨i, hi⟩, hi'⟩, ⟨⟨j, hj⟩, hj'⟩, ⟨⟨k, hk⟩, hk'⟩,
      ⟨⟨l, hl⟩, hl'⟩, ⟨⟨m, hm⟩, hm'⟩, ⟨⟨n, hn⟩, hn'⟩, ⟨⟨o, ho⟩, ho'⟩, ⟨⟨p, hp⟩, hp'⟩,
      -⟩ := h
    simp only [ha, hb, hc, hd, hf, hg, hi, hj, hk, hl, hm, hn, ho, hp, zero_def,
      fin_le_fin, fin_lt_fin] at ha' hb' hc' hd' hf' hg' hi' hj' hk' hl' hm' hn' ho' hp'
    refine ⟨⟨a, b, c, d, f, g, i, j, k, l, m, n, o, p, ha', hb', hc', hd', hf', hg',
      hi', hj', hk', hl', hm', hn', ho', hp'⟩, ?_⟩
    cases limits
    simp_all [ExactLimits.toRobotLimits]
  · rintro ⟨e, rfl⟩
    simp [limitChecks, ExactLimits.toRobotLimits, LimitCheck.fails_eq_false, zero_def,
      e.maxLinearVel_nonneg, e.minLinearVel_nonpos, e.maxAngularVel_nonneg,
      e.maxLinearAcc_pos, e.maxLinearDecel_pos, e.maxAngularAcc_pos,
      e.maxAngularDecel_pos, e.maxLateralVel_nonneg, e.maxLateralAcc_pos,
      e.maxLateralDecel_pos, e.maxVerticalVel_nonneg, e.maxVerticalAcc_pos,
      e.maxVerticalDecel_pos, e.minTurningRadius_nonneg]

/-- What the safety channel imposes right now. -/
structure SafetyChannelState where
  protectiveStop : Bool := false
  statusLost : Bool := false
  maxLinearVel : Double := .posInf
  maxAngularVel : Double := .posInf
  deriving DecidableEq

/-- `operator==`, which compares the speeds as doubles. -/
def SafetyChannelState.eq (a b : SafetyChannelState) : Bool :=
  a.protectiveStop == b.protectiveStop && a.statusLost == b.statusLost &&
    beqIeee a.maxLinearVel b.maxLinearVel && beqIeee a.maxAngularVel b.maxAngularVel

/-- The limits cut down to the safely limited speed. -/
def limitedBy (limits : RobotLimits) (state : SafetyChannelState) : RobotLimits :=
  { limits with
    maxLinearVel := stdMin limits.maxLinearVel state.maxLinearVel
    minLinearVel := stdMax limits.minLinearVel (-state.maxLinearVel)
    maxLateralVel := stdMin limits.maxLateralVel state.maxLinearVel
    maxVerticalVel := stdMin limits.maxVerticalVel state.maxLinearVel
    maxAngularVel := stdMin limits.maxAngularVel state.maxAngularVel }

theorem SafetyChannelState.eq_of_eq {a b : SafetyChannelState} (h : a.eq b = true) :
    a = b := by
  unfold SafetyChannelState.eq at h
  simp only [Bool.and_eq_true, beq_iff_eq] at h
  obtain ⟨⟨⟨hstop, hlost⟩, hlinear⟩, hangular⟩ := h
  rcases a with ⟨stop, lost, linear, angular⟩
  rcases b with ⟨stop', lost', linear', angular'⟩
  have hlinear' : linear = linear' := eq_of_beqIeee hlinear
  have hangular' : angular = angular' := eq_of_beqIeee hangular
  simp only at hstop hlost
  rw [hstop, hlost, hlinear', hangular']

def SafetyChannelState.Unrestricted (state : SafetyChannelState) : Prop :=
  state.maxLinearVel = .posInf ∧ state.maxAngularVel = .posInf

instance (state : SafetyChannelState) : Decidable state.Unrestricted :=
  inferInstanceAs (Decidable (_ ∧ _))

theorem limitedBy_of_unrestricted (limits : RobotLimits) {state : SafetyChannelState}
    (h : state.Unrestricted) : limitedBy limits state = limits := by
  obtain ⟨hlinear, hangular⟩ := h
  simp [limitedBy, hlinear, hangular]

/-- Limits that are cut down and still default to themselves were not cut down. -/
theorem limitedBy_eq_of_default {limits : RobotLimits} {state : SafetyChannelState}
    {configured : String → Bool} (hdefault : defaultLateralLimits limits configured = limits)
    (h : defaultLateralLimits (limitedBy limits state) configured = limits) :
    limitedBy limits state = limits := by
  rcases limits with ⟨a, b, c, d, e, f, g, i, j, k, l, m, n, o⟩
  simp only [defaultLateralLimits, limitedBy, RobotLimits.mk.injEq] at hdefault h ⊢
  cases hlateral : configured "max_lateral_vel" with
  | true => simp_all
  | false => simp_all

/-- A speed the safety channel may impose: none, or one that is not negative. -/
def IsSpeedLimit (v : Double) : Prop := v = .posInf ∨ ∃ x : ℚ, 0 ≤ x ∧ v = .fin x

theorem isSpeedLimit_fin_iff {x : ℚ} : IsSpeedLimit (.fin x) ↔ 0 ≤ x := by
  simp [IsSpeedLimit]

theorem limitedBy_eq (limits : RobotLimits) (state : SafetyChannelState) :
    limitedBy limits state =
      limitedBy (limitedBy limits { state with maxAngularVel := .posInf })
        { state with maxLinearVel := .posInf } := by
  simp [limitedBy]

theorem limitedBy_linear_valid (e : ExactLimits) {state : SafetyChannelState}
    (hlinear : IsSpeedLimit state.maxLinearVel) (hangular : state.maxAngularVel = .posInf) :
    ∃ e' : ExactLimits, limitedBy e.toRobotLimits state = e'.toRobotLimits := by
  rcases hlinear with hlinear | ⟨v, hv, hlinear⟩
  · exact ⟨e, limitedBy_of_unrestricted _ ⟨hlinear, hangular⟩⟩
  · refine ⟨{ e with
      maxLinearVel := min e.maxLinearVel v
      minLinearVel := max e.minLinearVel (-v)
      maxLateralVel := min e.maxLateralVel v
      maxVerticalVel := min e.maxVerticalVel v
      maxLinearVel_nonneg := le_min e.maxLinearVel_nonneg hv
      minLinearVel_nonpos := max_le e.minLinearVel_nonpos (neg_nonpos.mpr hv)
      maxLateralVel_nonneg := le_min e.maxLateralVel_nonneg hv
      maxVerticalVel_nonneg := le_min e.maxVerticalVel_nonneg hv }, ?_⟩
    simp [limitedBy, hlinear, hangular, ExactLimits.toRobotLimits]

theorem limitedBy_angular_valid (e : ExactLimits) {state : SafetyChannelState}
    (hlinear : state.maxLinearVel = .posInf) (hangular : IsSpeedLimit state.maxAngularVel) :
    ∃ e' : ExactLimits, limitedBy e.toRobotLimits state = e'.toRobotLimits := by
  rcases hangular with hangular | ⟨w, hw, hangular⟩
  · exact ⟨e, limitedBy_of_unrestricted _ ⟨hlinear, hangular⟩⟩
  · refine ⟨{ e with
      maxAngularVel := min e.maxAngularVel w
      maxAngularVel_nonneg := le_min e.maxAngularVel_nonneg hw }, ?_⟩
    simp [limitedBy, hlinear, hangular, ExactLimits.toRobotLimits]

theorem limitedBy_valid (e : ExactLimits) {state : SafetyChannelState}
    (hlinear : IsSpeedLimit state.maxLinearVel)
    (hangular : IsSpeedLimit state.maxAngularVel) :
    ∃ e' : ExactLimits, limitedBy e.toRobotLimits state = e'.toRobotLimits := by
  rw [limitedBy_eq]
  obtain ⟨cut, hcut⟩ : ∃ cut : ExactLimits,
      limitedBy e.toRobotLimits { state with maxAngularVel := .posInf } = cut.toRobotLimits :=
    limitedBy_linear_valid e hlinear rfl
  rw [hcut]
  exact limitedBy_angular_valid cut rfl hangular

end EasyNav.SpeedLimits
