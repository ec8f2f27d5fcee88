import EasyNav.SpeedLimits

namespace EasyNav.NavigationState

open EasyNav.ExtendedArithmetic
open EasyNav.ExtendedArithmetic.Extended
open EasyNav.DoubleArithmetic
open EasyNav.SpeedLimits

structure Header where
  stamp : Time := 0
  frameId : String := ""
  deriving DecidableEq

structure Vector3 where
  x : Double := 0
  y : Double := 0
  z : Double := 0
  deriving DecidableEq

structure Twist where
  linear : Vector3 := {}
  angular : Vector3 := {}
  deriving DecidableEq

structure TwistStamped where
  header : Header := {}
  twist : Twist := {}
  deriving DecidableEq

structure Quaternion where
  x : Double := 0
  y : Double := 0
  z : Double := 0
  w : Double := .fin 1
  deriving DecidableEq

structure Pose where
  position : Vector3 := {}
  orientation : Quaternion := {}
  deriving DecidableEq

structure PoseStamped where
  header : Header := {}
  pose : Pose := {}
  deriving DecidableEq

structure Odometry where
  header : Header := {}
  pose : Pose := {}
  deriving DecidableEq

structure Goals where
  header : Header := {}
  goals : List PoseStamped := []
  deriving DecidableEq

/-- `operator==` of the generated messages, which compares doubles. -/
def Vector3.eq (a b : Vector3) : Bool :=
  beqIeee a.x b.x && beqIeee a.y b.y && beqIeee a.z b.z

def Twist.eq (a b : Twist) : Bool := a.linear.eq b.linear && a.angular.eq b.angular

def TwistStamped.eq (a b : TwistStamped) : Bool :=
  decide (a.header = b.header) && a.twist.eq b.twist

def Quaternion.eq (a b : Quaternion) : Bool :=
  beqIeee a.x b.x && beqIeee a.y b.y && beqIeee a.z b.z && beqIeee a.w b.w

def PoseStamped.eq (a b : PoseStamped) : Bool :=
  decide (a.header = b.header) && a.pose.position.eq b.pose.position &&
    a.pose.orientation.eq b.pose.orientation

def Goals.eq (a b : Goals) : Bool :=
  decide (a.header = b.header) && a.goals.length == b.goals.length &&
    (a.goals.zip b.goals).all fun pair => pair.1.eq pair.2

def Vector3.isFinite (v : Vector3) : Bool := v.x.isFinite && v.y.isFinite && v.z.isFinite

def Twist.isFinite (t : Twist) : Bool := t.linear.isFinite && t.angular.isFinite

def Quaternion.isFinite (q : Quaternion) : Bool :=
  q.x.isFinite && q.y.isFinite && q.z.isFinite && q.w.isFinite

def Pose.isFinite (p : Pose) : Bool := p.position.isFinite && p.orientation.isFinite

theorem Vector3.eq_of_eq {a b : Vector3} (h : a.eq b = true) : a = b := by
  simp only [Vector3.eq, Bool.and_eq_true] at h
  obtain ⟨⟨hx, hy⟩, hz⟩ := h
  rcases a with ⟨x, y, z⟩
  rcases b with ⟨x', y', z'⟩
  have hx' : x = x' := eq_of_beqIeee hx
  have hy' : y = y' := eq_of_beqIeee hy
  have hz' : z = z' := eq_of_beqIeee hz
  rw [hx', hy', hz']

theorem Twist.eq_of_eq {a b : Twist} (h : a.eq b = true) : a = b := by
  simp only [Twist.eq, Bool.and_eq_true] at h
  rcases a with ⟨linear, angular⟩
  rcases b with ⟨linear', angular'⟩
  have hlinear : linear = linear' := Vector3.eq_of_eq h.1
  have hangular : angular = angular' := Vector3.eq_of_eq h.2
  rw [hlinear, hangular]

theorem PoseStamped.eq_of_eq {a b : PoseStamped} (h : a.eq b = true) : a = b := by
  simp only [PoseStamped.eq, Quaternion.eq, Bool.and_eq_true, decide_eq_true_eq] at h
  obtain ⟨⟨hheader, hposition⟩, ⟨⟨hx, hy⟩, hz⟩, hw⟩ := h
  rcases a with ⟨header, position, ⟨x, y, z, w⟩⟩
  rcases b with ⟨header', position', ⟨x', y', z', w'⟩⟩
  have hheader : header = header' := hheader
  have hposition : position = position' := Vector3.eq_of_eq hposition
  have hx : x = x' := eq_of_beqIeee hx
  have hy : y = y' := eq_of_beqIeee hy
  have hz : z = z' := eq_of_beqIeee hz
  have hw : w = w' := eq_of_beqIeee hw
  rw [hheader, hposition, hx, hy, hz, hw]

theorem Goals.eq_of_eq {a b : Goals} (h : a.eq b = true) : a = b := by
  rcases a with ⟨header, goals⟩
  rcases b with ⟨header', goals'⟩
  simp only [Goals.eq, Bool.and_eq_true, decide_eq_true_eq, beq_iff_eq] at h
  obtain ⟨⟨rfl, hlength⟩, hgoals⟩ := h
  have heq : goals = goals' := by
    clear header
    induction goals generalizing goals' with
    | nil => exact (List.length_eq_zero_iff.mp hlength.symm).symm
    | cons goal goals ih =>
        cases goals' with
        | nil => contradiction
        | cons goal' goals' =>
            rw [List.zip_cons_cons, List.all_cons, Bool.and_eq_true] at hgoals
            have hgoal : goal = goal' := PoseStamped.eq_of_eq hgoals.1
            rw [hgoal, ih goals' hgoals.2 (Nat.succ.inj hlength)]
  rw [heq]

inductive DiagnosticLevel where
  | ok
  | warn
  | error
  deriving DecidableEq

structure DiagnosticStatus where
  level : DiagnosticLevel := .ok
  name : String := ""
  hardwareId : String := ""
  message : String := ""
  values : List (String × String) := []
  deriving DecidableEq

/-- The role a proposed velocity command plays. -/
inductive VelocitySource where
  | controller
  | takeover
  | override
  deriving DecidableEq

structure VelocityProposal where
  pending : Bool := false
  cmd : TwistStamped := {}
  deriving DecidableEq

inductive MissionState where
  | idle
  | active
  deriving DecidableEq

structure NavState where
  cmdVel : Option TwistStamped := none
  proposal : VelocitySource → Option VelocityProposal := fun _ => none
  safetyStatus : Option SafetyChannelState := none
  inhibitMotion : Option Bool := none
  robotPose : Option Odometry := none
  navigationState : Option MissionState := none
  navigationPaused : Option Bool := none
  goals : Option Goals := none
  goalTolerancePosition : Option Double := none
  goalToleranceHeight : Option Double := none
  goalToleranceYaw : Option Double := none
  configurationHash : Option String := none
  reconfiguredParameters : Option (List String) := none
  /-- The values under `diagnostics.<name>`, members of the group `diagnostics`. -/
  diagnostics : String → Option DiagnosticStatus := fun _ => none

def NavState.setDiagnostic (nav : NavState) (key : String) (status : DiagnosticStatus) :
    NavState :=
  { nav with diagnostics := Function.update nav.diagnostics key (some status) }

def propose (nav : NavState) (source : VelocitySource) (cmd : TwistStamped) : NavState :=
  { nav with proposal := Function.update nav.proposal source (some ⟨true, cmd⟩) }

def peek (nav : NavState) (source : VelocitySource) : Option TwistStamped :=
  match nav.proposal source with
  | some proposal => if proposal.pending then some proposal.cmd else none
  | none => none

def take (nav : NavState) (source : VelocitySource) : Option TwistStamped × NavState :=
  match peek nav source with
  | some cmd =>
      (some cmd, { nav with
        proposal := Function.update nav.proposal source (some ⟨false, cmd⟩) })
  | none => (none, nav)

structure SameButProposals (a b : NavState) : Prop where
  cmdVel : a.cmdVel = b.cmdVel
  safetyStatus : a.safetyStatus = b.safetyStatus
  inhibitMotion : a.inhibitMotion = b.inhibitMotion
  robotPose : a.robotPose = b.robotPose
  navigationPaused : a.navigationPaused = b.navigationPaused

theorem SameButProposals.refl (nav : NavState) : SameButProposals nav nav :=
  ⟨rfl, rfl, rfl, rfl, rfl⟩

theorem SameButProposals.trans {a b c : NavState} (hab : SameButProposals a b)
    (hbc : SameButProposals b c) : SameButProposals a c :=
  ⟨hab.cmdVel.trans hbc.cmdVel, hab.safetyStatus.trans hbc.safetyStatus,
    hab.inhibitMotion.trans hbc.inhibitMotion, hab.robotPose.trans hbc.robotPose,
    hab.navigationPaused.trans hbc.navigationPaused⟩

/-- The velocity commands are the same in both: the written one and the proposals. -/
structure SameCommands (a b : NavState) : Prop where
  cmdVel : a.cmdVel = b.cmdVel
  proposal : a.proposal = b.proposal

theorem SameCommands.refl (nav : NavState) : SameCommands nav nav := ⟨rfl, rfl⟩

theorem SameCommands.trans {a b c : NavState} (hab : SameCommands a b)
    (hbc : SameCommands b c) : SameCommands a c :=
  ⟨hab.cmdVel.trans hbc.cmdVel, hab.proposal.trans hbc.proposal⟩

theorem SameCommands.peek_eq {a b : NavState} (h : SameCommands a b)
    (source : VelocitySource) : peek a source = peek b source := by
  rw [peek, peek, h.proposal]

theorem peek_propose (nav : NavState) (source other : VelocitySource) (cmd : TwistStamped) :
    peek (propose nav source cmd) other =
      if other = source then some cmd else peek nav other := by
  rw [peek, propose]
  by_cases heq : other = source
  · rw [heq, if_pos rfl]
    dsimp only
    rw [Function.update_self]
    rfl
  · rw [if_neg heq]
    dsimp only
    rw [Function.update_of_ne heq]
    rfl

theorem take_fst (nav : NavState) (source : VelocitySource) :
    (take nav source).1 = peek nav source := by
  unfold take
  cases peek nav source <;> rfl

theorem take_sameButProposals (nav : NavState) (source : VelocitySource) :
    SameButProposals (take nav source).2 nav := by
  unfold take
  cases peek nav source
  · exact .refl nav
  · exact ⟨rfl, rfl, rfl, rfl, rfl⟩

theorem peek_take (nav : NavState) (source other : VelocitySource) :
    peek (take nav source).2 other = if other = source then none else peek nav other := by
  unfold take
  by_cases heq : other = source
  · subst heq
    rw [if_pos rfl]
    cases h : peek nav other with
    | none => exact h
    | some cmd => simp [peek]
  · rw [if_neg heq]
    cases h : peek nav source with
    | none => rfl
    | some cmd => simp [peek, heq]

end EasyNav.NavigationState
