import EasyNav.NavigationState

namespace EasyNav.MissionMessages

open EasyNav.ExtendedArithmetic
open EasyNav.DoubleArithmetic
open EasyNav.NavigationState

/-- The `type` of a `NavigationControl`; `other` is a value without a name. -/
inductive ControlType where
  | request
  | reject
  | accept
  | feedback
  | finished
  | failed
  | cancel
  | cancelled
  | error
  | pause
  | resume
  | paused
  | resumed
  | other (value : { value : UInt8 // 12 < value })
  deriving DecidableEq

/-- `distanceToGoal` is kept before it is rounded to a `float`; past its maximum `seq`
comes round. -/
structure NavigationControl where
  type : ControlType := .request
  header : Header := {}
  seq : Int64 := 0
  userId : String := ""
  navCurrentUserId : String := ""
  goals : Goals := {}
  statusMessage : String := ""
  currentPose : PoseStamped := {}
  navigationTime : Time := 0
  distanceToGoal : Hypotenuse ℚ := .root 0
  deriving DecidableEq

structure GoalManagerInfo where
  status : MissionState := .idle
  goals : Goals := {}
  positionDistance : Hypotenuse ℚ := .root 0
  angleDistance : Double := 0
  positionTolerance : Double := 0
  angleTolerance : Double := 0
  deriving DecidableEq

theorem toInt_add_one {seq : Int64} (h : seq < Int64.maxValue) :
    (seq + 1).toInt = seq.toInt + 1 := by
  have hmax : seq.toInt < 2 ^ 63 - 1 := Int64.lt_iff_toInt_lt.mp h
  have hmin := seq.le_toInt
  have hone : (1 : Int64).toInt = 1 := rfl
  rw [Int64.toInt_add, hone]
  exact Int.bmod_eq_of_le (by omega) (by omega)

namespace NavigationControl

/-- It tells its addressee that a mission is over. -/
def IsTerminal (msg : NavigationControl) : Prop :=
  msg.type = .finished ∨ msg.type = .failed ∨ msg.type = .error ∨ msg.type = .cancelled

/-- It reports on a mission that goes on. -/
def IsReport (msg : NavigationControl) : Prop :=
  msg.type = .feedback ∨ msg.type = .paused ∨ msg.type = .resumed

/-- It refuses a request, as opposed to anything else that was asked for. -/
def IsRejection (msg : NavigationControl) : Prop :=
  msg.type = .reject ∧
    (msg.statusMessage = "Goals are empty" ∨
      msg.statusMessage = "Goal rejected; unable to preempt current active goal")

/-- It answers a request. -/
def IsAnswer (msg : NavigationControl) : Prop :=
  msg.type = .accept ∨ msg.IsRejection

/-- It tells the owner of a mission that another client took over. -/
def IsPreemptionNotice (msg : NavigationControl) : Prop :=
  msg.type = .cancelled ∧ msg.statusMessage = "Navigation preempted by others"

instance (msg : NavigationControl) : Decidable msg.IsTerminal :=
  inferInstanceAs (Decidable (_ ∨ _ ∨ _ ∨ _))

instance (msg : NavigationControl) : Decidable msg.IsReport :=
  inferInstanceAs (Decidable (_ ∨ _ ∨ _))

instance (msg : NavigationControl) : Decidable msg.IsRejection :=
  inferInstanceAs (Decidable (_ ∧ (_ ∨ _)))

instance (msg : NavigationControl) : Decidable msg.IsAnswer :=
  inferInstanceAs (Decidable (_ ∨ _))

instance (msg : NavigationControl) : Decidable msg.IsPreemptionNotice :=
  inferInstanceAs (Decidable (_ ∧ _))

variable {msg : NavigationControl}

theorem IsTerminal.not_isAnswer (h : msg.IsTerminal) : ¬ msg.IsAnswer := by
  rintro (haccept | ⟨hreject, -⟩)
  · rcases h with h | h | h | h <;> rw [h] at haccept <;> contradiction
  · rcases h with h | h | h | h <;> rw [h] at hreject <;> contradiction

theorem IsTerminal.not_isReport (h : msg.IsTerminal) : ¬ msg.IsReport := by
  rintro (hreport | hreport | hreport) <;>
    rcases h with h | h | h | h <;> rw [h] at hreport <;> contradiction

theorem IsReport.not_isAnswer (h : msg.IsReport) : ¬ msg.IsAnswer := by
  rintro (haccept | ⟨hreject, -⟩)
  · rcases h with h | h | h <;> rw [h] at haccept <;> contradiction
  · rcases h with h | h | h <;> rw [h] at hreject <;> contradiction

end NavigationControl

end EasyNav.MissionMessages
