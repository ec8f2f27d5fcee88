import EasyNav.MissionMessages

/-!
The goal manager. An operation returns the control messages it publishes, in their
order. Its node is alive throughout, and what `tf2` computes from an orientation is
a parameter.
-/

namespace EasyNav.MissionServer

open EasyNav.ExtendedArithmetic
open EasyNav.ExtendedArithmetic.Extended
open EasyNav.DoubleArithmetic
open EasyNav.NavigationState
open EasyNav.MissionMessages

def calculateDistanceXy (pose1 pose2 : Pose) : Hypotenuse ℚ :=
  let dx := pose1.position.x - pose2.position.x
  let dy := pose1.position.y - pose2.position.y
  Hypotenuse.hypot dx dy

def mPi : ℚ := 884279719003555 / 281474976710656

/-- `std::fmod` for a positive divisor. -/
def fmod (x : Double) (y : ℚ) : Double :=
  match x with
  | .fin x => .fin (x - y * (if x < 0 then -⌊-x / y⌋ else ⌊x / y⌋))
  | _ => .nan

/-- Angle normalization to [-pi, pi). -/
def normAngle (angle : Double) : Double :=
  let outAngle := fmod (angle + .fin mPi) (2 * mPi)
  let outAngle := if outAngle < 0 then outAngle + .fin (2 * mPi) else outAngle
  outAngle - .fin mPi

def calculateAngle (getYaw : Quaternion → Double) (pose1 pose2 : Pose) : Double :=
  let yaw1 := getYaw pose1.orientation
  let yaw2 := getYaw pose2.orientation
  normAngle (yaw1 - yaw2)

structure GoalTolerance where
  position : Double := .fin (3 / 100)
  height : Double := .fin 10000
  yaw : Double := .fin (1 / 100)
  deriving DecidableEq

structure GoalParameters where
  allowPreemptGoal : Bool := true
  goalTolerance : GoalTolerance := {}
  updateFrequency : Double := .fin 20
  deriving DecidableEq

structure GoalManager where
  goalTolerance : GoalTolerance := {}
  goals : Goals := {}
  goalsRevision : UInt64 := 0
  lastControl : NavigationControl := {}
  currentClientId : String := ""
  allowPreemptGoal : Bool := true
  navStartTime : Time := 0
  updateFrequency : Double := .fin 20
  updatePeriod : Time := 0
  lastUpdateTime : Time := 0
  firstUpdate : Bool := true
  state : MissionState := .idle
  paused : Bool := false
  progressHeld : Bool := false
  lastSyncedNavigationState : MissionState := .idle
  lastSyncedPaused : Bool := false
  goalsSyncedEmpty : Bool := true
  info : GoalManagerInfo := {}
  infoFinalPending : Bool := false
  deriving DecidableEq

/-- The clock readings of one control message: for the response, for a notice of
preemption and for the start of a mission. -/
structure ControlReadings where
  response : Time := 0
  preempted : Time := 0
  accepted : Time := 0

/-- The clock readings of one update: for the feedback, for the time navigating, for
the throttle and for the end of the mission; and whether somebody listens to the
info. -/
structure UpdateReadings where
  feedback : Time := 0
  navigation : Time := 0
  throttle : Time := 0
  finished : Time := 0
  subscribed : Bool := false

structure Publications where
  control : List NavigationControl := []
  info : List GoalManagerInfo := []

namespace GoalManager

/-- The identifier of the goal manager, and of the commands given as a pose. -/
def id : String := "easynav_system"

def initposeId : String := id ++ "_initpose"

/-- Tolerances in NavState, so controllers can reuse them. -/
def publishTolerances (gm : GoalManager) (nav : NavState) : NavState :=
  { nav with
    goalTolerancePosition := some gm.goalTolerance.position
    goalToleranceHeight := some gm.goalTolerance.height
    goalToleranceYaw := some gm.goalTolerance.yaw }

def readParameters (gm : GoalManager) (params : GoalParameters) (nav : NavState) :
    GoalManager × NavState :=
  let updateFrequency :=
    if params.updateFrequency ≤ 0 then .fin 20 else params.updateFrequency
  let gm := { gm with
    allowPreemptGoal := params.allowPreemptGoal
    goalTolerance := params.goalTolerance
    updateFrequency := updateFrequency
    updatePeriod := durationCast (.fin 1 / updateFrequency) }
  (gm, gm.publishTolerances nav)

def create (params : GoalParameters) (nav : NavState) : GoalManager × NavState :=
  let gm : GoalManager := {}
  gm.readParameters params { nav with
    navigationState := some gm.state
    navigationPaused := some gm.paused
    goals := some gm.goals }

def acceptRequest (gm : GoalManager) (msg response : NavigationControl) (now : Time) :
    GoalManager × NavigationControl :=
  ({ gm with
    navStartTime := now
    goals := msg.goals
    goalsRevision := gm.goalsRevision + 1
    goalsSyncedEmpty := false
    paused := false
    currentClientId := msg.userId
    info := {}
    infoFinalPending := true
    state := .active },
  { response with
    statusMessage := "Goal accepted"
    type := .accept
    navCurrentUserId := msg.userId })

/-- What every message about the mission copies from the last control message. -/
def notice (gm : GoalManager) (type : ControlType) (statusMessage : String) (now : Time) :
    NavigationControl :=
  { gm.lastControl with
    header := { gm.lastControl.header with stamp := now }
    seq := gm.lastControl.seq + 1
    userId := id
    type := type
    navCurrentUserId := gm.currentClientId
    statusMessage := statusMessage }

def setPreempted (gm : GoalManager) (now : Time) : GoalManager × NavigationControl :=
  ({ gm with
    goals := { gm.goals with goals := [] }
    goalsRevision := gm.goalsRevision + 1 },
  gm.notice .cancelled "Navigation preempted by others" now)

def setEnded (gm : GoalManager) (type : ControlType) (statusMessage : String) (now : Time) :
    GoalManager × NavigationControl :=
  ({ gm with
    state := .idle
    goals := {}
    goalsRevision := gm.goalsRevision + 1
    paused := false },
  gm.notice type statusMessage now)

def setFinished (gm : GoalManager) (now : Time) : GoalManager × NavigationControl :=
  gm.setEnded .finished "Navigation succesfully finished" now

def setError (gm : GoalManager) (reason : String) (now : Time) :
    GoalManager × NavigationControl :=
  gm.setEnded .error reason now

def setFailed (gm : GoalManager) (reason : String) (now : Time) :
    GoalManager × NavigationControl :=
  gm.setEnded .failed reason now

def setProgressHeld (gm : GoalManager) (held : Bool) : GoalManager :=
  { gm with progressHeld := held }

/-- What every response copies from the message it responds to. -/
def response (msg : NavigationControl) (now : Time) : NavigationControl :=
  { msg with header := { msg.header with stamp := now }, seq := msg.seq + 1, userId := id }

def rejectTo (msg response : NavigationControl) (statusMessage : String) :
    NavigationControl :=
  { response with
    statusMessage := statusMessage, type := .reject, navCurrentUserId := msg.userId }

def errorTo (msg response : NavigationControl) (statusMessage : String) :
    NavigationControl :=
  { response with
    statusMessage := statusMessage, type := .error, navCurrentUserId := msg.userId }

/-- The notices of preemption, the node and the response. -/
def handleRequest (gm : GoalManager) (msg response : NavigationControl)
    (readings : ControlReadings) :
    List NavigationControl × GoalManager × NavigationControl :=
  if msg.goals.goals.isEmpty then ([], gm, rejectTo msg response "Goals are empty")
  else if gm.state = .idle then ([], gm.acceptRequest msg response readings.accepted)
  else if gm.allowPreemptGoal then
    if msg.userId ≠ gm.currentClientId then
      let (gm, cancelled) := gm.setPreempted readings.preempted
      ([cancelled], gm.acceptRequest msg response readings.accepted)
    else ([], gm.acceptRequest msg response readings.accepted)
  else
    ([], gm,
      rejectTo msg response "Goal rejected; unable to preempt current active goal")

def handleCancel (gm : GoalManager) (msg response : NavigationControl) :
    GoalManager × NavigationControl :=
  if gm.currentClientId ≠ msg.userId then
    (gm, rejectTo msg response "Trying to cancel a navigation not commanded by you")
  else if gm.state = .idle then
    (gm, errorTo msg response "Nothing to cancel; easynav is idle")
  else
    ({ gm with
      goals := { gm.goals with goals := [] }
      goalsRevision := gm.goalsRevision + 1
      state := .idle
      paused := false },
    { response with
      statusMessage := "Goal cancelled"
      type := .cancelled
      navCurrentUserId := gm.currentClientId })

/-- Pausing and resuming are not restricted to the goal's owner. -/
def handlePause (gm : GoalManager) (msg response : NavigationControl) :
    GoalManager × NavigationControl :=
  if gm.state = .idle then
    (gm, rejectTo msg response "Nothing to pause; easynav is idle")
  else
    ({ gm with paused := true },
    { response with
      statusMessage := "Navigation paused"
      type := .paused
      navCurrentUserId := msg.userId })

def handleResume (gm : GoalManager) (msg response : NavigationControl) :
    GoalManager × NavigationControl :=
  if gm.state = .idle then
    (gm, rejectTo msg response "Nothing to resume; easynav is idle")
  else
    ({ gm with paused := false },
    { response with
      statusMessage := "Navigation resumed"
      type := .resumed
      navCurrentUserId := msg.userId })

def controlCallback (gm : GoalManager) (msg : NavigationControl)
    (readings : ControlReadings) : GoalManager × List NavigationControl :=
  if msg.userId = id then (gm, [])
  else
    let base := response msg readings.response
    let (notices, gm, response) :=
      match msg.type with
      | .request => gm.handleRequest msg base readings
      | .cancel => ([], gm.handleCancel msg base)
      | .pause => ([], gm.handlePause msg base)
      | .resume => ([], gm.handleResume msg base)
      | _ => ([], gm, errorTo msg base "Unable to process message")
    ({ gm with lastControl := msg }, notices ++ [response])

/-- The request that a commanded pose stands for. -/
def poseRequest (gm : GoalManager) (msg : PoseStamped) : NavigationControl :=
  { header := msg.header
    seq := gm.lastControl.seq + 1
    userId := initposeId
    type := .request
    goals := { header := msg.header, goals := [msg] } }

def comandedPoseCallback (gm : GoalManager) (msg : PoseStamped)
    (readings : ControlReadings) : GoalManager × List NavigationControl :=
  gm.controlCallback (gm.poseRequest msg) readings

/-- Whether the pose is within the tolerances of the goal, as the early returns see
it. -/
def reaches (getYaw : Quaternion → Double) (currentPose firstGoal : Pose)
    (tolerance : GoalTolerance) : Bool :=
  let distanceXy := calculateDistanceXy currentPose firstGoal
  let distanceZ := Extended.abs (currentPose.position.z - firstGoal.position.z)
  if distanceXy.exceeds tolerance.position || decide (tolerance.height < distanceZ) then false
  else decide (Extended.abs (calculateAngle getYaw currentPose firstGoal) ≤ tolerance.yaw)

def checkGoals (gm : GoalManager) (getYaw : Quaternion → Double) (currentPose : Pose)
    (tolerance : GoalTolerance) : GoalManager :=
  match gm.goals.goals with
  | [] => gm
  | firstGoal :: goals =>
      if reaches getYaw currentPose firstGoal.pose tolerance then
        { gm with
          goals := { gm.goals with goals := goals }
          goalsRevision := gm.goalsRevision + 1 }
      else gm

/-- Publishes the final (IDLE) info once the mission ends, unthrottled. -/
def publishFinalInfo (gm : GoalManager) (subscribed : Bool) :
    GoalManager × List GoalManagerInfo :=
  if !gm.infoFinalPending then (gm, [])
  else
    let info := { gm.info with status := .idle, goals := gm.goals }
    ({ gm with infoFinalPending := false, info := info },
      if subscribed then [info] else [])

def syncState (gm : GoalManager) (nav : NavState) : GoalManager × NavState :=
  if gm.lastSyncedNavigationState ≠ gm.state then
    ({ gm with lastSyncedNavigationState := gm.state },
      { nav with navigationState := some gm.state })
  else (gm, nav)

def syncPaused (gm : GoalManager) (nav : NavState) : GoalManager × NavState :=
  if gm.lastSyncedPaused ≠ gm.paused then
    ({ gm with lastSyncedPaused := gm.paused },
      { nav with navigationPaused := some gm.paused })
  else (gm, nav)

def syncGoals (gm : GoalManager) (nav : NavState) : NavState :=
  match nav.goals with
  | none => { nav with goals := some gm.goals }
  | some goals => if goals.eq gm.goals then nav else { nav with goals := some gm.goals }

def updateIdle (gm : GoalManager) (nav : NavState) (subscribed : Bool) :
    GoalManager × NavState × Publications :=
  let (gm, info) := gm.publishFinalInfo subscribed
  if gm.goalsSyncedEmpty then (gm, nav, { info := info })
  else
    let goals : Goals := {}
    ({ gm with
      goals := goals
      goalsRevision := gm.goalsRevision + 1
      goalsSyncedEmpty := true },
    { nav with goals := some goals }, { info := info })

def feedback (gm : GoalManager) (odom : Odometry) (firstGoal : Pose)
    (readings : UpdateReadings) : NavigationControl :=
  { type := .feedback
    header := { stamp := readings.feedback }
    seq := gm.lastControl.seq + 1
    userId := id
    navCurrentUserId := gm.currentClientId
    goals := gm.goals
    currentPose := { header := odom.header, pose := odom.pose }
    navigationTime := readings.navigation - gm.navStartTime
    distanceToGoal := calculateDistanceXy odom.pose firstGoal }

def shouldPublish (gm : GoalManager) (readings : UpdateReadings) : Bool :=
  gm.firstUpdate || decide (gm.updatePeriod ≤ readings.throttle - gm.lastUpdateTime)

def publishFeedback (gm : GoalManager) (feedback : NavigationControl)
    (readings : UpdateReadings) : GoalManager × List NavigationControl :=
  if gm.shouldPublish readings then
    ({ gm with
      lastControl := feedback
      firstUpdate := false
      lastUpdateTime := readings.throttle }, [feedback])
  else (gm, [])

def updateInfo (gm : GoalManager) (positionDistance : Hypotenuse ℚ) (angleDistance : Double) :
    GoalManager :=
  { gm with
    info := { gm.info with
      positionTolerance := gm.goalTolerance.position
      angleTolerance := gm.goalTolerance.yaw
      positionDistance := positionDistance
      angleDistance := angleDistance } }

/-- Takes the first goal as reached if it is, unless the progress is held. -/
def progress (gm : GoalManager) (getYaw : Quaternion → Double) (pose : Pose) : GoalManager :=
  if gm.progressHeld then gm else gm.checkGoals getYaw pose gm.goalTolerance

def finishIfDone (gm : GoalManager) (now : Time) : GoalManager × List NavigationControl :=
  if gm.goals.goals.isEmpty then
    let (gm, finished) := gm.setFinished now
    (gm, [finished])
  else (gm, [])

/-- The info at the end of an update; throttled while the mission is active. -/
def publishInfo (gm : GoalManager) (publishing subscribed : Bool) :
    GoalManager × List GoalManagerInfo :=
  if gm.state = .idle then gm.publishFinalInfo subscribed
  else if publishing && subscribed then
    let info := { gm.info with status := .active, goals := gm.goals }
    ({ gm with info := info }, [info])
  else (gm, [])

def updateActive (gm : GoalManager) (getYaw : Quaternion → Double) (nav : NavState)
    (odom : Odometry) (firstGoal : Pose) (readings : UpdateReadings) :
    GoalManager × NavState × Publications :=
  let feedback := gm.feedback odom firstGoal readings
  let publishing := gm.shouldPublish readings
  let (gm, reported) := gm.publishFeedback feedback readings
  let gm := gm.updateInfo feedback.distanceToGoal (calculateAngle getYaw odom.pose firstGoal)
  let gm := gm.progress getYaw odom.pose
  let nav := gm.syncGoals nav
  let (gm, finished) := gm.finishIfDone readings.finished
  let (gm, nav) := gm.syncState nav
  let (gm, info) := gm.publishInfo publishing readings.subscribed
  (gm, nav, { control := reported ++ finished, info := info })

def update (gm : GoalManager) (getYaw : Quaternion → Double) (nav : NavState)
    (readings : UpdateReadings) : GoalManager × NavState × Publications :=
  let (gm, nav) := gm.syncState nav
  let (gm, nav) := gm.syncPaused nav
  let nav := gm.publishTolerances nav
  match gm.state with
  | .idle => gm.updateIdle nav readings.subscribed
  | .active =>
      match nav.robotPose, gm.goals.goals with
      | none, _ => (gm, nav, {})
      | some odom, firstGoal :: _ => gm.updateActive getYaw nav odom firstGoal.pose readings
      -- The front of an empty list: an active mission always has a goal.
      | some _, [] => (gm, nav, {})

/-- Whose mission is active. -/
def Owns (gm : GoalManager) (client : String) : Prop :=
  gm.state = .active ∧ gm.currentClientId = client

instance (gm : GoalManager) (client : String) : Decidable (gm.Owns client) :=
  inferInstanceAs (Decidable (_ ∧ _))

theorem active_of_not_idle {gm : GoalManager} (h : ¬ gm.state = .idle) : gm.state = .active := by
  cases hstate : gm.state with
  | idle => exact absurd hstate h
  | active => rfl

structure SameMission (a b : GoalManager) : Prop where
  state : a.state = b.state
  currentClientId : a.currentClientId = b.currentClientId
  goals : a.goals = b.goals

/-- What decides whether a goal is taken as reached is the same in both. -/
structure SameSettings (a b : GoalManager) : Prop where
  progressHeld : a.progressHeld = b.progressHeld
  goalTolerance : a.goalTolerance = b.goalTolerance

theorem SameSettings.refl (gm : GoalManager) : SameSettings gm gm := ⟨rfl, rfl⟩

theorem SameSettings.trans {a b c : GoalManager} (hab : SameSettings a b)
    (hbc : SameSettings b c) : SameSettings a c :=
  ⟨hab.progressHeld.trans hbc.progressHeld, hab.goalTolerance.trans hbc.goalTolerance⟩

theorem SameMission.refl (gm : GoalManager) : SameMission gm gm := ⟨rfl, rfl, rfl⟩

theorem SameMission.trans {a b c : GoalManager} (hab : SameMission a b)
    (hbc : SameMission b c) : SameMission a c :=
  ⟨hab.state.trans hbc.state, hab.currentClientId.trans hbc.currentClientId,
    hab.goals.trans hbc.goals⟩

theorem SameMission.owns_iff {a b : GoalManager} (h : SameMission a b) (client : String) :
    a.Owns client ↔ b.Owns client := by
  unfold Owns
  rw [h.state, h.currentClientId]

/-- What a response copies from the message, and whom it is addressed to. -/
structure IsResponse (msg response : NavigationControl) : Prop where
  userId : response.userId = id
  seq : response.seq = msg.seq + 1
  navCurrentUserId : response.navCurrentUserId = msg.userId

def IsKnown (type : ControlType) : Prop :=
  type = .request ∨ type = .cancel ∨ type = .pause ∨ type = .resume

instance (type : ControlType) : Decidable (IsKnown type) :=
  inferInstanceAs (Decidable (_ ∨ _ ∨ _ ∨ _))

/-- What handling a message can do: the notices of preemption it sends first, the
manager it leaves and the response. -/
inductive Handled (gm : GoalManager) (msg : NavigationControl) (readings : ControlReadings) :
    List NavigationControl → GoalManager → NavigationControl → Prop
  | accepted {notices : List NavigationControl} {gm' : GoalManager}
      {response : NavigationControl} (htype : msg.type = .request)
      (hgoals : msg.goals.goals ≠ []) (hresponse : response.type = .accept)
      (howns : gm'.Owns msg.userId) (hgoals' : gm'.goals = msg.goals)
      (hnotices : notices =
        if gm.state = .active ∧ msg.userId ≠ gm.currentClientId then
          [gm.notice .cancelled "Navigation preempted by others" readings.preempted]
        else []) : Handled gm msg readings notices gm' response
  | refused {gm' : GoalManager} {response : NavigationControl} (htype : msg.type = .request)
      (hresponse : response.IsRejection) (hsame : SameMission gm' gm) :
      Handled gm msg readings [] gm' response
  | cancelled {gm' : GoalManager} {response : NavigationControl} (htype : msg.type = .cancel)
      (howns : gm.Owns msg.userId) (hresponse : response.type = .cancelled)
      (hstatus : response.statusMessage = "Goal cancelled") (hstate : gm'.state = .idle)
      (hclient : gm'.currentClientId = gm.currentClientId) (hgoals : gm'.goals.goals = []) :
      Handled gm msg readings [] gm' response
  | reported {gm' : GoalManager} {response : NavigationControl}
      (hknown : msg.type = .pause ∨ msg.type = .resume) (hresponse : response.IsReport)
      (hsame : SameMission gm' gm) : Handled gm msg readings [] gm' response
  | declined {gm' : GoalManager} {response : NavigationControl}
      (hknown : msg.type = .cancel ∨ msg.type = .pause ∨ msg.type = .resume)
      (howns : ¬ gm.Owns msg.userId) (hresponse : response.type = .reject ∨ response.type = .error)
      (hanswer : ¬ response.IsAnswer) (hsame : SameMission gm' gm) :
      Handled gm msg readings [] gm' response
  | unknown {gm' : GoalManager} {response : NavigationControl} (hunknown : ¬ IsKnown msg.type)
      (hresponse : response.type = .error) (hsame : SameMission gm' gm) :
      Handled gm msg readings [] gm' response

section Handling

variable (gm : GoalManager) (msg base : NavigationControl) (readings : ControlReadings)

theorem handleRequest_handled (htype : msg.type = .request) :
    Handled gm msg readings (gm.handleRequest msg base readings).1
      (gm.handleRequest msg base readings).2.1 (gm.handleRequest msg base readings).2.2 := by
  unfold handleRequest
  split
  · exact .refused htype ⟨rfl, Or.inl rfl⟩ (.refl gm)
  · rename_i hgoals
    have hgoals : msg.goals.goals ≠ [] := by simpa using hgoals
    split
    · rename_i hidle
      exact .accepted htype hgoals rfl ⟨rfl, rfl⟩ rfl (by simp [hidle])
    · rename_i hactive
      have hactive := active_of_not_idle hactive
      split
      · split
        · rename_i huser
          exact .accepted htype hgoals rfl ⟨rfl, rfl⟩ rfl (by rw [if_pos ⟨hactive, huser⟩]; rfl)
        · rename_i huser
          exact .accepted htype hgoals rfl ⟨rfl, rfl⟩ rfl (by rw [if_neg (huser ·.2)])
      · exact .refused htype ⟨rfl, Or.inr rfl⟩ (.refl gm)

theorem handleCancel_handled (htype : msg.type = .cancel) :
    Handled gm msg readings [] (gm.handleCancel msg base).1 (gm.handleCancel msg base).2 := by
  unfold handleCancel
  split
  · rename_i huser
    exact .declined (Or.inl htype) (fun howns => huser howns.2) (Or.inl rfl)
      (by simp [rejectTo, NavigationControl.IsAnswer, NavigationControl.IsRejection]) (.refl gm)
  · rename_i huser
    split
    · rename_i hidle
      exact .declined (Or.inl htype) (fun howns => by simp [howns.1] at hidle) (Or.inr rfl)
        (by simp [errorTo, NavigationControl.IsAnswer, NavigationControl.IsRejection]) (.refl gm)
    · rename_i hactive
      have hactive := active_of_not_idle hactive
      exact .cancelled htype ⟨hactive, not_not.mp huser⟩ rfl rfl rfl rfl rfl

theorem handlePause_handled (htype : msg.type = .pause) :
    Handled gm msg readings [] (gm.handlePause msg base).1 (gm.handlePause msg base).2 := by
  unfold handlePause
  split
  · rename_i hidle
    exact .declined (Or.inr (Or.inl htype)) (fun howns => by simp [howns.1] at hidle)
      (Or.inl rfl)
      (by simp [rejectTo, NavigationControl.IsAnswer, NavigationControl.IsRejection]) (.refl gm)
  · exact .reported (Or.inl htype) (Or.inr (Or.inl rfl)) ⟨rfl, rfl, rfl⟩

theorem handleResume_handled (htype : msg.type = .resume) :
    Handled gm msg readings [] (gm.handleResume msg base).1 (gm.handleResume msg base).2 := by
  unfold handleResume
  split
  · rename_i hidle
    exact .declined (Or.inr (Or.inr htype)) (fun howns => by simp [howns.1] at hidle)
      (Or.inl rfl)
      (by simp [rejectTo, NavigationControl.IsAnswer, NavigationControl.IsRejection]) (.refl gm)
  · exact .reported (Or.inr htype) (Or.inr (Or.inr rfl)) ⟨rfl, rfl, rfl⟩

theorem handleRequest_isResponse (now : Time) :
    IsResponse msg (gm.handleRequest msg (response msg now) readings).2.2 := by
  unfold handleRequest
  split
  · exact ⟨rfl, rfl, rfl⟩
  · split
    · exact ⟨rfl, rfl, rfl⟩
    · split
      · split <;> exact ⟨rfl, rfl, rfl⟩
      · exact ⟨rfl, rfl, rfl⟩

theorem handleCancel_isResponse (now : Time) :
    IsResponse msg (gm.handleCancel msg (response msg now)).2 := by
  unfold handleCancel
  split
  · exact ⟨rfl, rfl, rfl⟩
  · rename_i huser
    split
    · exact ⟨rfl, rfl, rfl⟩
    · exact ⟨rfl, rfl, not_not.mp huser⟩

theorem handlePause_isResponse (now : Time) :
    IsResponse msg (gm.handlePause msg (response msg now)).2 := by
  unfold handlePause
  split <;> exact ⟨rfl, rfl, rfl⟩

theorem handleResume_isResponse (now : Time) :
    IsResponse msg (gm.handleResume msg (response msg now)).2 := by
  unfold handleResume
  split <;> exact ⟨rfl, rfl, rfl⟩

theorem controlCallback_of_self (h : msg.userId = id) :
    gm.controlCallback msg readings = (gm, []) := by
  unfold controlCallback
  rw [if_pos h]

theorem controlCallback_handled (h : msg.userId ≠ id) :
    ∃ notices response, (gm.controlCallback msg readings).2 = notices ++ [response] ∧
      IsResponse msg response ∧
      Handled gm msg readings notices (gm.controlCallback msg readings).1 response := by
  have hkeep : ∀ {notices gm' response}, Handled gm msg readings notices gm' response →
      Handled gm msg readings notices { gm' with lastControl := msg } response := by
    rintro notices gm' response hhandled
    cases hhandled with
    | accepted h1 h2 h3 h4 h5 h6 => exact .accepted h1 h2 h3 h4 h5 h6
    | refused h1 h2 h3 => exact .refused h1 h2 ⟨h3.1, h3.2, h3.3⟩
    | cancelled h1 h2 h3 h4 h5 h6 h7 => exact .cancelled h1 h2 h3 h4 h5 h6 h7
    | reported h1 h2 h3 => exact .reported h1 h2 ⟨h3.1, h3.2, h3.3⟩
    | declined h1 h2 h3 h4 h5 => exact .declined h1 h2 h3 h4 ⟨h5.1, h5.2, h5.3⟩
    | unknown h1 h2 h3 => exact .unknown h1 h2 ⟨h3.1, h3.2, h3.3⟩
  have hunknown : ∀ response : NavigationControl, ¬ IsKnown msg.type → response.type = .error →
      Handled gm msg readings [] { gm with lastControl := msg } response :=
    fun response htype hresponse => .unknown htype hresponse ⟨rfl, rfl, rfl⟩
  unfold controlCallback
  rw [if_neg h]
  dsimp only
  split
  · rename_i htype
    exact ⟨_, _, rfl, handleRequest_isResponse _ _ _ _,
      hkeep (handleRequest_handled _ _ _ _ htype)⟩
  · rename_i htype
    exact ⟨_, _, rfl, handleCancel_isResponse _ _ _,
      hkeep (handleCancel_handled _ _ _ _ htype)⟩
  · rename_i htype
    exact ⟨_, _, rfl, handlePause_isResponse _ _ _, hkeep (handlePause_handled _ _ _ _ htype)⟩
  · rename_i htype
    exact ⟨_, _, rfl, handleResume_isResponse _ _ _,
      hkeep (handleResume_handled _ _ _ _ htype)⟩
  · rename_i hrequest hcancel hpause hresume
    refine ⟨_, _, rfl, ⟨rfl, rfl, rfl⟩, hunknown _ ?_ rfl⟩
    rintro (htype | htype | htype | htype)
    · exact hrequest htype
    · exact hcancel htype
    · exact hpause htype
    · exact hresume htype

end Handling

theorem setEnded_isTerminal {type : ControlType} (gm : GoalManager) (statusMessage : String)
    (now : Time) (htype : type = .finished ∨ type = .error ∨ type = .failed) :
    (gm.setEnded type statusMessage now).2.IsTerminal := by
  rcases htype with rfl | rfl | rfl
  · exact Or.inl rfl
  · exact Or.inr (Or.inr (Or.inl rfl))
  · exact Or.inr (Or.inl rfl)

/-- What an update can do to the mission, and what it publishes. `next` are the goals
left once the first one is taken if it is reached. -/
inductive Updated (gm : GoalManager) (getYaw : Quaternion → Double) (nav : NavState) :
    GoalManager → List NavigationControl → Prop
  | idle {gm' : GoalManager} (hstate : gm.state = .idle) (hstate' : gm'.state = .idle)
      (hclient : gm'.currentClientId = gm.currentClientId) : Updated gm getYaw nav gm' []
  | waiting {gm' : GoalManager} (hstate : gm.state = .active) (hsame : SameMission gm' gm)
      (hwaiting : nav.robotPose = none ∨ gm.goals.goals = []) : Updated gm getYaw nav gm' []
  | navigating {odom : Odometry} {gm' : GoalManager} {reported : List NavigationControl}
      (hstate : gm.state = .active) (hpose : nav.robotPose = some odom)
      (hreported : ∀ msg ∈ reported, msg.type = .feedback ∧ msg.userId = id ∧
        msg.navCurrentUserId = gm.currentClientId)
      (hgoals : gm'.goals = (gm.progress getYaw odom.pose).goals)
      (hnonempty : gm'.goals.goals ≠ []) (howns : gm'.Owns gm.currentClientId) :
      Updated gm getYaw nav gm' reported
  | finished {odom : Odometry} {gm' : GoalManager} {reported : List NavigationControl}
      {msg : NavigationControl} (hstate : gm.state = .active)
      (hpose : nav.robotPose = some odom)
      (hreported : ∀ msg ∈ reported, msg.type = .feedback ∧ msg.userId = id ∧
        msg.navCurrentUserId = gm.currentClientId)
      (hnonempty : gm.goals.goals ≠ [])
      (hdone : (gm.progress getYaw odom.pose).goals.goals = [])
      (hstate' : gm'.state = .idle) (hclient : gm'.currentClientId = gm.currentClientId)
      (hgoals' : gm'.goals.goals = [])
      (hmsg : msg.type = .finished ∧ msg.userId = id ∧
        msg.navCurrentUserId = gm.currentClientId) :
      Updated gm getYaw nav gm' (reported ++ [msg])

/-- What a control message does to the manager, apart from the record of it. -/
inductive Commanded (gm : GoalManager) (msg : NavigationControl) : GoalManager → Prop
  | kept : Commanded gm msg gm
  | accepted (start : Time) (revision : UInt64) (hgoals : msg.goals.goals ≠ []) :
      Commanded gm msg
        { gm with
          navStartTime := start
          goals := msg.goals
          goalsRevision := revision
          goalsSyncedEmpty := false
          paused := false
          currentClientId := msg.userId
          info := {}
          infoFinalPending := true
          state := .active }
  | cancelled (hactive : gm.state = .active) : Commanded gm msg
      { gm with
        goals := { gm.goals with goals := [] }
        goalsRevision := gm.goalsRevision + 1
        state := .idle
        paused := false }
  | paused (paused : Bool) (hactive : gm.state = .active) :
      Commanded gm msg { gm with paused := paused }

theorem handleRequest_commanded (gm : GoalManager) (msg base : NavigationControl)
    (readings : ControlReadings) :
    Commanded gm msg (gm.handleRequest msg base readings).2.1 := by
  unfold handleRequest
  split
  · exact .kept
  · rename_i hgoals
    have hgoals : msg.goals.goals ≠ [] := by simpa using hgoals
    split
    · exact .accepted readings.accepted _ hgoals
    · split
      · split
        · exact .accepted readings.accepted _ hgoals
        · exact .accepted readings.accepted _ hgoals
      · exact .kept

theorem handleCancel_commanded (gm : GoalManager) (msg base : NavigationControl) :
    Commanded gm msg (gm.handleCancel msg base).1 := by
  unfold handleCancel
  split
  · exact .kept
  · split
    · exact .kept
    · rename_i hactive
      exact .cancelled (active_of_not_idle hactive)

theorem handlePause_commanded (gm : GoalManager) (msg base : NavigationControl) :
    Commanded gm msg (gm.handlePause msg base).1 := by
  unfold handlePause
  split
  · exact .kept
  · rename_i hactive
    exact .paused true (active_of_not_idle hactive)

theorem handleResume_commanded (gm : GoalManager) (msg base : NavigationControl) :
    Commanded gm msg (gm.handleResume msg base).1 := by
  unfold handleResume
  split
  · exact .kept
  · rename_i hactive
    exact .paused false (active_of_not_idle hactive)

/-- Whatever a control message leaves, it comes from the manager by a command. -/
theorem controlCallback_commanded (gm : GoalManager) (msg : NavigationControl)
    (readings : ControlReadings) :
    (gm.controlCallback msg readings).1 = gm ∨ ∃ gm', Commanded gm msg gm' ∧
      (gm.controlCallback msg readings).1 = { gm' with lastControl := msg } := by
  unfold controlCallback
  split
  · exact Or.inl rfl
  · refine Or.inr ?_
    dsimp only
    split
    · exact ⟨_, handleRequest_commanded _ _ _ _, rfl⟩
    · exact ⟨_, handleCancel_commanded _ _ _, rfl⟩
    · exact ⟨_, handlePause_commanded _ _ _, rfl⟩
    · exact ⟨_, handleResume_commanded _ _ _, rfl⟩
    · exact ⟨gm, .kept, rfl⟩

theorem controlCallback_sameSettings (gm : GoalManager) (msg : NavigationControl)
    (readings : ControlReadings) :
    SameSettings (gm.controlCallback msg readings).1 gm := by
  rcases gm.controlCallback_commanded msg readings with h | ⟨gm', hgm', h⟩
  · rw [h]
    exact .refl gm
  · rw [h]
    cases hgm' <;> exact ⟨rfl, rfl⟩

section Updating

variable (gm : GoalManager)

theorem publishFinalInfo_same (subscribed : Bool) :
    SameMission (gm.publishFinalInfo subscribed).1 gm ∧
      SameSettings (gm.publishFinalInfo subscribed).1 gm := by
  unfold publishFinalInfo
  split <;> exact ⟨⟨rfl, rfl, rfl⟩, ⟨rfl, rfl⟩⟩

theorem publishInfo_same (publishing subscribed : Bool) :
    SameMission (gm.publishInfo publishing subscribed).1 gm ∧
      SameSettings (gm.publishInfo publishing subscribed).1 gm := by
  unfold publishInfo
  split
  · exact gm.publishFinalInfo_same subscribed
  · split <;> exact ⟨⟨rfl, rfl, rfl⟩, ⟨rfl, rfl⟩⟩

theorem syncState_same (nav : NavState) :
    SameMission (gm.syncState nav).1 gm ∧ SameSettings (gm.syncState nav).1 gm ∧
      (gm.syncState nav).2.robotPose = nav.robotPose := by
  unfold syncState
  split <;> exact ⟨⟨rfl, rfl, rfl⟩, ⟨rfl, rfl⟩, rfl⟩

theorem syncPaused_same (nav : NavState) :
    SameMission (gm.syncPaused nav).1 gm ∧ SameSettings (gm.syncPaused nav).1 gm ∧
      (gm.syncPaused nav).2.robotPose = nav.robotPose := by
  unfold syncPaused
  split <;> exact ⟨⟨rfl, rfl, rfl⟩, ⟨rfl, rfl⟩, rfl⟩

theorem updateInfo_same (positionDistance : Hypotenuse ℚ) (angleDistance : Double) :
    SameMission (gm.updateInfo positionDistance angleDistance) gm ∧
      SameSettings (gm.updateInfo positionDistance angleDistance) gm :=
  ⟨⟨rfl, rfl, rfl⟩, ⟨rfl, rfl⟩⟩

theorem publishFeedback_same (odom : Odometry) (firstGoal : Pose) (readings : UpdateReadings) :
    SameMission (gm.publishFeedback (gm.feedback odom firstGoal readings) readings).1 gm ∧
      SameSettings (gm.publishFeedback (gm.feedback odom firstGoal readings) readings).1 gm ∧
      ∀ msg ∈ (gm.publishFeedback (gm.feedback odom firstGoal readings) readings).2,
        msg.type = .feedback ∧ msg.userId = id ∧ msg.navCurrentUserId = gm.currentClientId := by
  unfold publishFeedback
  split
  · refine ⟨⟨rfl, rfl, rfl⟩, ⟨rfl, rfl⟩, ?_⟩
    rintro msg hmsg
    rw [List.mem_singleton.mp hmsg]
    exact ⟨rfl, rfl, rfl⟩
  · exact ⟨⟨rfl, rfl, rfl⟩, ⟨rfl, rfl⟩, by simp⟩

variable (getYaw : Quaternion → Double)

/-- Only the goals change, by the first one at most, and only where they may. -/
theorem progress_cases (pose : Pose) :
    gm.progress getYaw pose = gm ∨
      ∃ firstGoal goals, gm.goals.goals = firstGoal :: goals ∧ gm.progressHeld = false ∧
        reaches getYaw pose firstGoal.pose gm.goalTolerance = true ∧
        gm.progress getYaw pose =
          { gm with
            goals := { gm.goals with goals := goals }
            goalsRevision := gm.goalsRevision + 1 } := by
  unfold progress checkGoals
  split
  · exact Or.inl rfl
  · rename_i hheld
    split
    · exact Or.inl rfl
    · rename_i firstGoal goals hgoals
      split
      · rename_i hreaches
        exact Or.inr ⟨firstGoal, goals, hgoals, by simpa using hheld, hreaches, rfl⟩
      · exact Or.inl rfl

theorem progress_same (pose : Pose) :
    (gm.progress getYaw pose).state = gm.state ∧
      (gm.progress getYaw pose).currentClientId = gm.currentClientId ∧
      SameSettings (gm.progress getYaw pose) gm := by
  rcases gm.progress_cases getYaw pose with h | ⟨firstGoal, goals, -, -, -, h⟩ <;> rw [h] <;>
    exact ⟨rfl, rfl, rfl, rfl⟩

theorem progress_goals_congr {a b : GoalManager} (hmission : SameMission a b)
    (hsettings : SameSettings a b) (pose : Pose) :
    (a.progress getYaw pose).goals = (b.progress getYaw pose).goals := by
  unfold progress checkGoals
  rw [hsettings.progressHeld, hsettings.goalTolerance, hmission.goals]
  split
  · exact hmission.goals
  · split
    · exact hmission.goals
    · split
      · rfl
      · exact hmission.goals

theorem finishIfDone_cases (now : Time) :
    (gm.goals.goals ≠ [] ∧ gm.finishIfDone now = (gm, [])) ∨
      (gm.goals.goals = [] ∧
        gm.finishIfDone now = ((gm.setFinished now).1, [(gm.setFinished now).2])) := by
  unfold finishIfDone
  split
  · rename_i hempty
    exact Or.inr ⟨by simpa using hempty, rfl⟩
  · rename_i hnonempty
    exact Or.inl ⟨by simpa using hnonempty, rfl⟩

theorem updateActive_updated {gm₀ : GoalManager} (hmission : SameMission gm gm₀)
    (hsettings : SameSettings gm gm₀) (hactive : gm₀.state = .active)
    (hnonempty : gm₀.goals.goals ≠ []) {nav nav₀ : NavState} {odom : Odometry}
    (hpose : nav₀.robotPose = some odom) (firstGoal : Pose) (readings : UpdateReadings) :
    Updated gm₀ getYaw nav₀ (gm.updateActive getYaw nav odom firstGoal readings).1
      (gm.updateActive getYaw nav odom firstGoal readings).2.2.control := by
  obtain ⟨hfeedback, hfeedback', hreported⟩ :=
    gm.publishFeedback_same odom firstGoal readings
  unfold updateActive
  dsimp only
  set published := gm.publishFeedback (gm.feedback odom firstGoal readings) readings
  rw [hmission.currentClientId] at hreported
  set informed := published.1.updateInfo (gm.feedback odom firstGoal readings).distanceToGoal
    (calculateAngle getYaw odom.pose firstGoal)
  obtain ⟨hinfo, hinfo'⟩ := published.1.updateInfo_same
    (gm.feedback odom firstGoal readings).distanceToGoal
    (calculateAngle getYaw odom.pose firstGoal)
  have hinformed := (hinfo.trans hfeedback).trans hmission
  have hinformed' := (hinfo'.trans hfeedback').trans hsettings
  have hgoals := progress_goals_congr getYaw hinformed hinformed' odom.pose
  obtain ⟨hstate, hclient, -⟩ := informed.progress_same getYaw odom.pose
  rw [hinformed.state, hactive] at hstate
  rw [hinformed.currentClientId] at hclient
  set progressed := informed.progress getYaw odom.pose
  rcases progressed.finishIfDone_cases readings.finished with ⟨hleft, hfinish⟩ | ⟨hdone, hfinish⟩
  · rw [hfinish]
    dsimp only
    have hsync := (progressed.syncState_same (progressed.syncGoals nav)).1
    have hinfo := ((progressed.syncState (progressed.syncGoals nav)).1.publishInfo_same
      (gm.shouldPublish readings) readings.subscribed).1.trans hsync
    rw [List.append_nil]
    refine .navigating hactive hpose hreported (hinfo.goals.trans hgoals) ?_
      ⟨hinfo.state.trans hstate, hinfo.currentClientId.trans hclient⟩
    rw [hinfo.goals]
    exact hleft
  · rw [hfinish]
    dsimp only
    have hsync := ((progressed.setFinished readings.finished).1.syncState_same
      (progressed.syncGoals nav)).1
    have hinfo := (((progressed.setFinished readings.finished).1.syncState
      (progressed.syncGoals nav)).1.publishInfo_same
      (gm.shouldPublish readings) readings.subscribed).1.trans hsync
    exact .finished hactive hpose hreported hnonempty (by rw [← hgoals]; exact hdone)
      hinfo.state (hinfo.currentClientId.trans hclient) (by rw [hinfo.goals]; rfl)
      ⟨rfl, rfl, hclient⟩

theorem finishIfDone_sameSettings (now : Time) : SameSettings (gm.finishIfDone now).1 gm := by
  rcases gm.finishIfDone_cases now with ⟨-, h⟩ | ⟨-, h⟩ <;> rw [h] <;> exact ⟨rfl, rfl⟩

theorem update_sameSettings (nav : NavState) (readings : UpdateReadings) :
    SameSettings (gm.update getYaw nav readings).1 gm := by
  obtain ⟨-, hstate, -⟩ := gm.syncState_same nav
  obtain ⟨-, hpaused, -⟩ := (gm.syncState nav).1.syncPaused_same (gm.syncState nav).2
  unfold update
  dsimp only
  set synced := (gm.syncState nav).1.syncPaused (gm.syncState nav).2
  have hsynced : SameSettings synced.1 gm := hpaused.trans hstate
  split
  · obtain ⟨-, hinfo⟩ := synced.1.publishFinalInfo_same readings.subscribed
    unfold updateIdle
    dsimp only
    split
    · exact hinfo.trans hsynced
    · exact SameSettings.trans ⟨hinfo.1, hinfo.2⟩ hsynced
  · split
    · exact hsynced
    · rename_i odom firstGoal goals _ _
      obtain ⟨-, hreported, -⟩ := synced.1.publishFeedback_same odom firstGoal.pose readings
      obtain ⟨-, -, hprogress⟩ := ((synced.1.publishFeedback
        (synced.1.feedback odom firstGoal.pose readings) readings).1.updateInfo
        (synced.1.feedback odom firstGoal.pose readings).distanceToGoal
        (calculateAngle getYaw odom.pose firstGoal.pose)).progress_same getYaw odom.pose
      unfold updateActive
      dsimp only
      refine (publishInfo_same _ _ _).2.trans ((syncState_same _ _).2.1.trans
        ((finishIfDone_sameSettings _ _).trans (hprogress.trans ?_)))
      exact (updateInfo_same _ _ _).2.trans (hreported.trans hsynced)
    · exact hsynced

theorem update_updated (nav : NavState) (readings : UpdateReadings) :
    Updated gm getYaw nav (gm.update getYaw nav readings).1
      (gm.update getYaw nav readings).2.2.control := by
  obtain ⟨hstate, hstate', hpose⟩ := gm.syncState_same nav
  obtain ⟨hpaused, hpaused', hpose'⟩ :=
    (gm.syncState nav).1.syncPaused_same (gm.syncState nav).2
  unfold update
  dsimp only
  set synced := (gm.syncState nav).1.syncPaused (gm.syncState nav).2
  have hmission := hpaused.trans hstate
  have hrobotPose : (synced.1.publishTolerances synced.2).robotPose = nav.robotPose :=
    hpose'.trans hpose
  split
  · rename_i hidle
    rw [hmission.state] at hidle
    obtain ⟨hinfo, -⟩ := synced.1.publishFinalInfo_same readings.subscribed
    have hinfo := hinfo.trans hmission
    unfold updateIdle
    dsimp only
    split
    · exact .idle hidle (hinfo.state.trans hidle) hinfo.currentClientId
    · exact .idle hidle (hinfo.state.trans hidle) hinfo.currentClientId
  · rename_i hactive
    rw [hmission.state] at hactive
    split
    · rename_i hnone
      exact .waiting hactive hmission (Or.inl (hrobotPose.symm.trans hnone))
    · rename_i odom firstGoal goals hsome hgoals
      rw [hmission.goals] at hgoals
      exact synced.1.updateActive_updated getYaw hmission (hpaused'.trans hstate') hactive
        (by rw [hgoals]; exact List.cons_ne_nil _ _) (hrobotPose.symm.trans hsome) _ _
    · rename_i hsome hgoals
      exact .waiting hactive hmission (Or.inr (by rw [← hmission.goals]; exact hgoals))

end Updating

end GoalManager

/-- Everything that happens to the goal manager but control messages. -/
inductive Operation where
  | goalPose (pose : PoseStamped) (readings : ControlReadings)
  | setFinished (now : Time)
  | setError (reason : String) (now : Time)
  | setFailed (reason : String) (now : Time)
  | setProgressHeld (held : Bool)
  | readParameters (params : GoalParameters) (nav : NavState)
  | update (nav : NavState) (readings : UpdateReadings)

inductive Event where
  | control (msg : NavigationControl) (readings : ControlReadings)
  | operation (op : Operation)

namespace GoalManager

def perform (gm : GoalManager) (getYaw : Quaternion → Double) :
    Operation → GoalManager × List NavigationControl
  | .goalPose pose readings => gm.comandedPoseCallback pose readings
  | .setFinished now => ((gm.setFinished now).1, [(gm.setFinished now).2])
  | .setError reason now => ((gm.setError reason now).1, [(gm.setError reason now).2])
  | .setFailed reason now => ((gm.setFailed reason now).1, [(gm.setFailed reason now).2])
  | .setProgressHeld held => (gm.setProgressHeld held, [])
  | .readParameters params nav => ((gm.readParameters params nav).1, [])
  | .update nav readings =>
      ((gm.update getYaw nav readings).1, (gm.update getYaw nav readings).2.2.control)

def handle (gm : GoalManager) (getYaw : Quaternion → Double) :
    Event → GoalManager × List NavigationControl
  | .control msg readings => gm.controlCallback msg readings
  | .operation op => gm.perform getYaw op

/-- The control message that an event brings, with its clock readings. -/
def command (gm : GoalManager) : Event → Option (NavigationControl × ControlReadings)
  | .control msg readings => some (msg, readings)
  | .operation (.goalPose pose readings) => some (gm.poseRequest pose, readings)
  | .operation _ => none

theorem handle_goalTolerance (gm : GoalManager) (getYaw : Quaternion → Double) (e : Event) :
    (gm.handle getYaw e).1.goalTolerance = gm.goalTolerance ∨
      ∃ params nav, e = .operation (.readParameters params nav) ∧
        (gm.handle getYaw e).1.goalTolerance = params.goalTolerance := by
  cases e with
  | control msg readings =>
      exact Or.inl (gm.controlCallback_sameSettings msg readings).goalTolerance
  | operation op =>
      cases op with
      | goalPose pose readings =>
          exact Or.inl (gm.controlCallback_sameSettings _ readings).goalTolerance
      | readParameters params nav => exact Or.inr ⟨params, nav, rfl, rfl⟩
      | update nav readings =>
          exact Or.inl (gm.update_sameSettings getYaw nav readings).goalTolerance
      | _ => exact Or.inl rfl

theorem handle_progressHeld (gm : GoalManager) (getYaw : Quaternion → Double) {e : Event}
    (h : ∀ held, e ≠ .operation (.setProgressHeld held)) :
    (gm.handle getYaw e).1.progressHeld = gm.progressHeld := by
  cases e with
  | control msg readings => exact (gm.controlCallback_sameSettings msg readings).progressHeld
  | operation op =>
      cases op with
      | goalPose pose readings => exact (gm.controlCallback_sameSettings _ readings).progressHeld
      | setProgressHeld held => exact absurd rfl (h held)
      | update nav readings => exact (gm.update_sameSettings getYaw nav readings).progressHeld
      | _ => rfl

theorem handle_of_command {gm : GoalManager} {getYaw : Quaternion → Double} {e : Event}
    {msg : NavigationControl} {readings : ControlReadings}
    (h : gm.command e = some (msg, readings)) :
    gm.handle getYaw e = gm.controlCallback msg readings := by
  unfold command at h
  split at h
  · obtain ⟨rfl, rfl⟩ := Prod.ext_iff.mp (Option.some.inj h)
    rfl
  · obtain ⟨rfl, rfl⟩ := Prod.ext_iff.mp (Option.some.inj h)
    rfl
  · contradiction

end GoalManager

end EasyNav.MissionServer
