import EasyNav.ChangeReports
import EasyNav.MissionInvariant
import EasyNav.PluginContainment

namespace EasyNav.PlannedPaths

open EasyNav.DoubleArithmetic
open EasyNav.NavigationState
open EasyNav.MissionServer
open EasyNav.MissionServer.GoalManager
open EasyNav.ChangeReports
open EasyNav.Runs
open EasyNav.PluginContainment (Thrown Attempt)

structure Path where
  header : Header := {}
  poses : List PoseStamped := []
  deriving DecidableEq

def Path.isFinite (path : Path) : Bool := path.poses.all fun pose => pose.pose.isFinite

/-- Nothing to follow of a path that is not finite: controllers stop. -/
def Path.followable (path : Path) : Path :=
  if path.isFinite then path else { path with poses := [] }

structure Shared where
  nav : NavState := {}
  path : Option Path := none

structure PluginCycle where
  reportRate : Shared → Shared := id
  timeToRun : Bool := true
  update : Shared → Attempt Shared Unit := fun shared => (shared, .ok ())

namespace PluginCycle

def forceUpdate (plugin : PluginCycle) (shared : Shared) : Attempt Shared Unit :=
  (plugin.update shared).catchAll fun shared => (shared, .ok ())

/-- `PlannerMethodBase::internal_update`, and that of the maps managers -/
def internalUpdate (plugin : PluginCycle) (shared : Shared) : Attempt Shared Unit :=
  let shared := plugin.reportRate shared
  if plugin.timeToRun then plugin.forceUpdate shared else (shared, .ok ())

end PluginCycle

/-- One cycle of the localizer plugin; `lastKnown` has what its first run looks at. -/
structure LocalizerCycle extends PluginCycle where
  lastKnown : PluginContainment.LocalizerCycle := {}

def LocalizerCycle.internalUpdate (localizer : LocalizerCycle) (mapFrame : String)
    (shared : Shared) : Attempt Shared Unit :=
  let shared := localizer.reportRate shared
  if localizer.timeToRun then
    let (nav, checked) := localizer.lastKnown.checkLastKnownPose mapFrame shared.nav
    Attempt.andThen ({ shared with nav := nav }, checked) fun shared _ =>
      (localizer.update shared).catchAll fun shared => (shared, .ok ())
  else (shared, .ok ())

/-- What the components do in one cycle. The recovery system may act on the mission too. -/
structure Components where
  mapFrame : String := "map"
  sensors : Shared → Attempt Shared Unit := fun shared => (shared, .ok ())
  localizer : Option LocalizerCycle := none
  mapsManagers : List PluginCycle := []
  planner : Option PluginCycle := none
  recovery : Option (GoalManager × Shared → Attempt (GoalManager × Shared) Unit) := none

structure SystemNode where
  goalManager : GoalManager := {}
  shared : Shared := {}
  plannedGoalsRevision : UInt64 := 0
  lastPathFinite : Option Bool := none

namespace SystemNode

variable (system : SystemNode)

def onShared (run : Shared → Attempt Shared Unit) : Attempt SystemNode Unit :=
  ({ system with shared := (run system.shared).1 }, (run system.shared).2)

def localizerCycle (components : Components) : Attempt SystemNode Unit :=
  match components.localizer with
  | none => (system, .ok ())
  | some localizer => system.onShared (localizer.internalUpdate components.mapFrame)

def mapsManagerCycle : List PluginCycle → SystemNode → Attempt SystemNode Unit
  | [], system => (system, .ok ())
  | manager :: managers, system =>
      (system.onShared manager.internalUpdate).andThen fun system _ =>
        mapsManagerCycle managers system

def updateGoals (getYaw : Quaternion → Double) (readings : UpdateReadings) : SystemNode :=
  let (gm, nav, _) := system.goalManager.update getYaw system.shared.nav readings
  { system with goalManager := gm, shared := { system.shared with nav := nav } }

/-- Whether there are goals that nothing was planned for yet. -/
def noticeGoals : SystemNode × Bool :=
  ({ system with plannedGoalsRevision := system.goalManager.goalsRevision },
    decide (system.goalManager.goalsRevision ≠ system.plannedGoalsRevision))

def beforePlanner (getYaw : Quaternion → Double) (components : Components)
    (readings : UpdateReadings) : Attempt SystemNode Bool :=
  (system.onShared components.sensors).andThen fun system _ =>
    (system.localizerCycle components).andThen fun system _ =>
      (mapsManagerCycle components.mapsManagers system).andThen fun system _ =>
        let (system, newGoals) := (system.updateGoals getYaw readings).noticeGoals
        (system, .ok newGoals)

def pathDiagnostic (finite : Bool) : DiagnosticStatus :=
  let base : DiagnosticStatus := { name := "path", hardwareId := "planner" }
  if finite then { base with level := .ok, message := "Path finite" }
  else
    { base with
      level := .error, message := "The planner produced a non-finite path: discarded" }

def checkPath : SystemNode :=
  match system.shared.path with
  | none => system
  | some path =>
      let system := { system with shared := { system.shared with path := some path.followable } }
      -- Nothing to report until something goes wrong; then, only changes.
      if system.lastPathFinite = some path.isFinite ∨
          system.lastPathFinite = none ∧ path.isFinite = true then
        system
      else
        { system with
          lastPathFinite := some path.isFinite
          shared := { system.shared with
            nav := system.shared.nav.setDiagnostic "path" (pathDiagnostic path.isFinite) } }

def plan (planner : PluginCycle) (trigger : Bool) : Attempt SystemNode Unit :=
  if trigger then system.onShared planner.forceUpdate
  else system.onShared planner.internalUpdate

def plannerCycle (components : Components) (trigger : Bool) : Attempt SystemNode Unit :=
  match components.planner with
  | none => (system, .ok ())
  | some planner =>
      (system.plan planner trigger).andThen fun system _ => (system.checkPath, .ok ())

def recoveryCycle (components : Components) : Attempt SystemNode Unit :=
  match components.recovery with
  | none => (system, .ok ())
  | some update =>
      let (state, result) :=
        (update (system.goalManager, system.shared)).catchStd fun state => (state, .ok ())
      ({ system with goalManager := state.1, shared := state.2 }, result)

def beforeRecovery (getYaw : Quaternion → Double) (components : Components)
    (readings : UpdateReadings) : Attempt SystemNode Unit :=
  (system.beforePlanner getYaw components readings).andThen fun system newGoals =>
    system.plannerCycle components newGoals

def systemCycle (getYaw : Quaternion → Double) (components : Components)
    (readings : UpdateReadings) : Attempt SystemNode Unit :=
  (system.beforeRecovery getYaw components readings).andThen fun system _ =>
    system.recoveryCycle components

end SystemNode

def pathReporting : Reporting Bool DiagnosticStatus where
  same last found := last = found
  quiet finite := finite = true
  renders finite diagnostic := diagnostic = SystemNode.pathDiagnostic finite
  renders_of_same := by
    rintro a b d rfl h
    exact h

def pathBoard (system : SystemNode) : Board Bool DiagnosticStatus :=
  ⟨system.lastPathFinite, system.shared.nav.diagnostics "path"⟩

structure SamePath (a b : Shared) : Prop where
  path : a.path = b.path
  shown : a.nav.diagnostics "path" = b.nav.diagnostics "path"

theorem SamePath.refl (shared : Shared) : SamePath shared shared := ⟨rfl, rfl⟩

theorem SamePath.trans {a b c : Shared} (hab : SamePath a b) (hbc : SamePath b c) :
    SamePath a c :=
  ⟨hab.path.trans hbc.path, hab.shown.trans hbc.shown⟩

structure PluginCycle.LeavesPath (plugin : PluginCycle) : Prop where
  reportRate : ∀ shared, SamePath (plugin.reportRate shared) shared
  update : ∀ shared, SamePath (plugin.update shared).1 shared

/-- Only the planner writes the path, and only its node what is shown of it. -/
structure Components.LeavePath (components : Components) : Prop where
  sensors : ∀ shared, SamePath (components.sensors shared).1 shared
  localizer : ∀ localizer ∈ components.localizer, localizer.LeavesPath
  mapsManagers : ∀ manager ∈ components.mapsManagers, manager.LeavesPath
  plannerRate : ∀ planner ∈ components.planner, ∀ shared,
    SamePath (planner.reportRate shared) shared
  plannerUpdate : ∀ planner ∈ components.planner, ∀ shared,
    (planner.update shared).1.nav.diagnostics "path" = shared.nav.diagnostics "path"
  recovery : ∀ update ∈ components.recovery, ∀ state, SamePath (update state).1.2 state.2

/-- What the cycles promise of the path whenever none is running. -/
structure Guarded (system : SystemNode) : Prop where
  finite : ∀ path ∈ system.shared.path, path.isFinite = true
  faithful : pathReporting.Faithful (pathBoard system)
  unshown : (pathBoard system).last = none → (pathBoard system).shown = none

structure SameReport (a b : SystemNode) : Prop where
  shared : SamePath a.shared b.shared
  lastPathFinite : a.lastPathFinite = b.lastPathFinite

theorem SameReport.refl (system : SystemNode) : SameReport system system := ⟨.refl _, rfl⟩

theorem SameReport.trans {a b c : SystemNode} (hab : SameReport a b) (hbc : SameReport b c) :
    SameReport a c :=
  ⟨hab.shared.trans hbc.shared, hab.lastPathFinite.trans hbc.lastPathFinite⟩

theorem SameReport.pathBoard_eq {a b : SystemNode} (h : SameReport a b) :
    pathBoard a = pathBoard b := by
  rw [pathBoard, pathBoard, h.shared.shown, h.lastPathFinite]

theorem Guarded.of_same {a b : SystemNode} (h : Guarded b) (hsame : SameReport a b) :
    Guarded a := by
  constructor
  · rw [hsame.shared.path]
    exact h.finite
  · rw [hsame.pathBoard_eq]
    exact h.faithful
  · rw [hsame.pathBoard_eq]
    exact h.unshown

section Plugins

variable {plugin : PluginCycle} {shared : Shared}

theorem forceUpdate_eq (plugin : PluginCycle) (shared : Shared) :
    plugin.forceUpdate shared = ((plugin.update shared).1, .ok ()) := by
  rw [PluginCycle.forceUpdate]
  rcases plugin.update shared with ⟨shared', result⟩
  cases result with
  | error thrown => rfl
  | ok u => rfl

theorem internalUpdate_returns (plugin : PluginCycle) (shared : Shared) :
    (plugin.internalUpdate shared).2 = .ok () := by
  rw [PluginCycle.internalUpdate]
  split
  · rw [forceUpdate_eq]
  · rfl

theorem internalUpdate_induction {motive : Shared → Prop}
    (hrate : motive (plugin.reportRate shared))
    (hupdate : ∀ shared, motive shared → motive (plugin.update shared).1) :
    motive (plugin.internalUpdate shared).1 := by
  rw [PluginCycle.internalUpdate]
  split
  · rw [forceUpdate_eq]
    exact hupdate _ hrate
  · exact hrate

theorem internalUpdate_same (h : plugin.LeavesPath) (shared : Shared) :
    SamePath (plugin.internalUpdate shared).1 shared := by
  apply internalUpdate_induction (motive := fun shared' => SamePath shared' shared)
  · exact h.reportRate shared
  · intro shared' hsame
    exact (h.update shared').trans hsame

theorem checkLastKnownPose_eq (localizer : PluginContainment.LocalizerCycle) (mapFrame : String)
    (nav : NavState) : localizer.checkLastKnownPose mapFrame nav = (nav, .ok ()) := by
  rw [PluginContainment.LocalizerCycle.checkLastKnownPose]
  split
  · rfl
  · split
    · cases localizer.onLastKnownPose _ with
      | error thrown => rfl
      | ok u => rfl
    · rfl

/-- The localizer's update is that of any plugin, once the last known pose was looked at. -/
theorem localizer_internalUpdate_eq (localizer : LocalizerCycle) (mapFrame : String)
    (shared : Shared) :
    localizer.internalUpdate mapFrame shared = localizer.toPluginCycle.internalUpdate shared := by
  rw [LocalizerCycle.internalUpdate, PluginCycle.internalUpdate]
  dsimp only
  rw [checkLastKnownPose_eq]
  rfl

end Plugins

section Cycle

open SystemNode

variable {system : SystemNode} {components : Components}

theorem onShared_same {run : Shared → Attempt Shared Unit}
    (h : ∀ shared, SamePath (run shared).1 shared) (system : SystemNode) :
    SameReport (system.onShared run).1 system := ⟨h system.shared, rfl⟩

theorem localizerCycle_returns (system : SystemNode) (components : Components) :
    (system.localizerCycle components).2 = .ok () := by
  rw [localizerCycle]
  split
  · rfl
  · rename_i localizer hlocalizer
    rw [onShared, localizer_internalUpdate_eq]
    exact internalUpdate_returns _ _

theorem localizerCycle_same (h : components.LeavePath) (system : SystemNode) :
    SameReport (system.localizerCycle components).1 system := by
  rw [localizerCycle]
  split
  · exact .refl system
  · rename_i localizer hlocalizer
    apply onShared_same
    intro shared
    rw [localizer_internalUpdate_eq]
    exact internalUpdate_same (h.localizer localizer hlocalizer) shared

theorem mapsManagerCycle_cons (manager : PluginCycle) (managers : List PluginCycle)
    (system : SystemNode) :
    mapsManagerCycle (manager :: managers) system =
      mapsManagerCycle managers (system.onShared manager.internalUpdate).1 := by
  have hreturns : system.onShared manager.internalUpdate =
      ((system.onShared manager.internalUpdate).1, .ok ()) :=
    Prod.ext rfl (internalUpdate_returns manager system.shared)
  rw [mapsManagerCycle, hreturns, Attempt.andThen_of_ok]

theorem mapsManagerCycle_returns (managers : List PluginCycle) (system : SystemNode) :
    (mapsManagerCycle managers system).2 = .ok () := by
  induction managers generalizing system with
  | nil => rfl
  | cons manager managers ih =>
      rw [mapsManagerCycle_cons]
      exact ih _

theorem mapsManagerCycle_same {managers : List PluginCycle}
    (h : ∀ manager ∈ managers, manager.LeavesPath) (system : SystemNode) :
    SameReport (mapsManagerCycle managers system).1 system := by
  induction managers generalizing system with
  | nil => exact .refl system
  | cons manager managers ih =>
      rw [mapsManagerCycle_cons]
      have hmanager := onShared_same (internalUpdate_same (h manager List.mem_cons_self)) system
      exact (ih (fun other hother => h other (List.mem_cons_of_mem _ hother)) _).trans hmanager

variable (getYaw : Quaternion → Double) (readings : UpdateReadings)

theorem syncState_diagnostics (gm : GoalManager) (nav : NavState) :
    (gm.syncState nav).2.diagnostics = nav.diagnostics := by
  rw [syncState]
  split <;> rfl

theorem syncPaused_diagnostics (gm : GoalManager) (nav : NavState) :
    (gm.syncPaused nav).2.diagnostics = nav.diagnostics := by
  rw [syncPaused]
  split <;> rfl

theorem syncGoals_diagnostics (gm : GoalManager) (nav : NavState) :
    (gm.syncGoals nav).diagnostics = nav.diagnostics := by
  rw [syncGoals]
  split
  · rfl
  · split <;> rfl

theorem update_diagnostics (gm : GoalManager) (nav : NavState) :
    (gm.update getYaw nav readings).2.1.diagnostics = nav.diagnostics := by
  have hsynced : (gm.publishTolerances nav).diagnostics = nav.diagnostics := rfl
  have htold : ((gm.syncState nav).1.syncPaused (gm.syncState nav).2).2.diagnostics =
      nav.diagnostics :=
    (syncPaused_diagnostics _ _).trans (syncState_diagnostics gm nav)
  rw [GoalManager.update]
  dsimp only
  split
  · rw [updateIdle]
    dsimp only
    split
    · exact htold
    · exact htold
  · split
    · exact htold
    · rw [updateActive]
      dsimp only
      rw [syncState_diagnostics, syncGoals_diagnostics]
      exact htold
    · exact htold

/-- Nothing but the sensors can keep the cycle from the planner. -/
theorem beforePlanner_cases (h : components.LeavePath) (system : SystemNode) :
    SameReport (system.beforePlanner getYaw components readings).1 system ∧
      ((components.sensors system.shared).Throws ∧
          (system.beforePlanner getYaw components readings).Throws ∨
        ¬ (components.sensors system.shared).Throws ∧
          ∃ newGoals, (system.beforePlanner getYaw components readings).2 = .ok newGoals) := by
  have hsensed := onShared_same h.sensors system
  rw [beforePlanner]
  cases hresult : (components.sensors system.shared).2 with
  | error thrown =>
      have hthrows : system.onShared components.sensors =
          ((system.onShared components.sensors).1, .error thrown) := Prod.ext rfl hresult
      rw [hthrows]
      exact ⟨hsensed, Or.inl ⟨⟨thrown, hresult⟩, ⟨thrown, rfl⟩⟩⟩
  | ok u =>
      have hreturns : system.onShared components.sensors =
          ((system.onShared components.sensors).1, .ok u) := Prod.ext rfl hresult
      set sensed := (system.onShared components.sensors).1
      have hlocalized := localizerCycle_same h sensed
      have hlocalizer : sensed.localizerCycle components =
          ((sensed.localizerCycle components).1, .ok ()) :=
        Prod.ext rfl (localizerCycle_returns sensed components)
      set localized := (sensed.localizerCycle components).1
      have hmapped := mapsManagerCycle_same h.mapsManagers localized
      have hmaps : mapsManagerCycle components.mapsManagers localized =
          ((mapsManagerCycle components.mapsManagers localized).1, .ok ()) :=
        Prod.ext rfl (mapsManagerCycle_returns _ localized)
      set mapped := (mapsManagerCycle components.mapsManagers localized).1
      rw [hreturns, Attempt.andThen_of_ok, hlocalizer, Attempt.andThen_of_ok, hmaps,
        Attempt.andThen_of_ok]
      have hupdated : SameReport (mapped.updateGoals getYaw readings) mapped :=
        ⟨⟨rfl, congrFun (update_diagnostics getYaw readings mapped.goalManager
          mapped.shared.nav) "path"⟩, rfl⟩
      have hsame := hupdated.trans (hmapped.trans (hlocalized.trans hsensed))
      refine ⟨⟨hsame.shared, hsame.lastPathFinite⟩, Or.inr ⟨?_, _, rfl⟩⟩
      rintro ⟨thrown, hthrown⟩
      rw [hresult] at hthrown
      cases hthrown

theorem followable_isFinite (path : Path) : path.followable.isFinite = true := by
  rw [Path.followable]
  split
  · assumption
  · rfl

theorem checkPath_of_path {path : Path} (h : system.shared.path = some path) :
    system.checkPath.shared.path = some path.followable ∧
      pathReporting.Checked path.isFinite (pathBoard system) (pathBoard system.checkPath) := by
  have hnews : ¬ pathReporting.News (pathBoard system) path.isFinite ↔
      system.lastPathFinite = some path.isFinite ∨
        system.lastPathFinite = none ∧ path.isFinite = true := by
    rw [Reporting.not_news_iff]
    simp [pathBoard, pathReporting]
  rw [checkPath, h]
  dsimp only
  split
  · rename_i hold
    exact ⟨rfl, .of_old (hnews.mpr hold)⟩
  · rename_i hnew
    refine ⟨rfl, ?_⟩
    have hshown : pathBoard { system with
          lastPathFinite := some path.isFinite
          shared := { system.shared with
            path := some path.followable
            nav := system.shared.nav.setDiagnostic "path" (pathDiagnostic path.isFinite) } } =
        ⟨some path.isFinite, some (pathDiagnostic path.isFinite)⟩ := by
      simp [pathBoard, NavState.setDiagnostic]
    rw [hshown]
    exact .of_news (Classical.not_not.mp (mt hnews.mp hnew)) rfl

theorem checkPath_of_no_path (h : system.shared.path = none) : system.checkPath = system := by
  rw [checkPath, h]

/-- What the planner node makes of a path that was planned. -/
structure Follows (planned after : SystemNode) : Prop where
  path : after.shared.path = planned.shared.path.map Path.followable
  told : ∀ path ∈ planned.shared.path, pathReporting.Tells (pathBoard after) path.isFinite

theorem Guarded.checkPath (hfaithful : pathReporting.Faithful (pathBoard system))
    (hunshown : (pathBoard system).last = none → (pathBoard system).shown = none) :
    Guarded system.checkPath ∧ Follows system system.checkPath := by
  cases hpath : system.shared.path with
  | none =>
      rw [checkPath_of_no_path hpath]
      refine ⟨⟨?_, hfaithful, hunshown⟩, by rw [hpath]; rfl, ?_⟩
      · rw [hpath]
        exact fun path hmem => by cases hmem
      · rw [hpath]
        exact fun path hmem => by cases hmem
  | some path =>
      obtain ⟨hfollowable, hchecked⟩ := checkPath_of_path hpath
      refine ⟨⟨?_, hchecked.faithful hfaithful, hchecked.unshown hunshown⟩, ?_, ?_⟩
      · rw [hfollowable]
        rintro path' hmem
        obtain rfl := Option.some.inj hmem
        exact followable_isFinite path
      · rw [hfollowable, hpath]
        rfl
      · rw [hpath]
        rintro path' hmem
        obtain rfl := Option.some.inj hmem
        exact hchecked.tells_of_unshown hfaithful hunshown

theorem plan_returns (system : SystemNode) (planner : PluginCycle) (trigger : Bool) :
    (system.plan planner trigger).2 = .ok () := by
  rw [plan]
  split
  · rw [onShared, forceUpdate_eq]
  · exact internalUpdate_returns planner system.shared

theorem plan_pathBoard {planner : PluginCycle} (h : components.LeavePath)
    (hplanner : planner ∈ components.planner) (system : SystemNode) (trigger : Bool) :
    pathBoard (system.plan planner trigger).1 = pathBoard system := by
  have hupdate := h.plannerUpdate planner hplanner
  have hshown : ∀ shared : Shared,
      shared.nav.diagnostics "path" = system.shared.nav.diagnostics "path" →
        (⟨system.lastPathFinite, shared.nav.diagnostics "path"⟩ : Board Bool DiagnosticStatus) =
          pathBoard system := by
    intro shared hshared
    rw [hshared]
    rfl
  rw [plan]
  split
  · apply hshown
    change (planner.forceUpdate system.shared).1.nav.diagnostics "path" = _
    rw [forceUpdate_eq]
    exact hupdate system.shared
  · apply hshown
    apply internalUpdate_induction
      (motive := fun shared => shared.nav.diagnostics "path" =
        system.shared.nav.diagnostics "path")
    · exact (h.plannerRate planner hplanner system.shared).shown
    · exact fun shared hshared => (hupdate shared).trans hshared

theorem plannerCycle_of_some {planner : PluginCycle} (h : components.planner = some planner)
    (system : SystemNode) (trigger : Bool) :
    system.plannerCycle components trigger =
      ((system.plan planner trigger).1.checkPath, .ok ()) := by
  have hreturns : system.plan planner trigger = ((system.plan planner trigger).1, .ok ()) :=
    Prod.ext rfl (plan_returns system planner trigger)
  rw [plannerCycle, h]
  dsimp only
  rw [hreturns, Attempt.andThen_of_ok]

theorem plannerCycle_guarded (h : components.LeavePath) (hguarded : Guarded system)
    (trigger : Bool) :
    ∃ system', system.plannerCycle components trigger = (system', .ok ()) ∧ Guarded system' ∧
      ∀ planner ∈ components.planner, Follows (system.plan planner trigger).1 system' := by
  cases hplanner : components.planner with
  | none =>
      refine ⟨system, by rw [plannerCycle, hplanner], hguarded, ?_⟩
      exact fun planner hmem => by cases hmem
  | some planner =>
      have hboard := plan_pathBoard h hplanner system trigger
      have hfaithful : pathReporting.Faithful (pathBoard (system.plan planner trigger).1) := by
        rw [hboard]
        exact hguarded.faithful
      obtain ⟨hchecked, hfollows⟩ :=
        Guarded.checkPath hfaithful (by rw [hboard]; exact hguarded.unshown)
      refine ⟨_, plannerCycle_of_some hplanner system trigger, hchecked, ?_⟩
      rintro planner' hmem
      obtain rfl := Option.some.inj hmem
      exact hfollows

theorem recoveryCycle_same (h : components.LeavePath) (system : SystemNode) :
    SameReport (system.recoveryCycle components).1 system := by
  rw [recoveryCycle]
  split
  · exact .refl system
  · rename_i update hupdate
    have hsame := h.recovery update hupdate (system.goalManager, system.shared)
    rcases hresult : update (system.goalManager, system.shared) with ⟨state, result⟩
    rw [hresult] at hsame
    rcases result with (what | _) | _ <;> exact ⟨hsame, rfl⟩

/-- What a recovery manager throws leaves the cycle unless it is a standard exception. -/
theorem recoveryCycle_throws_iff (components : Components) (system : SystemNode) :
    (system.recoveryCycle components).Throws ↔ ∃ update ∈ components.recovery,
      (update (system.goalManager, system.shared)).2 = .error .other := by
  rw [recoveryCycle]
  cases components.recovery with
  | none => simp [Attempt.Throws]
  | some update =>
      dsimp only
      rcases hresult : update (system.goalManager, system.shared) with ⟨state, result⟩
      rcases result with (what | _) | _ <;> simp [Attempt.Throws, Attempt.catchStd, hresult]

/-- What is promised of a cycle, whatever its plugins throw. -/
structure Contained (components : Components) (system : SystemNode) : Prop where
  finite : ∀ path ∈ (system.systemCycle getYaw components readings).1.shared.path,
    path.isFinite = true
  reaches : ¬ (components.sensors system.shared).Throws →
    ∃ newGoals, (system.beforePlanner getYaw components readings).2 = .ok newGoals
  follows : ∀ ready newGoals, ∀ planner ∈ components.planner,
    system.beforePlanner getYaw components readings = (ready, .ok newGoals) →
      Follows (ready.plan planner newGoals).1 (system.systemCycle getYaw components readings).1
  throws_iff : (system.systemCycle getYaw components readings).Throws ↔
    (components.sensors system.shared).Throws ∨
      ∃ before, system.beforeRecovery getYaw components readings = (before, .ok ()) ∧
        ∃ update ∈ components.recovery,
          (update (before.goalManager, before.shared)).2 = .error .other

theorem Follows.of_same {planned a b : SystemNode} (h : Follows planned b)
    (hsame : SameReport a b) : Follows planned a := by
  constructor
  · rw [hsame.shared.path]
    exact h.path
  · rw [hsame.pathBoard_eq]
    exact h.told

theorem systemCycle_contained (h : components.LeavePath) (hguarded : Guarded system) :
    Contained getYaw readings components system ∧
      Guarded (system.systemCycle getYaw components readings).1 := by
  obtain ⟨hsame, hcases⟩ := beforePlanner_cases getYaw readings h system
  rcases hbefore : system.beforePlanner getYaw components readings with ⟨ready, result⟩
  rw [hbefore] at hsame hcases
  have hready := hguarded.of_same hsame
  rcases hcases with ⟨hsensors, thrown, hthrown⟩ | ⟨hsensors, newGoals, hreturned⟩
  · obtain rfl : result = .error thrown := hthrown
    have hfailed : system.beforeRecovery getYaw components readings = (ready, .error thrown) := by
      rw [beforeRecovery, hbefore]
      rfl
    have hcycle : system.systemCycle getYaw components readings = (ready, .error thrown) := by
      rw [systemCycle, hfailed]
      rfl
    refine ⟨⟨?_, fun hnot => absurd hsensors hnot, ?_, ?_⟩, ?_⟩
    · rw [hcycle]
      exact hready.finite
    · intro ready' newGoals planner _ hother
      rw [hbefore] at hother
      cases hother
    · rw [hcycle]
      exact iff_of_true ⟨thrown, rfl⟩ (Or.inl hsensors)
    · rw [hcycle]
      exact hready
  · obtain rfl : result = .ok newGoals := hreturned
    obtain ⟨planned, hplanned, hkept, hfollows⟩ := plannerCycle_guarded h hready newGoals
    have hrecovering : system.beforeRecovery getYaw components readings = (planned, .ok ()) := by
      rw [beforeRecovery, hbefore, Attempt.andThen_of_ok]
      exact hplanned
    have hcycle : system.systemCycle getYaw components readings =
        planned.recoveryCycle components := by
      rw [systemCycle, hrecovering, Attempt.andThen_of_ok]
    have hrecovered := recoveryCycle_same h planned
    refine ⟨⟨?_, fun _ => ⟨newGoals, by rw [hbefore]⟩, ?_, ?_⟩, ?_⟩
    · rw [hcycle]
      exact (hkept.of_same hrecovered).finite
    · intro ready' newGoals' planner hplanner hother
      rw [hbefore] at hother
      cases hother
      rw [hcycle]
      exact (hfollows planner hplanner).of_same hrecovered
    · rw [hcycle, recoveryCycle_throws_iff, or_iff_right hsensors, hrecovering]
      simp
    · rw [hcycle]
      exact hkept.of_same hrecovered

end Cycle

section Runs

inductive Event where
  | cycle (components : Components) (leaves : components.LeavePath) (readings : UpdateReadings)
  /-- Anything else, between two cycles. -/
  | other (run : SystemNode → SystemNode) (leaves : ∀ system, SameReport (run system) system)

variable (getYaw : Quaternion → Double)

def step (system : SystemNode) : Event → SystemNode
  | .cycle components _ readings => (system.systemCycle getYaw components readings).1
  | .other run _ => run system

/-- Just constructed: there is nothing on the blackboard. -/
def Start (system : SystemNode) : Prop :=
  system.shared.path = none ∧ pathBoard system = ⟨none, none⟩

variable {getYaw} {system : SystemNode} {past : List (SystemNode × Event)}

theorem run_guarded (hrun : Run (step getYaw) Start system past) : Guarded system := by
  apply hrun.invariant_of_all
  · rintro system ⟨hpath, hboard⟩
    refine ⟨?_, ?_, ?_⟩
    · rw [hpath]
      exact fun path hmem => by cases hmem
    · rw [hboard]
      exact fun last hmem => by cases hmem
    · rw [hboard]
      exact fun _ => rfl
  · intro system e h
    cases e with
    | cycle components leaves readings => exact (systemCycle_contained getYaw readings leaves h).2
    | other run leaves => exact h.of_same (leaves system)

end Runs

section Example

def examplePlanner (path : Path) : PluginCycle where
  update := fun shared => ({ shared with path := some path }, .error .other)

def exampleComponents (path : Path) (thrown : Thrown) : Components where
  planner := some (examplePlanner path)
  recovery := some fun state => (state, .error thrown)

theorem exampleComponents_leavePath (path : Path) (thrown : Thrown) :
    (exampleComponents path thrown).LeavePath where
  sensors := fun shared => .refl shared
  localizer := by
    rintro localizer ⟨⟩
  mapsManagers := by
    rintro manager ⟨⟩
  plannerRate := by
    rintro planner ⟨⟩ shared
    exact .refl shared
  plannerUpdate := by
    rintro planner ⟨⟩ shared
    rfl
  recovery := by
    rintro update ⟨⟩ state
    exact .refl state.2

def exampleFinite : Path := { poses := [{}] }

def exampleNaN : Path := { poses := [{}, { pose := { position := { x := .nan } } }] }

end Example

end EasyNav.PlannedPaths
