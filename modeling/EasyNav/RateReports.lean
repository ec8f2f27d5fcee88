import EasyNav.ChangeReports
import EasyNav.Runs
import EasyNav.ScheduledRate

namespace EasyNav.RateReports

open EasyNav.DoubleArithmetic
open EasyNav.NavigationState
open EasyNav.MachineNumbers
open EasyNav.RateMonitoring
open EasyNav.ExecutionSchedule
open EasyNav.ExecutionSchedule.Cycle
open EasyNav.ExecutionSchedule.MethodBase
open EasyNav.ScheduledRate (report_fst)
open EasyNav.ChangeReports
open EasyNav.Runs

/-- A rate is no error for the recovery system, however low. -/
def rateLevel (status : Status) : DiagnosticLevel := if status = .ok then .ok else .warn

/-- The first status is always reported. -/
def rateReporting : Reporting Status DiagnosticStatus where
  same last found := last = found
  quiet _ := False
  renders status diagnostic := diagnostic.level = rateLevel status
  renders_of_same := by
    rintro a b d rfl h
    exact h

/-- The schedules of the loaded plugins, and the blackboard. -/
structure Components (ι : Type) where
  methods : ι → Option MethodBase := fun _ => none
  nav : NavState := {}

inductive Event (ι : Type) where
  /-- The plugin is loaded, if its frequencies are valid. -/
  | load (i : ι) (pluginName : String) (rtFreq freq : Double) (now : Time × Time)
  | check (i : ι) (kind : CycleKind) (trigger : Bool) (readings : Readings)
  /-- The node of the plugin is activated. -/
  | resetMonitors (i : ι)
  | release (i : ι)
  /-- Whatever else is done to the blackboard. -/
  | other (run : NavState → NavState)

variable {ι : Type} [DecidableEq ι] (nodeName : ι → String)

def loaded (pluginName : String) (rtFreq freq : Double) (now : Time × Time) :
    Option MethodBase :=
  match ({} : MethodBase).initializeMethod pluginName rtFreq freq now with
  | .error _ => none
  | .ok method => some method

def step (s : Components ι) : Event ι → Components ι
  | .load i pluginName rtFreq freq now =>
      { s with methods := Function.update s.methods i (loaded pluginName rtFreq freq now) }
  | .check i kind trigger readings =>
      match s.methods i with
      | none => s
      | some method =>
          let (_, cycle, nav) :=
            (method.cycleOf kind).internalUpdate (nodeName i) trigger readings s.nav
          { methods := Function.update s.methods i (some (method.withCycle cycle kind))
            nav := nav }
  | .resetMonitors i =>
      { s with methods := Function.update s.methods i ((s.methods i).map resetRateMonitors) }
  | .release i => { s with methods := Function.update s.methods i none }
  | .other run => { s with nav := run s.nav }

def Start (s : Components ι) : Prop := ∀ i, s.methods i = none

/-- No other component writes the diagnostics of a loaded plugin. -/
def Undisturbed (s : Components ι) : Event ι → Prop
  | .check i kind _ _ => ∀ j method other kind', j ≠ i → s.methods i = some method →
      s.methods j = some other → (other.cycleOf kind').name ≠ (method.cycleOf kind).name
  | .other run => ∀ i method kind, s.methods i = some method →
      (run s.nav).diagnostics (method.cycleOf kind).name =
        s.nav.diagnostics (method.cycleOf kind).name
  | _ => True

section Reports

def rateBoard (cycle : Cycle) (nav : NavState) : Board Status DiagnosticStatus :=
  ⟨cycle.reported, nav.diagnostics cycle.name⟩

theorem report_checked (cycle : Cycle) (nodeName : String) (nav : NavState) (now : Time) :
    rateReporting.Checked (cycle.monitor.update (machineSeconds now)).status (rateBoard cycle nav)
      (rateBoard (cycle.report nodeName nav now).1 (cycle.report nodeName nav now).2) := by
  have hnews : ¬ rateReporting.News (rateBoard cycle nav)
      (cycle.monitor.update (machineSeconds now)).status ↔
        cycle.reported = some (cycle.monitor.update (machineSeconds now)).status := by
    rw [Reporting.not_news_iff]
    simp [rateBoard, rateReporting]
  rw [report]
  dsimp only
  split
  · rename_i hold
    exact .of_old (hnews.mpr hold)
  · rename_i hnew
    have hshown : rateBoard
        { cycle with
          monitor := cycle.monitor.update (machineSeconds now)
          reported := some (cycle.monitor.update (machineSeconds now)).status }
        (nav.setDiagnostic cycle.name
          (diagnostic { cycle with monitor := cycle.monitor.update (machineSeconds now) }
            nodeName)) =
        ⟨some (cycle.monitor.update (machineSeconds now)).status,
          some (diagnostic { cycle with monitor := cycle.monitor.update (machineSeconds now) }
            nodeName)⟩ := by
      simp [rateBoard, NavState.setDiagnostic]
    rw [hshown]
    exact .of_news (Classical.not_not.mp (mt hnews.mp hnew)) rfl

theorem report_of_ne (cycle : Cycle) (nodeName : String) (nav : NavState) (now : Time)
    {name : String} (h : name ≠ cycle.name) :
    (cycle.report nodeName nav now).2.diagnostics name = nav.diagnostics name := by
  rw [report]
  dsimp only
  split
  · rfl
  · rw [NavState.setDiagnostic]
    dsimp only
    exact Function.update_of_ne h _ _

theorem isTimeToRun_same (cycle : Cycle) (now : Time) :
    (cycle.isTimeToRun now).2.name = cycle.name ∧
      (cycle.isTimeToRun now).2.reported = cycle.reported := by
  rw [isTimeToRun]
  split
  · split <;> exact ⟨rfl, rfl⟩
  · split <;> exact ⟨rfl, rfl⟩

theorem internalUpdate_board (cycle : Cycle) (nodeName : String) (trigger : Bool)
    (readings : Readings) (nav : NavState) :
    (cycle.internalUpdate nodeName trigger readings nav).2.2 =
        (cycle.report nodeName nav readings.report).2 ∧
      (cycle.internalUpdate nodeName trigger readings nav).2.1.name = cycle.name ∧
      (cycle.internalUpdate nodeName trigger readings nav).2.1.reported =
        (cycle.report nodeName nav readings.report).1.reported := by
  have hname : (cycle.report nodeName nav readings.report).1.name = cycle.name := by
    rw [report_fst]
  obtain ⟨hchecked, hreported⟩ :=
    isTimeToRun_same (cycle.report nodeName nav readings.report).1 readings.check
  rw [internalUpdate]
  dsimp only
  split
  · exact ⟨rfl, hchecked.trans hname, hreported⟩
  · exact ⟨rfl, hchecked.trans hname, hreported⟩

theorem internalUpdate_checked (cycle : Cycle) (nodeName : String) (trigger : Bool)
    (readings : Readings) (nav : NavState) :
    rateReporting.Checked (cycle.monitor.update (machineSeconds readings.report)).status
      (rateBoard cycle nav)
      (rateBoard (cycle.internalUpdate nodeName trigger readings nav).2.1
        (cycle.internalUpdate nodeName trigger readings nav).2.2) := by
  obtain ⟨hnav, hname, hreported⟩ := internalUpdate_board cycle nodeName trigger readings nav
  have hchecked := report_checked cycle nodeName nav readings.report
  have hboard : rateBoard (cycle.internalUpdate nodeName trigger readings nav).2.1
        (cycle.internalUpdate nodeName trigger readings nav).2.2 =
      rateBoard (cycle.report nodeName nav readings.report).1
        (cycle.report nodeName nav readings.report).2 := by
    rw [rateBoard, rateBoard, hname, hreported, hnav, report_fst]
  rw [hboard]
  exact report_checked cycle nodeName nav readings.report

end Reports

section Runs

/-- The diagnostics of a plugin have names of their own, and show what was reported. -/
structure Shown (nav : NavState) (method : MethodBase) : Prop where
  apart : method.rtCycle.name ≠ method.cycle.name
  faithful : ∀ kind, rateReporting.Faithful (rateBoard (method.cycleOf kind) nav)

def AllShown (s : Components ι) : Prop := ∀ i, ∀ method ∈ s.methods i, Shown s.nav method

variable {nodeName} {s : Components ι}

theorem Shown.name_ne {nav : NavState} {method : MethodBase} (h : Shown nav method)
    {kind other : CycleKind} (hne : other ≠ kind) :
    (method.cycleOf other).name ≠ (method.cycleOf kind).name := by
  cases kind with
  | rt =>
      cases other with
      | rt => exact absurd rfl hne
      | nonRt => exact h.apart.symm
  | nonRt =>
      cases other with
      | rt => exact h.apart
      | nonRt => exact absurd rfl hne

theorem faithful_of_same {cycle : Cycle} {nav nav' : NavState}
    (h : rateReporting.Faithful (rateBoard cycle nav))
    (hsame : nav'.diagnostics cycle.name = nav.diagnostics cycle.name) :
    rateReporting.Faithful (rateBoard cycle nav') := by
  rw [rateBoard, hsame]
  exact h

theorem Shown.of_same {nav nav' : NavState} {method : MethodBase} (h : Shown nav method)
    (hsame : ∀ kind, nav'.diagnostics (method.cycleOf kind).name =
      nav.diagnostics (method.cycleOf kind).name) :
    Shown nav' method :=
  ⟨h.apart, fun kind => faithful_of_same (h.faithful kind) (hsame kind)⟩

theorem initializeCycle_new {old cycle : Cycle} {pluginName name : String} {frequency : Double}
    {now : Time} (h : old.initializeCycle pluginName name frequency now = .ok cycle) :
    cycle.name = pluginName ++ name ∧ cycle.reported = none := by
  rw [initializeCycle] at h
  split at h
  · cases h
  · obtain rfl := Except.ok.inj h
    exact ⟨rfl, rfl⟩

theorem loaded_shown {pluginName : String} {rtFreq freq : Double} {now : Time × Time}
    {method : MethodBase} (h : method ∈ loaded pluginName rtFreq freq now) (nav : NavState) :
    Shown nav method := by
  rw [loaded] at h
  split at h
  · cases h
  · rename_i new hnew
    obtain rfl := Option.some.inj h
    obtain ⟨hrt, hother⟩ := initializeMethod_ok hnew
    obtain ⟨hrtName, hrtReported⟩ := initializeCycle_new hrt
    obtain ⟨hname, hreported⟩ := initializeCycle_new hother
    refine ⟨fun hsame => ?_, fun kind last hlast => ?_⟩
    · have hlength := congrArg String.length (hrtName.symm.trans (hsame.trans hname))
      rw [String.length_append, String.length_append] at hlength
      exact absurd (Nat.add_left_cancel hlength) (by decide)
    · cases kind with
      | rt => cases hrtReported.symm.trans hlast
      | nonRt => cases hreported.symm.trans hlast

theorem resetRateMonitors_shown {nav : NavState} {method : MethodBase} (h : Shown nav method) :
    Shown nav method.resetRateMonitors := by
  refine ⟨h.apart, fun kind => ?_⟩
  cases kind with
  | rt => exact h.faithful .rt
  | nonRt => exact h.faithful .nonRt

theorem allShown_update {methods : ι → Option MethodBase} {nav : NavState} {i : ι}
    {new : Option MethodBase} (hnew : ∀ method ∈ new, Shown nav method)
    (hothers : ∀ j, j ≠ i → ∀ method ∈ methods j, Shown nav method) :
    AllShown ⟨Function.update methods i new, nav⟩ := by
  intro j method hmem
  by_cases hj : j = i
  · subst hj
    dsimp only at hmem
    rw [Function.update_self] at hmem
    exact hnew method hmem
  · dsimp only at hmem
    rw [Function.update_of_ne hj] at hmem
    exact hothers j hj method hmem

theorem step_check {i : ι} {method : MethodBase} (hmethod : s.methods i = some method)
    (kind : CycleKind) (trigger : Bool) (readings : Readings) :
    step nodeName s (.check i kind trigger readings) =
      { methods := Function.update s.methods i (some (method.withCycle
          ((method.cycleOf kind).internalUpdate (nodeName i) trigger readings s.nav).2.1 kind))
        nav :=
          ((method.cycleOf kind).internalUpdate (nodeName i) trigger readings s.nav).2.2 } := by
  rw [step, hmethod]

theorem check_shown {nav : NavState} {method : MethodBase} (h : Shown nav method)
    (kind : CycleKind) (nodeName : String) (trigger : Bool) (readings : Readings) :
    Shown ((method.cycleOf kind).internalUpdate nodeName trigger readings nav).2.2
      (method.withCycle
        ((method.cycleOf kind).internalUpdate nodeName trigger readings nav).2.1 kind) := by
  obtain ⟨hnav, hname, -⟩ :=
    internalUpdate_board (method.cycleOf kind) nodeName trigger readings nav
  have hchecked := internalUpdate_checked (method.cycleOf kind) nodeName trigger readings nav
  constructor
  · cases kind with
    | rt => exact fun hsame => h.apart (hname.symm.trans hsame)
    | nonRt => exact fun hsame => h.apart (hsame.trans hname)
  · intro other
    by_cases hother : other = kind
    · rw [hother, cycleOf_withCycle]
      exact hchecked.faithful (h.faithful kind)
    · rw [cycleOf_withCycle_of_ne _ _ hother]
      apply faithful_of_same (h.faithful other)
      rw [hnav]
      exact report_of_ne _ _ _ _ (h.name_ne hother)

theorem check_allShown (h : AllShown s) {i : ι} {kind : CycleKind} {trigger : Bool}
    {readings : Readings} (hundisturbed : Undisturbed s (.check i kind trigger readings)) :
    AllShown (step nodeName s (.check i kind trigger readings)) := by
  cases hmethod : s.methods i with
  | none =>
      rw [step, hmethod]
      exact h
  | some method =>
      rw [step_check hmethod]
      apply allShown_update
      · rintro method' hmem
        obtain rfl := Option.some.inj hmem
        exact check_shown (h i method hmethod) kind (nodeName i) trigger readings
      · intro j hj other hother
        refine (h j other hother).of_same fun kind' => ?_
        rw [(internalUpdate_board (method.cycleOf kind) (nodeName i) trigger readings s.nav).1]
        exact report_of_ne _ _ _ _ (hundisturbed j method other kind' hj hmethod hother)

theorem step_allShown (h : AllShown s) {e : Event ι} (hundisturbed : Undisturbed s e) :
    AllShown (step nodeName s e) := by
  cases e with
  | load i pluginName rtFreq freq now =>
      apply allShown_update
      · exact fun method hmem => loaded_shown hmem s.nav
      · exact fun j _ => h j
  | check i kind trigger readings => exact check_allShown h hundisturbed
  | resetMonitors i =>
      apply allShown_update
      · rintro method hmem
        obtain ⟨old, hold, rfl⟩ := Option.map_eq_some_iff.mp hmem
        exact resetRateMonitors_shown (h i old hold)
      · exact fun j _ => h j
  | release i =>
      apply allShown_update
      · rintro method hmem
        cases hmem
      · exact fun j _ => h j
  | other run =>
      exact fun i method hmem =>
        (h i method hmem).of_same fun kind => hundisturbed i method kind hmem

variable {past : List (Components ι × Event ι)}

theorem run_allShown (hrun : Run (step nodeName) Start s past)
    (hundisturbed : ∀ p ∈ past, Undisturbed p.1 p.2) : AllShown s := by
  apply hrun.invariant Undisturbed
  · intro s hs i method hmem
    rw [hs i] at hmem
    cases hmem
  · exact fun s e h he => step_allShown h he
  · exact hundisturbed

def Shows (s : Components ι) (name : String) (level : DiagnosticLevel) : Prop :=
  ∃ diagnostic ∈ s.nav.diagnostics name, diagnostic.level = level

/-- A check of one of a plugin's cycles leaves shown whether its rate is kept, whatever its
predecessors left, and that stays shown until it finds something else, whatever the plugin's
other cycle and the other plugins find. -/
theorem rates_told (hrun : Run (step nodeName) Start s past)
    (hundisturbed : ∀ p ∈ past, Undisturbed p.1 p.2) {i : ι} {method : MethodBase}
    (hmethod : s.methods i = some method) (kind : CycleKind) :
    (∀ status ∈ (method.cycleOf kind).reported,
        Shows s (method.cycleOf kind).name (rateLevel status)) ∧
      ∀ trigger readings, Shows (step nodeName s (.check i kind trigger readings))
        (method.cycleOf kind).name
        (rateLevel ((method.cycleOf kind).monitor.update
          (machineSeconds readings.report)).status) := by
  have hshown := (run_allShown hrun hundisturbed i method hmethod).faithful kind
  refine ⟨hshown, fun trigger readings => ?_⟩
  have hchecked :=
    internalUpdate_checked (method.cycleOf kind) (nodeName i) trigger readings s.nav
  have htells := hchecked.tells_of_loud hshown id
  obtain ⟨-, hname, -⟩ :=
    internalUpdate_board (method.cycleOf kind) (nodeName i) trigger readings s.nav
  rw [Reporting.Tells, rateBoard, hname] at htells
  rw [step_check hmethod]
  dsimp only at htells
  split at htells
  · cases htells
  · rename_i diagnostic hdiagnostic
    exact ⟨diagnostic, hdiagnostic, htells⟩

end Runs

section Example

inductive ExampleNode where
  | planner
  | localizer
  deriving DecidableEq

def ExampleNode.name : ExampleNode → String
  | .planner => "planner_node"
  | .localizer => "localizer_node"

def load (node : ExampleNode) (pluginName : String) : Event ExampleNode :=
  .load node pluginName (.fin 10) (.fin 10) (0, 0)

def check (node : ExampleNode) (now : Time) : Event ExampleNode :=
  .check node .nonRt false ⟨now, now, now⟩

def exampleEvents : List (Event ExampleNode) :=
  [load .planner "astar", load .localizer "amcl", check .planner 0, check .localizer 0]

def exampleComponents : Components ExampleNode := exampleEvents.foldl (step ExampleNode.name) {}

def examplePlanner : MethodBase := (exampleComponents.methods .planner).getD {}

def diagnosticNames (s : Components ExampleNode) (i : ExampleNode) : List String :=
  match s.methods i with
  | none => []
  | some method => [method.rtCycle.name, method.cycle.name]

theorem cycleOf_name_mem {s : Components ExampleNode} {i : ExampleNode} {method : MethodBase}
    (h : s.methods i = some method) (kind : CycleKind) :
    (method.cycleOf kind).name ∈ diagnosticNames s i := by
  rw [diagnosticNames, h]
  cases kind with
  | rt => exact List.mem_cons_self
  | nonRt => exact List.mem_cons_of_mem _ List.mem_cons_self

theorem undisturbed_of_names {s : Components ExampleNode} {i : ExampleNode} {kind : CycleKind}
    {trigger : Bool} {readings : Readings}
    (hnames : ∀ name ∈ diagnosticNames s .planner, name ∉ diagnosticNames s .localizer) :
    Undisturbed s (.check i kind trigger readings) := by
  intro j method other kind' hj hmethod hother heq
  have hmem := cycleOf_name_mem hmethod kind
  have hmem' := cycleOf_name_mem hother kind'
  rw [heq] at hmem'
  cases i with
  | planner =>
      cases j with
      | planner => exact hj rfl
      | localizer => exact hnames _ hmem hmem'
  | localizer =>
      cases j with
      | planner => exact hnames _ hmem' hmem
      | localizer => exact hj rfl

theorem exampleEvents_undisturbed :
    ∀ p ∈ history (step ExampleNode.name) {} exampleEvents [], Undisturbed p.1 p.2 := by
  unfold exampleEvents
  simp only [history, List.forall_mem_cons]
  refine ⟨undisturbed_of_names ?_, undisturbed_of_names ?_, trivial, trivial,
    fun p hp => absurd hp List.not_mem_nil⟩
  · decide +kernel
  · decide +kernel

/-- After four seconds it is found too slow. -/
theorem rates_told_blocked :
    Shows (step ExampleNode.name exampleComponents (check .planner 4000000000)) "astar.rate"
      .warn := by
  have hrun : Run (step ExampleNode.name) Start ({} : Components ExampleNode) [] :=
    .init fun _ => rfl
  have hmethod : exampleComponents.methods .planner = some examplePlanner := by decide +kernel
  have hlevel : rateLevel
      (examplePlanner.cycle.monitor.update (machineSeconds 4000000000)).status = .warn := by
    decide +kernel
  have hname : examplePlanner.cycle.name = "astar.rate" := by decide +kernel
  rw [← hlevel, ← hname]
  exact (rates_told (hrun.foldl exampleEvents) exampleEvents_undisturbed hmethod .nonRt).2 false
    ⟨4000000000, 4000000000, 4000000000⟩

/-- Plugins of one name share their diagnostic: a planner that is still too slow is shown to
keep its rate, since a localizer does. -/
example :
    let s := [load .planner "simple", check .planner 0, check .planner 4000000000,
      load .localizer "simple", check .localizer 4000000000,
      check .planner 8000000000].foldl (step ExampleNode.name) {}
    (s.methods .planner).map (fun method => method.cycle.monitor.status) = some .error ∧
      (s.nav.diagnostics "simple.rate").map DiagnosticStatus.level = some .ok := by
  decide +kernel

end Example

end EasyNav.RateReports
