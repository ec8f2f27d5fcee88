import EasyNav.ConfiguredSensors
import EasyNav.NavigationState
import Mathlib.Data.String.Basic

namespace EasyNav.SensorReports

open EasyNav.DoubleArithmetic
open EasyNav.ConfiguredSensors (onConfigure_of_valid onConfigure_success_iff)
open EasyNav.Lifecycle
open EasyNav.NavigationState (DiagnosticLevel DiagnosticStatus)
open EasyNav.PointPerceptions
open EasyNav.RemovedSensors
open EasyNav.Runs
open EasyNav.SensorExpiry (DataState checkPerception)
open EasyNav.SensorReconfiguration

universe u

def appendName (list name : String) : String := list ++ (if list = "" then "" else ", ") ++ name

/-- The sensors without data, and those whose data is not to be used any more. -/
def listSensors (checked : List (Handler × DataState)) : String × String :=
  checked.foldl (fun lists sensor =>
    match sensor.2 with
    | .fresh => lists
    | .noData => (appendName lists.1 sensor.1.sensorName, lists.2)
    | .stale => (lists.1, appendName lists.2 sensor.1.sensorName)) ("", "")

def dataAgeMessage (forgetTime : Double) (noData stale : String) : String :=
  let message :=
    if stale = "" then ""
    else "No data for more than " ++ stdToString forgetTime ++ " s from: " ++ stale
  if noData = "" then message
  else message ++ (if message = "" then "" else "; ") ++ "No data yet from: " ++ noData

variable {C : Type u}

def dataAgeDiagnostic (node : SensorsNode C) : DiagnosticStatus :=
  let (noData, stale) := listSensors (node.handlers.zip node.dataStates)
  let base : DiagnosticStatus :=
    { name := "sensors"
      hardwareId := "sensors_node"
      values := [("stale", stale), ("no_data", noData)] }
  if noData = "" ∧ stale = "" then { base with level := .ok, message := "Sensor data up to date" }
  else { base with level := .warn, message := dataAgeMessage node.forgetTime noData stale }

/-- The node with the diagnostic it wrote, while nothing else is stored under its key. -/
structure Reporting (C : Type u) where
  sensing : Sensing C
  shown : Option DiagnosticStatus

def Writes (s : Sensing C) (now : Time) : Bool :=
  s.cycling && s.shared.isChecked && s.shared.reportDue now &&
    decide (s.nav.set "diagnostics.sensors" { type := .diagnosticStatus }).2.isOk

def step [Inhabited C] (r : Reporting C) (e : Event C) : Reporting C where
  sensing := r.sensing.step e
  shown :=
    match e with
    | .checkDataAge now =>
        if Writes r.sensing now then some (dataAgeDiagnostic (r.sensing.step e).node.data)
        else r.shown
    | .set key _ => if key = "diagnostics.sensors" then none else r.shown
    | _ => r.shown

theorem step_sensing [Inhabited C] (r : Reporting C) (e : Event C) :
    (step r e).sensing = r.sensing.step e := rfl

def Start [Inhabited C] (r : Reporting C) : Prop := IsInitial r.sensing ∧ r.shown = none

/-- Another component stores a value under the key of the diagnostic. -/
def storesDiagnostic : Event C → Bool
  | .set key _ => decide (key = "diagnostics.sensors")
  | _ => false

/-- The step does not throw, and nothing else is stored under the key of the diagnostic. -/
def Undisturbed [Inhabited C] (r : Reporting C) (e : Event C) : Prop :=
  ¬ (r.sensing.attempt e).Throws ∧ storesDiagnostic e = false

def Configured (s : Sensing C) : Prop := s.node.state = .inactive ∨ s.node.state = .active

section Lists

/-- The sensors that were found in this state, in their order. -/
def sensorsIn (state : DataState) (checked : List (Handler × DataState)) : List String :=
  (checked.filter fun sensor => decide (sensor.2 = state)).map fun sensor => sensor.1.sensorName

theorem intercalate_ne_empty {names : List String} (hne : names ≠ [])
    (hnames : ∀ name ∈ names, name ≠ "") : ", ".intercalate names ≠ "" := by
  cases names with
  | nil => exact absurd rfl hne
  | cons first names =>
      have hfirst := hnames first List.mem_cons_self
      cases names with
      | nil => simpa using hfirst
      | cons second names => simp [hfirst]

theorem appendName_intercalate {names : List String} (hnames : ∀ name ∈ names, name ≠ "")
    (name : String) :
    appendName (", ".intercalate names) name = ", ".intercalate (names ++ [name]) := by
  cases names with
  | nil => simp [appendName]
  | cons first rest =>
      have hne : first :: rest ≠ [] := List.cons_ne_nil first rest
      rw [appendName, if_neg (intercalate_ne_empty hne hnames),
        String.intercalate_append_of_ne_nil hne (List.cons_ne_nil name []),
        String.intercalate_singleton]

theorem sensorsIn_append (state : DataState) (checked : List (Handler × DataState))
    (sensor : Handler × DataState) :
    sensorsIn state (checked ++ [sensor]) =
      sensorsIn state checked ++ if sensor.2 = state then [sensor.1.sensorName] else [] := by
  by_cases h : sensor.2 = state
  · simp [sensorsIn, h]
  · simp [sensorsIn, h]

theorem mem_sensorsIn {state : DataState} {checked : List (Handler × DataState)} {name : String}
    (h : name ∈ sensorsIn state checked) : ∃ sensor ∈ checked, name = sensor.1.sensorName := by
  obtain ⟨sensor, hsensor, rfl⟩ := List.mem_map.mp h
  exact ⟨sensor, List.mem_of_mem_filter hsensor, rfl⟩

theorem listSensors_eq {checked : List (Handler × DataState)}
    (hnames : ∀ sensor ∈ checked, sensor.1.sensorName ≠ "") :
    listSensors checked =
      (", ".intercalate (sensorsIn .noData checked),
        ", ".intercalate (sensorsIn .stale checked)) := by
  induction checked using List.reverseRecOn with
  | nil => rfl
  | append_singleton checked sensor ih =>
      have hbefore : ∀ other ∈ checked, other.1.sensorName ≠ "" :=
        fun other hother => hnames other (List.mem_append_left _ hother)
      have hlisted : ∀ state, ∀ name ∈ sensorsIn state checked, name ≠ "" := by
        intro state name hname
        obtain ⟨other, hother, rfl⟩ := mem_sensorsIn hname
        exact hbefore other hother
      have hfold := ih hbefore
      rw [listSensors] at hfold ⊢
      rw [List.foldl_append, hfold, sensorsIn_append, sensorsIn_append]
      rcases sensor with ⟨handler, state⟩
      cases state with
      | fresh => simp
      | noData => simp [appendName_intercalate (hlisted .noData)]
      | stale => simp [appendName_intercalate (hlisted .stale)]

theorem sensorsIn_eq_nil_iff {state : DataState} {checked : List (Handler × DataState)} :
    sensorsIn state checked = [] ↔ ∀ sensor ∈ checked, sensor.2 ≠ state := by
  simp [sensorsIn]

/-- Nothing is wrong with the sensors exactly if all have fresh data. -/
theorem dataAgeDiagnostic_level (node : SensorsNode C)
    (hnames : ∀ handler ∈ node.handlers, handler.sensorName ≠ "") :
    (dataAgeDiagnostic node).level = .ok ↔
      ∀ sensor ∈ node.handlers.zip node.dataStates, sensor.2 = .fresh := by
  have hlisted : ∀ state, ∀ name ∈ sensorsIn state (node.handlers.zip node.dataStates),
      name ≠ "" := by
    intro state name hname
    obtain ⟨sensor, hsensor, rfl⟩ := mem_sensorsIn hname
    exact hnames _ (List.of_mem_zip hsensor).1
  have hempty : ∀ state, ", ".intercalate (sensorsIn state (node.handlers.zip node.dataStates)) =
      "" ↔ ∀ sensor ∈ node.handlers.zip node.dataStates, sensor.2 ≠ state := by
    intro state
    rw [← sensorsIn_eq_nil_iff]
    constructor
    · intro h
      by_contra hne
      exact intercalate_ne_empty hne (hlisted state) h
    · intro h
      rw [h, String.intercalate_nil]
  have hlevel : (dataAgeDiagnostic node).level = .ok ↔
      (listSensors (node.handlers.zip node.dataStates)).1 = "" ∧
        (listSensors (node.handlers.zip node.dataStates)).2 = "" := by
    rw [dataAgeDiagnostic]
    dsimp only
    split
    · rename_i h
      exact iff_of_true rfl h
    · rename_i h
      exact iff_of_false (show DiagnosticLevel.warn ≠ .ok by decide) h
  rw [hlevel, listSensors_eq fun sensor hsensor => hnames _ (List.of_mem_zip hsensor).1,
    hempty, hempty, ← forall₂_and]
  refine forall₂_congr fun sensor _ => ?_
  cases sensor.2 <;> decide

end Lists

section Check

variable {forgetTime : Double} {now : Stamp}

theorem checkPerception_state (p : PointPerception C) :
    ((checkPerception forgetTime now p).2 = .fresh ↔
        (checkPerception forgetTime now p).1.valid = true) ∧
      ((checkPerception forgetTime now p).2 = .noData →
        (checkPerception forgetTime now p).1.stamp.nanoseconds = 0) := by
  unfold checkPerception
  split
  · rename_i hdata
    simp [hdata.1, hdata.2]
  · split
    · simp
    · split
      · rename_i hvalid
        simp [hvalid]
      · rename_i hvalid
        simp [hvalid]

/-- What a state tells of the perception of its sensor. -/
def StatesTell (handlers : List Handler) (states : List DataState)
    (perceptions : Nat → PointPerception C) : Prop :=
  states.length = handlers.length ∧ ∀ sensor ∈ handlers.zip states,
    (sensor.2 = .fresh ↔ (perceptions sensor.1.perception).valid = true) ∧
      (sensor.2 = .noData → (perceptions sensor.1.perception).stamp.nanoseconds = 0)

theorem StatesTell.forall_fresh_iff {handlers : List Handler} {states : List DataState}
    {perceptions : Nat → PointPerception C} (h : StatesTell handlers states perceptions) :
    (∀ sensor ∈ handlers.zip states, sensor.2 = .fresh) ↔
      ∀ handler ∈ handlers, (perceptions handler.perception).valid = true := by
  obtain ⟨hlength, htell⟩ := h
  have hzip : (handlers.zip states).map Prod.fst = handlers :=
    List.map_fst_zip hlength.ge
  have hvalid : (∀ handler ∈ (handlers.zip states).map Prod.fst,
        (perceptions handler.perception).valid = true) ↔
      ∀ sensor ∈ handlers.zip states, (perceptions sensor.1.perception).valid = true :=
    List.forall_mem_map
  rw [hzip] at hvalid
  rw [hvalid]
  exact forall₂_congr fun sensor hsensor => (htell sensor hsensor).1

theorem checkHandlers_tell (handlers : List Handler) (perceptions : Nat → PointPerception C) :
    StatesTell handlers (Shared.checkHandlers forgetTime now handlers perceptions).2
      (Shared.checkHandlers forgetTime now handlers perceptions).1 := by
  induction handlers generalizing perceptions with
  | nil => exact ⟨rfl, fun sensor hsensor => absurd hsensor List.not_mem_nil⟩
  | cons handler handlers ih =>
      rw [Shared.checkHandlers]
      dsimp only
      set checked := checkPerception forgetTime now (perceptions handler.perception)
      set updated := Function.update perceptions handler.perception checked.1
      have hlast : (Shared.checkHandlers forgetTime now handlers updated).1 handler.perception =
          checked.1 := by
        have hupdated : updated handler.perception = checked.1 := Function.update_self ..
        rw [checkHandlers_perceptions, hupdated]
        split
        · exact checkPerception_twice
        · rfl
      obtain ⟨hlength, htell⟩ := ih updated
      refine ⟨by rw [List.length_cons, List.length_cons, hlength], ?_⟩
      rw [List.zip_cons_cons, List.forall_mem_cons]
      refine ⟨?_, htell⟩
      rw [hlast]
      exact checkPerception_state _

end Check

section Steps

/-- What the diagnostic depends on is the same in both. -/
structure SameAges (a b : SensorsNode C) : Prop where
  handlers : a.handlers = b.handlers
  forgetTime : a.forgetTime = b.forgetTime
  dataStates : a.dataStates = b.dataStates
  dataAgeReported : a.dataAgeReported = b.dataAgeReported

theorem SameAges.refl (node : SensorsNode C) : SameAges node node := ⟨rfl, rfl, rfl, rfl⟩

theorem SameAges.diagnostic_eq {a b : SensorsNode C} (h : SameAges a b) :
    dataAgeDiagnostic a = dataAgeDiagnostic b := by
  rw [dataAgeDiagnostic, dataAgeDiagnostic, h.handlers, h.forgetTime, h.dataStates]

theorem cycleHandlers_sameAges {node : SensorsNode C} (handlers : List Handler) (trigger : Bool)
    {s : Shared C} (h : SameAges s.node node) :
    SameAges (s.cycleHandlers handlers trigger).1.node node := by
  induction handlers generalizing trigger s with
  | nil => exact h
  | cons handler handlers ih =>
      have hcycled : SameAges (s.cycleHandler handler).1.node node :=
        TypedStores.Attempt.andThen_state (motive := fun s : Shared C => SameAges s.node node)
          h fun _ => ⟨h.handlers, h.forgetTime, h.dataStates, h.dataAgeReported⟩
      exact TypedStores.Attempt.andThen_state
        (motive := fun s : Shared C => SameAges s.node node) hcycled fun _ => ih _ hcycled

theorem setGroups_node (groups : List (String × List String)) (s : Shared C) :
    (s.setGroups groups).1.node = s.node := by
  induction groups generalizing s with
  | nil => rfl
  | cons group groups ih =>
      exact TypedStores.Attempt.andThen_state
        (motive := fun s' : Shared C => s'.node = s.node) rfl fun _ => ih _

theorem cycle_sameAges (s : Shared C) : SameAges s.cycle.1.node s.node := by
  rw [Shared.cycle]
  split
  · exact .refl s.node
  · have hgroups := setGroups_node s.node.groups s
    apply TypedStores.Attempt.andThen_state
      (motive := fun s' : Shared C => SameAges s'.node s.node)
    · rw [hgroups]
      exact .refl s.node
    · intro _
      rw [hgroups]
      exact ⟨rfl, rfl, rfl, rfl⟩

theorem checkDataAge_node_eq {s : Shared C} (hchecked : s.isChecked = true) (now : Time) :
    (s.checkDataAge now).1.node = { s.node with
      perceptions := (s.checkedData now).1
      dataStates := (s.checkedData now).2
      dataAgeReported := true } := by
  rw [Shared.checkDataAge, hchecked]
  dsimp only
  rw [if_neg (by decide)]
  split
  · exact reportDataAge_node
  · rename_i hnotDue
    have hreported : s.node.dataAgeReported = true := by
      simp only [Shared.reportDue, Bool.or_eq_true, Bool.not_eq_true', not_or,
        Bool.not_eq_false] at hnotDue
      exact hnotDue.1
    rw [← hreported]

theorem set_of_reportDataAge {s : Shared C} (h : ¬ s.reportDataAge.Throws) :
    (s.nav.set "diagnostics.sensors" { type := .diagnosticStatus }).2.isOk = true := by
  by_contra hthrows
  apply h
  unfold Shared.reportDataAge
  rcases hresult : s.nav.set "diagnostics.sensors" { type := .diagnosticStatus } with
    ⟨nav, error | u⟩
  · dsimp only [Shared.onNav]
    rw [hresult]
    exact ⟨error, rfl⟩
  · rw [hresult] at hthrows
    exact absurd rfl hthrows

/-- What was reported in this configuration is what is shown. -/
structure AgesShown (r : Reporting C) : Prop where
  dataStates : Configured r.sensing →
    r.sensing.node.data.dataStates.length = r.sensing.node.data.handlers.length
  shown : Configured r.sensing → r.sensing.node.data.dataAgeReported = true →
    r.shown = some (dataAgeDiagnostic r.sensing.node.data)

theorem AgesShown.of_same {r r' : Reporting C} (h : AgesShown r)
    (hstate : Configured r'.sensing → Configured r.sensing)
    (hsame : SameAges r'.sensing.node.data r.sensing.node.data) (hshown : r'.shown = r.shown) :
    AgesShown r' := by
  constructor
  · intro hconfigured
    rw [hsame.dataStates, hsame.handlers]
    exact h.dataStates (hstate hconfigured)
  · intro hconfigured hreported
    rw [hsame.dataAgeReported] at hreported
    rw [hshown, hsame.diagnostic_eq]
    exact h.shown (hstate hconfigured) hreported

theorem AgesShown.of_state {r : Reporting C} {state : PrimaryState}
    (hstate : r.sensing.node.state = state) (hinactive : state ≠ .inactive)
    (hactive : state ≠ .active) : AgesShown r := by
  have hnot : ¬ Configured r.sensing := by
    rw [Configured, hstate]
    exact fun hconfigured => hconfigured.elim hinactive hactive
  exact ⟨fun hconfigured => absurd hconfigured hnot, fun hconfigured => absurd hconfigured hnot⟩

variable [Inhabited C]

/-- Between transitions, only a check changes what the diagnostic depends on. -/
theorem step_sameAges (s : Sensing C) {e : Event C}
    (htrigger : ∀ transition params plugins, e ≠ .trigger transition params plugins)
    (hcheck : ∀ now, e ≠ .checkDataAge now) :
    (s.step e).node.state = s.node.state ∧ SameAges (s.step e).node.data s.node.data := by
  have hidle : SameAges s.node.data s.node.data := .refl _
  cases e with
  | trigger transition params plugins => exact absurd rfl (htrigger _ _ _)
  | checkDataAge now => exact absurd rfl (hcheck now)
  | receive handler data frame stamp decodes canTransform =>
      unfold Sensing.step Sensing.attempt
      dsimp only
      split
      · exact ⟨rfl, hidle⟩
      · split
        · exact ⟨rfl, hidle⟩
        · exact ⟨rfl, rfl, rfl, rfl, rfl⟩
  | cycleHandlers =>
      unfold Sensing.step Sensing.attempt
      dsimp only
      split
      · exact ⟨rfl, hidle⟩
      · exact ⟨rfl, cycleHandlers_sameAges _ _ (s := s.shared) hidle⟩
  | cycle => exact ⟨rfl, cycle_sameAges s.shared⟩
  | fuse perception canTransform => exact ⟨rfl, rfl, rfl, rfl, rfl⟩
  | set key type => exact ⟨rfl, hidle⟩
  | addToGroup groupKey key => exact ⟨rfl, hidle⟩

/-- A configuration that succeeds starts over, and nothing else configures the node. -/
theorem trigger_told {s : Sensing C} (hidle : s.cycling = false) {shown : Option DiagnosticStatus}
    (h : AgesShown ⟨s, shown⟩) (transition : Transition) (params : Parameters)
    (plugins : String → Option SensorKind) :
    AgesShown ⟨s.step (.trigger transition params plugins), shown⟩ := by
  rcases s with ⟨⟨state, node⟩, nav, cycling⟩
  obtain rfl : cycling = false := hidle
  have hsame : state.goal transition = none →
      AgesShown
        ⟨(⟨⟨state, node⟩, nav, false⟩ : Sensing C).step (.trigger transition params plugins),
          shown⟩ := by
    intro hinvalid
    have hstep : (⟨⟨state, node⟩, nav, false⟩ : Sensing C).step
        (.trigger transition params plugins) = ⟨⟨state, node⟩, nav, false⟩ :=
      congrArg (fun node => (⟨node, nav, false⟩ : Sensing C))
        (Managed.trigger_of_invalid hinvalid)
    rw [hstep]
    exact h
  cases state with
  | unconfigured =>
      cases transition with
      | configure =>
          have hstep : (⟨⟨.unconfigured, node⟩, nav, false⟩ : Sensing C).step
              (.trigger .configure params plugins) =
              ⟨Managed.settle (fun node => (node.releaseHandlers, .success)) .configure
                .unconfigured .inactive (node.onConfigure params plugins), nav, false⟩ := rfl
          rw [hstep]
          rcases hresult : node.onConfigure params plugins with ⟨configured, answer⟩
          cases answer with
          | success =>
              have hvalid := (onConfigure_success_iff node).mp (congrArg Prod.snd hresult)
              obtain ⟨loaded, -, hloaded⟩ := onConfigure_of_valid hvalid node
              obtain ⟨rfl, -⟩ := Prod.mk.inj (hresult.symm.trans hloaded)
              refine ⟨fun _ => List.length_replicate, fun _ hreported => ?_⟩
              exact absurd hreported Bool.false_ne_true
          | failure =>
              exact .of_state (rfl : _ = PrimaryState.unconfigured) (by decide) (by decide)
          | error =>
              exact .of_state (rfl : _ = PrimaryState.unconfigured) (by decide) (by decide)
      | shutdown =>
          exact .of_state (rfl : _ = PrimaryState.finalized) (by decide) (by decide)
      | _ => exact hsame rfl
  | inactive =>
      cases transition with
      | activate => exact h.of_same (fun _ => Or.inl rfl) (.refl node) rfl
      | cleanup =>
          exact .of_state (rfl : _ = PrimaryState.unconfigured) (by decide) (by decide)
      | shutdown =>
          exact .of_state (rfl : _ = PrimaryState.finalized) (by decide) (by decide)
      | _ => exact hsame rfl
  | active =>
      cases transition with
      | deactivate => exact h.of_same (fun _ => Or.inr rfl) (.refl node) rfl
      | shutdown =>
          exact .of_state (rfl : _ = PrimaryState.finalized) (by decide) (by decide)
      | _ => exact hsame rfl
  | finalized => exact hsame (by cases transition <;> rfl)

theorem writes_iff {s : Sensing C} {now : Time}
    (hreturns : ¬ (s.attempt (.checkDataAge now)).Throws) :
    Writes s now = true ↔
      s.cycling = true ∧ s.shared.isChecked = true ∧ s.shared.reportDue now = true := by
  rw [Writes, Bool.and_eq_true, Bool.and_eq_true, Bool.and_eq_true, and_assoc, and_assoc]
  refine and_congr_right fun hcycling => and_congr_right fun hchecked => ?_
  refine and_iff_left_of_imp fun hdue => decide_eq_true ?_
  by_contra hmismatch
  apply hreturns
  have hreport : ∃ checked : Shared C, checked.nav = s.nav ∧
      s.shared.checkDataAge now = checked.reportDataAge := by
    rw [Shared.checkDataAge, hchecked]
    dsimp only
    rw [if_neg (by decide), if_pos hdue]
    exact ⟨_, rfl, rfl⟩
  obtain ⟨checked, hnav, hreport⟩ := hreport
  have hthrows : checked.reportDataAge.Throws := by
    by_contra hnot
    exact hmismatch (hnav ▸ set_of_reportDataAge hnot)
  obtain ⟨error, herror⟩ := hthrows
  refine ⟨error, ?_⟩
  unfold Sensing.attempt
  dsimp only
  rw [if_pos hcycling, Sensing.after, hreport, herror]
  rfl

theorem step_check_node {s : Sensing C} (hcycling : s.cycling = true) (now : Time) :
    (s.step (.checkDataAge now)).node =
      ⟨s.node.state, (s.shared.checkDataAge now).1.node⟩ := by
  unfold Sensing.step Sensing.attempt
  dsimp only
  rw [if_pos hcycling]
  rfl

theorem check_shown {s : Sensing C} {shown : Option DiagnosticStatus} (h : AgesShown ⟨s, shown⟩)
    {now : Time} (hreturns : ¬ (s.attempt (.checkDataAge now)).Throws)
    (hconfigured : Configured s) (hcycling : s.cycling = true) :
    (step ⟨s, shown⟩ (.checkDataAge now)).shown =
      some (dataAgeDiagnostic (s.step (.checkDataAge now)).node.data) := by
  have hchecked : s.shared.isChecked = true := decide_eq_true (h.dataStates hconfigured)
  rw [step]
  dsimp only
  split
  · rfl
  · rename_i hnot
    have hnotDue : s.shared.reportDue now = false := by
      by_contra hdue
      rw [Bool.not_eq_false] at hdue
      exact hnot ((writes_iff hreturns).mpr ⟨hcycling, hchecked, hdue⟩)
    simp only [Shared.reportDue, Bool.or_eq_false_iff, Bool.not_eq_false',
      decide_eq_false_iff_not, not_not] at hnotDue
    obtain ⟨hreported, hstates⟩ := hnotDue
    have hsame : SameAges (s.step (.checkDataAge now)).node.data s.node.data := by
      rw [step_check_node hcycling, checkDataAge_node_eq hchecked]
      exact ⟨rfl, rfl, hstates, hreported.symm⟩
    rw [hsame.diagnostic_eq]
    exact h.shown hconfigured hreported

theorem check_tell {s : Sensing C} {shown : Option DiagnosticStatus} (h : AgesShown ⟨s, shown⟩)
    (hconfigured : Configured s) (hcycling : s.cycling = true) (now : Time) :
    StatesTell (s.step (.checkDataAge now)).node.data.handlers
      (s.step (.checkDataAge now)).node.data.dataStates
      (s.step (.checkDataAge now)).node.data.perceptions := by
  have hchecked : s.shared.isChecked = true := decide_eq_true (h.dataStates hconfigured)
  rw [step_check_node hcycling, checkDataAge_node_eq hchecked]
  exact checkHandlers_tell s.node.data.handlers s.node.data.perceptions

theorem check_told {s : Sensing C} {shown : Option DiagnosticStatus} (h : AgesShown ⟨s, shown⟩)
    {now : Time} (hreturns : ¬ (s.attempt (.checkDataAge now)).Throws) :
    AgesShown (step ⟨s, shown⟩ (.checkDataAge now)) := by
  cases hcycling : s.cycling with
  | false =>
      have hidle : s.step (.checkDataAge now) = s := by
        unfold Sensing.step Sensing.attempt
        dsimp only
        rw [hcycling]
        rfl
      have hwrites : ¬ Writes s now = true := by
        rw [writes_iff hreturns, hcycling]
        exact fun hcase => Bool.false_ne_true hcase.1
      refine h.of_same ?_ ?_ (if_neg hwrites)
      · rw [step_sensing, hidle]
        exact id
      · rw [step_sensing, hidle]
        exact .refl _
  | true =>
      have hstate : (s.step (.checkDataAge now)).node.state = s.node.state := by
        rw [step_check_node hcycling]
      constructor
      · intro hconfigured
        rw [Configured, step_sensing, hstate] at hconfigured
        exact (check_tell h hconfigured hcycling now).1
      · intro hconfigured _
        rw [Configured, step_sensing, hstate] at hconfigured
        exact check_shown h hreturns hconfigured hcycling

theorem step_told {r : Reporting C} (h : AgesShown r) {e : Event C}
    (hundisturbed : Undisturbed r e) : AgesShown (step r e) := by
  have hother : (∀ transition params plugins, e ≠ .trigger transition params plugins) →
      (∀ now, e ≠ .checkDataAge now) → AgesShown (step r e) := by
    intro htrigger hcheck
    obtain ⟨hstate, hsame⟩ := step_sameAges r.sensing htrigger hcheck
    refine h.of_same ?_ hsame ?_
    · intro hconfigured
      rw [Configured, step_sensing, hstate] at hconfigured
      exact hconfigured
    · cases e with
      | checkDataAge now => exact absurd rfl (hcheck now)
      | set key type => exact if_neg (of_decide_eq_false hundisturbed.2)
      | _ => rfl
  cases e with
  | trigger transition params plugins =>
      cases hcycling : r.sensing.cycling with
      | false => exact trigger_told hcycling h transition params plugins
      | true =>
          have hidle : r.sensing.step (.trigger transition params plugins) = r.sensing := by
            unfold Sensing.step Sensing.attempt
            dsimp only
            rw [if_pos hcycling]
          have hsame : step r (.trigger transition params plugins) = r :=
            congrArg (fun s => (⟨s, r.shown⟩ : Reporting C)) hidle
          rw [hsame]
          exact h
  | checkDataAge now => exact check_told h hundisturbed.1
  | _ => exact hother (fun _ _ _ => by simp) (fun _ => by simp)

end Steps

section Runs

variable [Inhabited C] {r : Reporting C} {past : List (Reporting C × Event C)}

theorem run_told (hrun : Run step Start r past) (hundisturbed : ∀ p ∈ past, Undisturbed p.1 p.2) :
    AgesShown r := by
  apply hrun.invariant Undisturbed
  · rintro r ⟨⟨clockType, hsensing⟩, -⟩
    have hstate : r.sensing.node.state = .unconfigured :=
      congrArg (fun s : Sensing C => s.node.state) hsensing
    exact .of_state hstate (by decide) (by decide)
  · exact fun r e h he => step_told h he
  · exact hundisturbed

/-- What the diagnostic tells of the sensors of a configuration. -/
structure Tells (node : SensorsNode C) (shown : Option DiagnosticStatus) : Prop where
  shown : shown = some (dataAgeDiagnostic node)
  states : StatesTell node.handlers node.dataStates node.perceptions
  values : (∀ handler ∈ node.handlers, handler.sensorName ≠ "") →
    (dataAgeDiagnostic node).values =
      [("stale", ", ".intercalate (sensorsIn .stale (node.handlers.zip node.dataStates))),
        ("no_data", ", ".intercalate (sensorsIn .noData (node.handlers.zip node.dataStates)))]
  level : (∀ handler ∈ node.handlers, handler.sensorName ≠ "") →
    ((dataAgeDiagnostic node).level = .ok ↔
      ∀ handler ∈ node.handlers, (node.perceptions handler.perception).valid = true)

/-- After every check of a configuration, whatever was configured before, the diagnostic lists
just the sensors whose data is not to be used. -/
theorem sensors_told (hrun : Run step Start r past)
    (hundisturbed : ∀ p ∈ past, Undisturbed p.1 p.2) (hconfigured : Configured r.sensing)
    (hcycling : r.sensing.cycling = true) {now : Time}
    (hreturns : ¬ (r.sensing.attempt (.checkDataAge now)).Throws) :
    Tells (step r (.checkDataAge now)).sensing.node.data (step r (.checkDataAge now)).shown := by
  have htold := run_told hrun hundisturbed
  have htell := check_tell htold hconfigured hcycling now
  refine ⟨check_shown htold hreturns hconfigured hcycling, htell, ?_, ?_⟩
  · intro hnames
    rw [dataAgeDiagnostic,
      listSensors_eq fun sensor hsensor => hnames _ (List.of_mem_zip hsensor).1]
    dsimp only
    split <;> rfl
  · intro hnames
    rw [dataAgeDiagnostic_level _ hnames]
    exact htell.forall_fresh_iff

end Runs

section Example

def exampleSensors : List SensorParameters :=
  [{ id := "front", type := "sensor_msgs/msg/LaserScan" },
    { id := "camera", type := "sensor_msgs/msg/Image" }]

def exampleEvents : List (Event Nat) :=
  [trigger .configure [{ id := "rear", type := "sensor_msgs/msg/LaserScan" }],
    trigger .activate [], .cycleHandlers, .checkDataAge 0, trigger .deactivate [],
    trigger .cleanup [], trigger .configure exampleSensors, trigger .activate [],
    .receive 0 1 "front" 1000000000 true fun _ _ => true, .cycleHandlers,
    .checkDataAge 1000000000, .cycleHandlers]

def exampleStart : Reporting Nat := ⟨.create .ros, none⟩

theorem exampleEvents_run :
    Run step Start (exampleEvents.foldl step exampleStart)
      (history step exampleStart exampleEvents []) :=
  (Run.init ⟨⟨.ros, rfl⟩, rfl⟩).foldl exampleEvents

theorem exampleEvents_undisturbed :
    ∀ p ∈ history step exampleStart exampleEvents [], Undisturbed p.1 p.2 := by
  have hok : ∀ p ∈ history step exampleStart exampleEvents [],
      (p.1.sensing.attempt p.2).2.isOk = true ∧ storesDiagnostic p.2 = false := by
    decide +kernel
  intro p hp
  obtain ⟨hok, hstores⟩ := hok p hp
  refine ⟨?_, hstores⟩
  rintro ⟨error, herror⟩
  rw [herror] at hok
  cases hok

/-- Two seconds after the scan of the laser. -/
theorem sensors_told_stale :
    let r := exampleEvents.foldl step exampleStart
    (step r (.checkDataAge 3000000000)).shown.map DiagnosticStatus.message =
        some "No data for more than 1.000000 s from: front; No data yet from: camera" ∧
      Tells (step r (.checkDataAge 3000000000)).sensing.node.data
        (step r (.checkDataAge 3000000000)).shown := by
  refine ⟨by decide +kernel, ?_⟩
  apply sensors_told exampleEvents_run exampleEvents_undisturbed
  · exact Or.inr (by decide +kernel)
  · decide +kernel
  · have hok : ((exampleEvents.foldl step exampleStart).sensing.attempt
        (.checkDataAge 3000000000)).2.isOk = true := by decide +kernel
    rintro ⟨error, herror⟩
    rw [herror] at hok
    cases hok

end Example

end EasyNav.SensorReports
