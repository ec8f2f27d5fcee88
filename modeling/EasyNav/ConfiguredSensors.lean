import EasyNav.RemovedSensors
import EasyNav.SortedMaps
import Mathlib.Data.List.Forall2
import Mathlib.Data.String.Basic

namespace EasyNav.ConfiguredSensors

open EasyNav.DoubleArithmetic
open EasyNav.Lifecycle
open EasyNav.PointPerceptions
open EasyNav.Runs
open EasyNav.SensorReconfiguration
open EasyNav.SortedMaps
open EasyNav.TypedStores
open EasyNav.RemovedSensors (History checkDataAge_node)

universe u

/-- The handler of a sensor, as its parameters and the plugin loader have it. -/
structure HandlerOf (createSharedInstance : String → Option SensorKind)
    (sensor : SensorParameters) (handler : Handler) : Prop where
  sensorName : handler.sensorName = sensor.id
  kind : createSharedInstance sensor.pluginOrDefault = some handler.kind
  key : handler.key = if handler.kind = .odometry then sensor.navStateKey else sensor.id

def membersOf (sensors : List SensorParameters) (group : String) : Option (List String) :=
  if group = "" then none
  else
    match (sensors.filter fun sensor => sensor.group = group).map SensorParameters.id with
    | [] => none
    | ids => some ids

structure GroupsOf (sensors : List SensorParameters) (groups : List (String × List String)) :
    Prop where
  sorted : Sorted groups
  members : ∀ group, groups.lookup group = membersOf sensors group

variable {C : Type u}

/-- One handler for each sensor, in order, with a state for the age of its data, and the
groups that the sensors name. -/
structure ConfiguredAs (createSharedInstance : String → Option SensorKind)
    (sensors : List SensorParameters) (node : SensorsNode C) : Prop where
  handlers : List.Forall₂ (HandlerOf createSharedInstance) sensors node.handlers
  dataStates : node.dataStates.length = node.handlers.length
  groups : GroupsOf sensors node.groups

/-- The sensor has a plugin, which can be loaded and takes its messages. -/
def Loads (createSharedInstance : String → Option SensorKind) (sensor : SensorParameters) : Prop :=
  sensor.pluginOrDefault ≠ "" ∧ ∃ kind,
    createSharedInstance sensor.pluginOrDefault = some kind ∧ sensor.type ∈ kind.messageTypes

structure Valid (params : Parameters) (createSharedInstance : String → Option SensorKind) :
    Prop where
  finite : params.forgetTime.isFinite = true
  positive : ¬ params.forgetTime ≤ 0
  loads : ∀ sensor ∈ params.sensors, Loads createSharedInstance sensor

section Groups

variable {group name : String} {groups : List (String × List String)}
  {sensors : List SensorParameters} {sensor : SensorParameters}

theorem emplaceInGroup_eq (group name : String) (groups : List (String × List String)) :
    emplaceInGroup group name groups =
      alter group (fun names => names.getD [] ++ [name]) groups := by
  induction groups with
  | nil => rfl
  | cons entry groups ih =>
      obtain ⟨other, names⟩ := entry
      simp only [emplaceInGroup, alter, ih]
      split
      · rename_i heq
        simp [heq]
      · rfl

theorem membersOf_append (sensors : List SensorParameters) (sensor : SensorParameters)
    (group : String) :
    membersOf (sensors ++ [sensor]) group =
      if group = sensor.group ∧ group ≠ "" then
        some ((membersOf sensors group).getD [] ++ [sensor.id])
      else membersOf sensors group := by
  by_cases hgroup : group = ""
  · simp [membersOf, hgroup]
  · by_cases hsensor : group = sensor.group
    · subst hsensor
      simp only [membersOf, hgroup, if_false, List.filter_append, List.map_append, ne_eq,
        not_false_eq_true, and_self, if_true]
      cases (sensors.filter fun other => other.group = sensor.group).map SensorParameters.id with
      | nil => simp
      | cons id ids => simp
    · simp [membersOf, hgroup, hsensor, Ne.symm hsensor]

theorem groupsOf_nil : GroupsOf [] [] where
  sorted := List.Pairwise.nil
  members group := by simp [membersOf]

theorem GroupsOf.addSensor (h : GroupsOf sensors groups) (sensor : SensorParameters) :
    GroupsOf (sensors ++ [sensor])
      (if sensor.group ≠ "" then emplaceInGroup sensor.group sensor.id groups else groups) := by
  split
  · rename_i hgroup
    rw [emplaceInGroup_eq]
    constructor
    · exact h.sorted.alter
    · intro group
      rw [h.sorted.lookup_alter, membersOf_append, h.members, h.members]
      by_cases heq : group = sensor.group
      · simp [heq, hgroup]
      · simp [heq]
  · rename_i hgroup
    constructor
    · exact h.sorted
    · intro group
      rw [h.members, membersOf_append, if_neg]
      rintro ⟨rfl, hne⟩
      exact hgroup hne

end Groups

section Loading

variable [Inhabited C] {createSharedInstance : String → Option SensorKind}
  {node : SensorsNode C} {done sensors : List SensorParameters} {params : Parameters}

theorem loadHandlers_cons_of_loads {sensor : SensorParameters}
    (h : Loads createSharedInstance sensor) (sensors : List SensorParameters)
    (node : SensorsNode C) :
    ∃ kind, createSharedInstance sensor.pluginOrDefault = some kind ∧
      SensorsNode.loadHandlers createSharedInstance (sensor :: sensors) node =
        SensorsNode.loadHandlers createSharedInstance sensors (node.addHandler sensor kind) := by
  obtain ⟨hplugin, kind, hkind, htype⟩ := h
  refine ⟨kind, hkind, ?_⟩
  simp [SensorsNode.loadHandlers, hplugin, hkind, htype]

theorem loadHandlers_cons_of_not_loads {sensor : SensorParameters}
    (h : ¬ Loads createSharedInstance sensor) :
    (SensorsNode.loadHandlers createSharedInstance (sensor :: sensors) node).2 ≠ .success := by
  simp only [SensorsNode.loadHandlers]
  split
  · simp
  · rename_i hplugin
    split
    · simp
    · rename_i kind hkind
      split
      · rename_i htype
        exact absurd ⟨hplugin, kind, hkind, htype⟩ h
      · simp

theorem loadHandlers_success_iff (createSharedInstance : String → Option SensorKind)
    (sensors : List SensorParameters) (node : SensorsNode C) :
    (SensorsNode.loadHandlers createSharedInstance sensors node).2 = .success ↔
      ∀ sensor ∈ sensors, Loads createSharedInstance sensor := by
  induction sensors generalizing node with
  | nil => simp [SensorsNode.loadHandlers]
  | cons sensor sensors ih =>
      rw [List.forall_mem_cons]
      by_cases hloads : Loads createSharedInstance sensor
      · obtain ⟨kind, -, heq⟩ := loadHandlers_cons_of_loads hloads sensors node
        rw [heq, ih]
        exact (and_iff_right hloads).symm
      · refine iff_of_false (loadHandlers_cons_of_not_loads hloads) ?_
        exact fun h => hloads h.1

theorem loadHandlers_length (h : ∀ sensor ∈ sensors, Loads createSharedInstance sensor)
    (node : SensorsNode C) :
    (SensorsNode.loadHandlers createSharedInstance sensors node).1.handlers.length =
      node.handlers.length + sensors.length := by
  induction sensors generalizing node with
  | nil => rfl
  | cons sensor sensors ih =>
      obtain ⟨hfirst, hrest⟩ := List.forall_mem_cons.mp h
      obtain ⟨kind, -, heq⟩ := loadHandlers_cons_of_loads hfirst sensors node
      rw [heq, ih hrest _]
      simp only [SensorsNode.addHandler, List.length_append, List.length_cons, List.length_nil]
      omega

/-- The node has the handlers and the groups of these sensors. -/
structure HandlersOf (createSharedInstance : String → Option SensorKind)
    (sensors : List SensorParameters) (node : SensorsNode C) : Prop where
  handlers : List.Forall₂ (HandlerOf createSharedInstance) sensors node.handlers
  groups : GroupsOf sensors node.groups

theorem HandlersOf.addHandler (h : HandlersOf createSharedInstance sensors node)
    {sensor : SensorParameters} {kind : SensorKind}
    (hkind : createSharedInstance sensor.pluginOrDefault = some kind) :
    HandlersOf createSharedInstance (sensors ++ [sensor]) (node.addHandler sensor kind) where
  handlers := List.rel_append h.handlers (List.Forall₂.cons ⟨rfl, hkind, rfl⟩ List.Forall₂.nil)
  groups := h.groups.addSensor sensor

theorem HandlersOf.loadHandlers (h : HandlersOf createSharedInstance done node)
    (hloads : ∀ sensor ∈ sensors, Loads createSharedInstance sensor) :
    HandlersOf createSharedInstance (done ++ sensors)
      (SensorsNode.loadHandlers createSharedInstance sensors node).1 := by
  induction sensors generalizing done node with
  | nil =>
      rw [List.append_nil]
      exact h
  | cons sensor sensors ih =>
      obtain ⟨hfirst, hrest⟩ := List.forall_mem_cons.mp hloads
      obtain ⟨kind, hkind, heq⟩ := loadHandlers_cons_of_loads hfirst sensors node
      rw [heq, List.append_cons]
      exact ih (h.addHandler hkind) hrest

theorem onConfigure_success_iff (node : SensorsNode C) :
    (node.onConfigure params createSharedInstance).2 = .success ↔
      Valid params createSharedInstance := by
  rw [SensorsNode.onConfigure]
  split
  · rename_i hinvalid
    refine iff_of_false (by simp) fun h => ?_
    rcases hinvalid with hinfinite | hnegative
    · simp [h.finite] at hinfinite
    · exact h.positive hnegative
  · rename_i hvalid
    simp only [Bool.not_eq_true', not_or, Bool.not_eq_false] at hvalid
    have hloads := loadHandlers_success_iff createSharedInstance params.sensors
      { node with forgetTime := params.forgetTime }
    have hanswer : Valid params createSharedInstance ↔
        ∀ sensor ∈ params.sensors, Loads createSharedInstance sensor :=
      ⟨fun h => h.loads, fun h => ⟨hvalid.1, hvalid.2, h⟩⟩
    rw [hanswer, ← hloads]
    split
    · rename_i heq
      rw [heq]
    · rename_i answer heq
      rw [heq]

theorem onConfigure_of_valid (h : Valid params createSharedInstance) (node : SensorsNode C) :
    ∃ loaded, SensorsNode.loadHandlers createSharedInstance params.sensors
          { node with forgetTime := params.forgetTime } = (loaded, .success) ∧
        node.onConfigure params createSharedInstance =
          ({ loaded with
            dataStates := List.replicate loaded.handlers.length .noData
            dataAgeReported := false }, .success) := by
  have hsuccess := (loadHandlers_success_iff createSharedInstance params.sensors
    { node with forgetTime := params.forgetTime }).mpr h.loads
  have hvalid : ¬ ((!params.forgetTime.isFinite) = true ∨ params.forgetTime ≤ 0) := by
    simp [h.finite, h.positive]
  rw [SensorsNode.onConfigure, if_neg hvalid]
  generalize SensorsNode.loadHandlers createSharedInstance params.sensors
    { node with forgetTime := params.forgetTime } = result at hsuccess ⊢
  obtain ⟨loaded, answer⟩ := result
  obtain rfl : answer = .success := hsuccess
  exact ⟨loaded, rfl, rfl⟩

end Loading

section Frames

/-- With no handlers left, there are no groups left. -/
def Tidy (node : SensorsNode C) : Prop := node.handlers = [] → node.groups = []

structure Keeps (before node : SensorsNode C) : Prop where
  handlers : node.handlers = before.handlers
  groups : node.groups = before.groups

theorem Keeps.tidy {before node : SensorsNode C} (h : Keeps before node) (htidy : Tidy before) :
    Tidy node := by
  intro hnone
  rw [h.groups]
  apply htidy
  rw [← h.handlers]
  exact hnone

theorem cycleHandlers_keeps {before : SensorsNode C} {s : Shared C} (h : Keeps before s.node)
    (handlers : List Handler) (trigger : Bool) :
    Keeps before (s.cycleHandlers handlers trigger).1.node := by
  induction handlers generalizing s trigger with
  | nil => exact h
  | cons handler handlers ih =>
      have hcycled : Keeps before (s.cycleHandler handler).1.node :=
        Attempt.andThen_state (motive := fun s' : Shared C => Keeps before s'.node) h
          fun _ => ⟨h.handlers, h.groups⟩
      exact Attempt.andThen_state (motive := fun s' : Shared C => Keeps before s'.node) hcycled
        fun _ => ih hcycled _

theorem setGroups_keeps {before : SensorsNode C} {s : Shared C} (h : Keeps before s.node)
    (groups : List (String × List String)) : Keeps before (s.setGroups groups).1.node := by
  induction groups generalizing s with
  | nil => exact h
  | cons group groups ih =>
      exact Attempt.andThen_state (motive := fun s' : Shared C => Keeps before s'.node) h
        fun _ => ih h

theorem cycle_keeps (s : Shared C) : Keeps s.node s.cycle.1.node := by
  have hrefl : Keeps s.node s.node := ⟨rfl, rfl⟩
  rw [Shared.cycle]
  split
  · exact hrefl
  · have hgroups := setGroups_keeps hrefl s.node.groups
    exact Attempt.andThen_state (motive := fun s' : Shared C => Keeps s.node s'.node) hgroups
      fun _ => ⟨hgroups.handlers, hgroups.groups⟩

theorem checkDataAge_keeps (s : Shared C) (now : Time) :
    Keeps s.node (s.checkDataAge now).1.node := by
  obtain ⟨states, reported, hnode⟩ := checkDataAge_node s now
  rw [hnode]
  exact ⟨rfl, rfl⟩

end Frames

section Attempts

variable [Inhabited C] {createSharedInstance : String → Option SensorKind}
  {node : Managed (SensorsNode C)} {params : Parameters}

theorem trigger_inactive_iff (hstate : node.state = .unconfigured) :
    (node.trigger (SensorsNode.callbacks params createSharedInstance) .configure).state =
        .inactive ↔ Valid params createSharedInstance := by
  have hgoal : node.state.goal .configure = some .inactive := by
    rw [hstate]
    rfl
  rw [← onConfigure_success_iff node.data, Managed.trigger_of_goal hgoal, hstate]
  change (Managed.settle _ _ _ _ (node.data.onConfigure params createSharedInstance)).state =
    _ ↔ _
  generalize node.data.onConfigure params createSharedInstance = result
  obtain ⟨data, answer⟩ := result
  cases answer with
  | success => simp [Managed.settle]
  | failure => simp [Managed.settle, PrimaryState.onFailure]
  | error => simp [Managed.settle, SensorsNode.callbacks]

theorem trigger_data_of_valid (hstate : node.state = .unconfigured)
    (h : Valid params createSharedInstance) :
    (node.trigger (SensorsNode.callbacks params createSharedInstance) .configure).data =
      (node.data.onConfigure params createSharedInstance).1 := by
  have hgoal : node.state.goal .configure = some .inactive := by
    rw [hstate]
    rfl
  obtain ⟨loaded, -, heq⟩ := onConfigure_of_valid h node.data
  rw [Managed.trigger_of_success hgoal heq, heq]

/-- A successful configuration leaves what was asked for if no handlers were left. -/
theorem configuredAs_iff (hstate : node.state = .unconfigured) (htidy : Tidy node.data)
    (h : Valid params createSharedInstance) :
    ConfiguredAs createSharedInstance params.sensors
        (node.trigger (SensorsNode.callbacks params createSharedInstance) .configure).data ↔
      node.data.handlers = [] := by
  obtain ⟨loaded, hloaded, heq⟩ := onConfigure_of_valid h node.data
  rw [trigger_data_of_valid hstate h, heq]
  constructor
  · rintro ⟨hhandlers, -, -⟩
    have hlength := loadHandlers_length h.loads
      { node.data with forgetTime := params.forgetTime }
    rw [hloaded] at hlength
    have hsame := hhandlers.length_eq
    dsimp only at hsame hlength
    apply List.eq_nil_of_length_eq_zero
    omega
  · intro hnone
    have hstart : HandlersOf createSharedInstance []
        { node.data with forgetTime := params.forgetTime } := by
      constructor
      · rw [hnone]
        exact List.Forall₂.nil
      · rw [htidy hnone]
        exact groupsOf_nil
    have hdone := hstart.loadHandlers h.loads
    rw [hloaded, List.nil_append] at hdone
    exact ⟨hdone.handlers, List.length_replicate, hdone.groups⟩

end Attempts

section Runs

variable [Inhabited C] {s : Sensing C} {past : History C}

theorem loadHandlers_tidy {node : SensorsNode C} (h : Tidy node)
    (createSharedInstance : String → Option SensorKind) (sensors : List SensorParameters) :
    Tidy (SensorsNode.loadHandlers createSharedInstance sensors node).1 := by
  induction sensors generalizing node with
  | nil => exact h
  | cons sensor sensors ih =>
      simp only [SensorsNode.loadHandlers]
      split
      · exact h
      · split
        · exact h
        · split
          · apply ih
            exact fun hnone => absurd hnone (List.append_ne_nil_of_right_ne_nil _ (by simp))
          · exact h

theorem onConfigure_tidy {node : SensorsNode C} (h : Tidy node) (params : Parameters)
    (createSharedInstance : String → Option SensorKind) :
    Tidy (node.onConfigure params createSharedInstance).1 := by
  have hread : Tidy { node with forgetTime := params.forgetTime } := h
  rw [SensorsNode.onConfigure]
  split
  · exact hread
  · have hloaded := loadHandlers_tidy hread createSharedInstance params.sensors
    split
    · rename_i heq
      rw [heq] at hloaded
      exact hloaded
    · rename_i heq
      rw [heq] at hloaded
      exact hloaded

theorem trigger_tidy {node : Managed (SensorsNode C)} (h : Tidy node.data)
    (transition : Transition) (params : Parameters)
    (createSharedInstance : String → Option SensorKind) :
    Tidy (node.trigger (SensorsNode.callbacks params createSharedInstance) transition).data := by
  apply Managed.trigger_data node
  · intro data htidy
    cases transition with
    | configure => exact onConfigure_tidy htidy params createSharedInstance
    | cleanup => exact fun _ => rfl
    | activate => exact htidy
    | deactivate => exact htidy
    | shutdown => exact fun _ => rfl
  · exact fun _ _ _ => rfl
  · exact h

theorem step_tidy (h : Tidy s.node.data) (e : Event C) : Tidy (s.step e).node.data := by
  have hrefl : Keeps s.node.data s.node.data := ⟨rfl, rfl⟩
  cases e with
  | trigger transition params createSharedInstance =>
      simp only [Sensing.step, Sensing.attempt]
      split
      · exact h
      · exact trigger_tidy h transition params createSharedInstance
  | receive handler data frame stamp decodes canTransform =>
      simp only [Sensing.step, Sensing.attempt]
      split
      · exact h
      · split
        · exact h
        · exact h
  | cycleHandlers =>
      simp only [Sensing.step, Sensing.attempt]
      split
      · exact h
      · exact (cycleHandlers_keeps (s := s.shared) hrefl _ _).tidy h
  | checkDataAge now =>
      simp only [Sensing.step, Sensing.attempt]
      split
      · exact (checkDataAge_keeps s.shared now).tidy h
      · exact h
  | cycle => exact (cycle_keeps s.shared).tidy h
  | fuse perception canTransform => exact h
  | set key type => exact h
  | addToGroup groupKey key => exact h

theorem run_tidy (hrun : Run Sensing.step IsInitial s past) : Tidy s.node.data := by
  refine hrun.invariant_of_all (motive := fun s => Tidy s.node.data) ?_ fun s e h => step_tidy h e
  rintro s ⟨clockType, rfl⟩
  exact fun _ => rfl

/-- In every run, an attempt to configure leaves the sensors that are asked for, unless it
succeeds with handlers left from before it. -/
theorem configures_as_asked_iff (hrun : Run Sensing.step IsInitial s past)
    (hstate : s.node.state = .unconfigured) (params : Parameters)
    (createSharedInstance : String → Option SensorKind) :
    ((s.node.trigger (SensorsNode.callbacks params createSharedInstance) .configure).state =
          .inactive →
        ConfiguredAs createSharedInstance params.sensors
          (s.node.trigger (SensorsNode.callbacks params createSharedInstance) .configure).data) ↔
      ¬ (Valid params createSharedInstance ∧ s.node.data.handlers ≠ []) := by
  rw [trigger_inactive_iff hstate, not_and, not_not]
  constructor
  · exact fun h hvalid => (configuredAs_iff hstate (run_tidy hrun) hvalid).mp (h hvalid)
  · exact fun h hvalid => (configuredAs_iff hstate (run_tidy hrun) hvalid).mpr (h hvalid)

def scanner (id : String) : SensorParameters :=
  { id := id, type := "sensor_msgs/msg/LaserScan", group := "points" }

def failedHalfway : Sensing Nat :=
  (Sensing.create .ros).step (.trigger .configure
    { sensors := [scanner "front", { id := "odd", type := "std_msgs/msg/String" }] }
    packagePlugins)

/-- The front scanner of an attempt that failed is still there in the next one. -/
theorem configured_twice :
    ¬ ∀ (s : Sensing Nat) (past : History Nat), Run Sensing.step IsInitial s past →
      s.node.state = .unconfigured →
        ∀ (params : Parameters) (createSharedInstance : String → Option SensorKind),
          (s.node.trigger (SensorsNode.callbacks params createSharedInstance) .configure).state =
              .inactive →
            ConfiguredAs createSharedInstance params.sensors
              (s.node.trigger (SensorsNode.callbacks params createSharedInstance)
                .configure).data := by
  intro h
  have hstart : Run Sensing.step IsInitial (Sensing.create (C := Nat) .ros) [] := .init ⟨.ros, rfl⟩
  have hconfigured := h failedHalfway _ (hstart.next _) (by decide +kernel)
    { sensors := [scanner "front"] } packagePlugins (by decide +kernel)
  have htwo : (failedHalfway.node.trigger (SensorsNode.callbacks
      { sensors := [scanner "front"] } packagePlugins) .configure).data.handlers.length = 2 := by
    decide +kernel
  have hone := hconfigured.handlers.length_eq
  rw [htwo] at hone
  contradiction

/-- After a cleanup, two scanners are configured as asked for. -/
theorem configures_as_asked_iff_scanners :
    let configured := (Sensing.create (C := Nat) .ros).step
      (.trigger .configure { sensors := [scanner "front"] } packagePlugins)
    let s := configured.step (.trigger .cleanup { sensors := [] } packagePlugins)
    let params : Parameters := { sensors := [scanner "front", scanner "rear"] }
    ConfiguredAs packagePlugins params.sensors
      (s.node.trigger (SensorsNode.callbacks params packagePlugins) .configure).data := by
  intro configured s params
  have hstart : Run Sensing.step IsInitial (Sensing.create (C := Nat) .ros) [] := .init ⟨.ros, rfl⟩
  apply (configures_as_asked_iff ((hstart.next _).next _) (by decide +kernel) params
    packagePlugins).mpr
  · rintro ⟨-, hleft⟩
    exact hleft (by decide +kernel)
  · decide +kernel

end Runs

end EasyNav.ConfiguredSensors
