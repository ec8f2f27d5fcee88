import EasyNav.SensorReconfiguration

namespace EasyNav.KeyTypes

open EasyNav.DoubleArithmetic
open EasyNav.Lifecycle
open EasyNav.PointPerceptions
open EasyNav.Runs
open EasyNav.SensorReconfiguration
open EasyNav.TypedStores

universe u

variable {C : Type u} {types : String → StoredType}

def NavAgrees (types : String → StoredType) (nav : NavState) : Prop :=
  nav.values.Agrees Entry.type types

def Agrees (types : String → StoredType) (s : Shared C) : Prop := NavAgrees types s.nav

section Blackboard

variable {nav : NavState} {key : String} {entry : Entry}

theorem set_ensures_iff :
    (nav.set key entry).Ensures (NavAgrees types) ↔
      NavAgrees types nav ∧ types key = entry.type :=
  Store.set_ensures_iff

theorem setGroup_ensures_iff {groupKeys : List String} :
    (nav.setGroup key groupKeys).Ensures (NavAgrees types) ↔
      NavAgrees types nav ∧ types key = .strings :=
  set_ensures_iff

theorem addToGroup_ensures_iff {groupKey : String} :
    (nav.addToGroup groupKey key).Ensures (NavAgrees types) ↔
      NavAgrees types nav ∧ (key ∉ nav.groupKeys groupKey → types groupKey = .strings) := by
  unfold NavState.addToGroup
  split
  · rename_i hmem
    rw [Attempt.ensures_ok_iff, and_iff_left fun hnot => absurd hmem hnot]
  · rename_i hnot
    rw [setGroup_ensures_iff, imp_iff_right hnot]

theorem set_agrees_iff :
    NavAgrees types (nav.set key entry).1 ↔
      NavAgrees types nav ∧ (nav.values key = none → types key = entry.type) :=
  Store.set_agrees_iff

theorem addToGroup_agrees_iff {groupKey : String} :
    NavAgrees types (nav.addToGroup groupKey key).1 ↔
      NavAgrees types nav ∧ (key ∉ nav.groupKeys groupKey → nav.values groupKey = none →
        types groupKey = .strings) := by
  unfold NavState.addToGroup
  split
  · rename_i hmem
    exact (and_iff_left fun hnot => absurd hmem hnot).symm
  · rename_i hnot
    rw [imp_iff_right hnot]
    exact set_agrees_iff

end Blackboard

section Cycles

variable {s : Shared C}

theorem onNav_ensures_iff {α : Type} {attempt : Attempt NavState TypeMismatch α} :
    (s.onNav attempt).Ensures (Agrees types) ↔ attempt.Ensures (NavAgrees types) :=
  Iff.rfl

theorem cycleHandler_ensures_iff {handler : Handler} :
    (s.cycleHandler handler).Ensures (Agrees types) ↔
      Agrees types s ∧ types handler.key = handler.kind.storedType := by
  unfold Shared.cycleHandler
  rw [Attempt.ensures_andThen_iff (Agrees types) True, and_true, onNav_ensures_iff]
  · exact set_ensures_iff
  · intro _
    rw [Attempt.ensures_ok_iff, and_true]
    exact Iff.rfl

theorem cycleHandlers_ensures_iff {handlers : List Handler} {trigger : Bool} :
    (s.cycleHandlers handlers trigger).Ensures (Agrees types) ↔
      Agrees types s ∧ ∀ handler ∈ handlers, types handler.key = handler.kind.storedType := by
  induction handlers generalizing trigger s with
  | nil =>
      rw [Shared.cycleHandlers, Attempt.ensures_ok_iff]
      exact (and_iff_left fun handler hmem => absurd hmem List.not_mem_nil).symm
  | cons handler handlers ih =>
      rw [Shared.cycleHandlers, List.forall_mem_cons, ← and_assoc, ← cycleHandler_ensures_iff]
      exact Attempt.ensures_andThen_iff _ _ fun _ => ih

/-- The report of the ages of the data has keys of its own. -/
def ReportFits (types : String → StoredType) (nav : NavState) : Prop :=
  types "diagnostics.sensors" = .diagnosticStatus ∧
    ("diagnostics.sensors" ∉ nav.groupKeys "diagnostics" → types "diagnostics" = .strings)

theorem reportDataAge_ensures_iff :
    s.reportDataAge.Ensures (Agrees types) ↔ Agrees types s ∧ ReportFits types s.nav := by
  unfold Shared.reportDataAge ReportFits
  dsimp only
  rw [← and_assoc, Attempt.ensures_andThen_iff (Agrees types) _, onNav_ensures_iff]
  · exact and_congr_left' set_ensures_iff
  · exact fun _ => addToGroup_ensures_iff

theorem checkDataAge_ensures_iff {now : Time} :
    (s.checkDataAge now).Ensures (Agrees types) ↔
      Agrees types s ∧ (s.isChecked = true → s.reportDue now = true →
        ReportFits types s.nav) := by
  unfold Shared.checkDataAge
  split
  · rename_i hunchecked
    rw [Bool.not_eq_true'] at hunchecked
    rw [Attempt.ensures_ok_iff, hunchecked]
    exact (and_iff_left fun h => nomatch h).symm
  · rename_i hchecked
    rw [Bool.not_eq_true', Bool.not_eq_false] at hchecked
    rw [imp_iff_right hchecked]
    dsimp only
    split
    · rename_i hdue
      rw [imp_iff_right hdue]
      exact reportDataAge_ensures_iff
    · rename_i hnot
      rw [Attempt.ensures_ok_iff]
      exact (and_iff_left fun hdue => absurd hdue hnot).symm

theorem setGroups_ensures_iff {groups : List (String × List String)} :
    (s.setGroups groups).Ensures (Agrees types) ↔
      Agrees types s ∧ ∀ group ∈ groups, types group.1 = .strings := by
  induction groups generalizing s with
  | nil =>
      rw [Shared.setGroups, Attempt.ensures_ok_iff]
      exact (and_iff_left fun group hmem => absurd hmem List.not_mem_nil).symm
  | cons group groups ih =>
      rw [Shared.setGroups, List.forall_mem_cons, ← and_assoc,
        Attempt.ensures_andThen_iff (Agrees types) _, onNav_ensures_iff]
      · exact and_congr_left' setGroup_ensures_iff
      · exact fun _ => ih

theorem cycle_ensures_iff :
    s.cycle.Ensures (Agrees types) ↔ Agrees types s ∧
      (s.node.groupsInitialized = false → ∀ group ∈ s.node.groups, types group.1 = .strings) := by
  unfold Shared.cycle
  split
  · rename_i hinitialized
    rw [Attempt.ensures_ok_iff, hinitialized]
    exact (and_iff_left fun h => nomatch h).symm
  · rename_i hnot
    rw [imp_iff_right (Bool.eq_false_of_not_eq_true hnot), ← setGroups_ensures_iff,
      Attempt.ensures_andThen_iff (Agrees types) True, and_true]
    intro _
    rw [Attempt.ensures_ok_iff, and_true]
    exact Iff.rfl

end Cycles

/-- What the step stores under a key has the key's type. Another component's values count
where they give a key its type. -/
def Conforms (types : String → StoredType) (s : Sensing C) : Event C → Prop
  | .cycleHandlers =>
      s.cycling = false →
        ∀ handler ∈ s.node.data.handlers, types handler.key = handler.kind.storedType
  | .checkDataAge now =>
      s.cycling = true → s.shared.isChecked = true → s.shared.reportDue now = true →
        ReportFits types s.nav
  | .cycle =>
      s.node.data.groupsInitialized = false →
        ∀ group ∈ s.node.data.groups, types group.1 = .strings
  | .set key type => s.nav.values key = none → types key = type
  | .addToGroup groupKey key =>
      key ∉ s.nav.groupKeys groupKey → s.nav.values groupKey = none → types groupKey = .strings
  | _ => True

section Steps

variable {s : Sensing C}

theorem after_ensures_iff {α : Type} {cycling : Bool}
    {attempt : Attempt (Shared C) TypeMismatch α} :
    (s.after cycling attempt).Ensures (fun s => NavAgrees types s.nav) ↔
      attempt.Ensures (Agrees types) := by
  rcases attempt with ⟨shared, result⟩
  cases result with
  | ok a => exact Attempt.ensures_ok_iff.trans Attempt.ensures_ok_iff.symm
  | error e => exact iff_of_false Attempt.not_ensures_error Attempt.not_ensures_error

theorem ensures_of_nav_eq {s' : Sensing C} (h : s'.nav = s.nav) :
    Attempt.Ensures (s', (.ok () : Except TypeMismatch Unit)) (fun s => NavAgrees types s.nav) ↔
      NavAgrees types s.nav ∧ True := by
  rw [Attempt.ensures_ok_iff, and_true, h]

variable [Inhabited C]

theorem step_cycleHandlers_ensures_iff :
    (s.attempt .cycleHandlers).Ensures (fun s => NavAgrees types s.nav) ↔
      NavAgrees types s.nav ∧ Conforms types s .cycleHandlers := by
  unfold Sensing.attempt Conforms
  dsimp only
  split
  · rename_i hcycling
    rw [Attempt.ensures_ok_iff, hcycling]
    exact (and_iff_left fun h => nomatch h).symm
  · rename_i hidle
    rw [imp_iff_right (Bool.eq_false_of_not_eq_true hidle)]
    exact after_ensures_iff.trans cycleHandlers_ensures_iff

theorem step_checkDataAge_ensures_iff {now : Time} :
    (s.attempt (.checkDataAge now)).Ensures (fun s => NavAgrees types s.nav) ↔
      NavAgrees types s.nav ∧ Conforms types s (.checkDataAge now) := by
  unfold Sensing.attempt Conforms
  dsimp only
  split
  · rename_i hcycling
    rw [imp_iff_right hcycling]
    exact after_ensures_iff.trans checkDataAge_ensures_iff
  · rename_i hidle
    rw [Attempt.ensures_ok_iff, Bool.eq_false_of_not_eq_true hidle]
    exact (and_iff_left fun h => nomatch h).symm

/-- A step throws nothing, and leaves a blackboard that a typing fits, just when the typing
fits the blackboard before it and what the step stores. -/
theorem attempt_ensures_iff (e : Event C) :
    (s.attempt e).Ensures (fun s => NavAgrees types s.nav) ↔
      NavAgrees types s.nav ∧ Conforms types s e := by
  cases e with
  | trigger transition params createSharedInstance =>
      unfold Sensing.attempt Conforms
      dsimp only
      split
      · exact ensures_of_nav_eq rfl
      · exact ensures_of_nav_eq rfl
  | receive handler data frame stamp decodes canTransform =>
      unfold Sensing.attempt Conforms
      dsimp only
      split
      · exact ensures_of_nav_eq rfl
      · split
        · exact ensures_of_nav_eq rfl
        · exact ensures_of_nav_eq rfl
  | cycleHandlers => exact step_cycleHandlers_ensures_iff
  | checkDataAge now => exact step_checkDataAge_ensures_iff
  | cycle => exact after_ensures_iff.trans cycle_ensures_iff
  | fuse perception canTransform => exact ensures_of_nav_eq rfl
  | set key type => exact Attempt.ensures_ok_iff.trans set_agrees_iff
  | addToGroup groupKey key => exact Attempt.ensures_ok_iff.trans addToGroup_agrees_iff

end Steps

section Runs

variable [Inhabited C] {s : Sensing C} {past : List (Sensing C × Event C)}

/-- Along a run, a typing fits all that was ever stored just when it fits the blackboard
in the end and no cycle threw. -/
theorem conforms_iff (hrun : Run Sensing.step IsInitial s past) :
    (∀ p ∈ past, Conforms types p.1 p.2) ↔
      (∀ p ∈ past, ¬ (p.1.attempt p.2).Throws) ∧ NavAgrees types s.nav := by
  induction hrun with
  | init h =>
      obtain ⟨clockType, rfl⟩ := h
      refine iff_of_true ?_ ⟨?_, ?_⟩
      · exact fun p hp => absurd hp List.not_mem_nil
      · exact fun p hp => absurd hp List.not_mem_nil
      · exact fun key entry h => nomatch h
  | @next s past hrun e ih =>
      have hstep : ¬ (s.attempt e).Throws ∧ NavAgrees types (s.step e).nav ↔
          NavAgrees types s.nav ∧ Conforms types s e := attempt_ensures_iff e
      rw [List.forall_mem_cons, List.forall_mem_cons, ih]
      constructor
      · rintro ⟨hconforms, hpast, hagrees⟩
        obtain ⟨hreturns, hlast⟩ := hstep.mpr ⟨hagrees, hconforms⟩
        exact ⟨⟨hreturns, hpast⟩, hlast⟩
      · rintro ⟨⟨hreturns, hpast⟩, hlast⟩
        obtain ⟨hagrees, hconforms⟩ := hstep.mp ⟨hreturns, hlast⟩
        exact ⟨hconforms, hpast, hagrees⟩

end Runs

/-- No cycle of the sensors throws just when every key can be given one type that all
configurations agree on. -/
theorem never_throws_iff [Inhabited C] {s : Sensing C} {past : List (Sensing C × Event C)}
    (hrun : Run Sensing.step IsInitial s past) :
    (∀ p ∈ past, ¬ (p.1.attempt p.2).Throws) ↔
      ∃ types, ∀ p ∈ past, Conforms types p.1 p.2 := by
  constructor
  · intro h
    have hagrees : ∃ types, NavAgrees types s.nav := Store.exists_agrees
    obtain ⟨types, hagrees⟩ := hagrees
    exact ⟨types, (conforms_iff hrun).mpr ⟨h, hagrees⟩⟩
  · rintro ⟨types, h⟩
    exact ((conforms_iff hrun).mp h).1

/-- A configuration is accepted if the node is configured with it. -/
def Accepted [Inhabited C] (s : Sensing C) : Event C → Prop
  | .trigger .configure params plugins =>
      (s.step (.trigger .configure params plugins)).node.state = .inactive
  | _ => True

def configureFront (type : String) : Event Nat :=
  .trigger .configure { sensors := [{ id := "front", type := type }] } packagePlugins

def transition (transition : Transition) : Event Nat :=
  .trigger transition { sensors := [] } packagePlugins

def reconfigured : List (Event Nat) :=
  [configureFront "sensor_msgs/msg/LaserScan", transition .activate, .cycleHandlers,
    .checkDataAge 0, transition .deactivate, transition .cleanup,
    configureFront "sensor_msgs/msg/Image", transition .activate]

theorem reconfigured_run :
    Run Sensing.step IsInitial (reconfigured.foldl Sensing.step (.create .ros))
      (history Sensing.step (.create .ros) reconfigured []) :=
  (Run.init ⟨.ros, rfl⟩).foldl reconfigured

theorem never_throws_iff_reconfigured :
    (∀ p ∈ history Sensing.step (.create .ros) reconfigured [], ¬ (p.1.attempt p.2).Throws) ↔
      ∃ types, ∀ p ∈ history Sensing.step (.create .ros) reconfigured [], Conforms types p.1 p.2 :=
  never_throws_iff reconfigured_run

/-- The configuration of the camera is accepted, and its first cycle throws. -/
theorem accepted_configuration_throws :
    ∃ (s : Sensing Nat) (past : List (Sensing Nat × Event Nat)),
      Run Sensing.step IsInitial s past ∧
        (∀ p ∈ past, Accepted p.1 p.2) ∧
        (s.attempt .cycleHandlers).Throws := by
  refine ⟨_, _, reconfigured_run, ?_, ?_⟩
  · unfold reconfigured
    simp only [history, List.forall_mem_cons]
    refine ⟨trivial, ?_, trivial, trivial, trivial, trivial, trivial, ?_, ?_⟩
    · change _ = PrimaryState.inactive
      decide +kernel
    · change _ = PrimaryState.inactive
      decide +kernel
    · exact fun p hp => absurd hp List.not_mem_nil
  · exact ⟨⟨"front", .pointPerception, .imagePerception⟩, by decide +kernel⟩

end EasyNav.KeyTypes
