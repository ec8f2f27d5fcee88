import EasyNav.DelimitedText
import EasyNav.Rollback
import EasyNav.SortedMaps
import Mathlib.Data.String.Basic

/-!
Reconfigurations over a run of requests. The value that a parameter had before the first
request that changed it is kept under its key until a restore has set it back.
-/

namespace EasyNav.ParameterRestoration

open EasyNav.DelimitedText
open EasyNav.Lifecycle
open EasyNav.SystemLifecycle
open EasyNav.Reconfiguration
open EasyNav.Rollback
open EasyNav.Runs
open EasyNav.SortedMaps

universe u

variable {V : Type u}

/-- An operation, with what parameters and nodes accept in it. -/
abbrev Event (V : Type u) := Environment V × Operation V

/-- The overrides of the controller node never change. -/
def environment (overrides : Bool) (env : Environment V) : Environment V :=
  { env with controllerOverrides := overrides }

def step (overrides : Bool) (sys : ReconfigurableNode V) (e : Event V) : ReconfigurableNode V :=
  Rollback.step (environment overrides e.1) sys e.2

/-- What configuring forwards to the controller node is there. -/
def Forwarded (overrides : Bool) (store : Store V) : Prop :=
  ∀ env : Environment V,
    forwardDeprecatedUseCmdVelStamped (environment overrides env) store = store

/-- EasyNav has been configured and activated, and nothing has been reconfigured yet. -/
def Fresh (overrides : Bool) (sys : ReconfigurableNode V) : Prop :=
  ∃ store pending, Forwarded overrides store ∧
    sys = { node := settled .active true store, pendingReconfigure := pending }

/-- The request is applied, and these are the values to go back to if that fails. -/
structure Applies (sys : ReconfigurableNode V) (request : ReconfigureRequest V)
    (previous : List (ParameterChange V)) : Prop where
  pending : sys.pendingReconfigure = some request
  active : sys.node.state = .active
  running : sys.node.data.shutdownReason = none
  changes : requestedChanges sys request ≠ []
  previous : previousValues sys.node.data.world (requestedChanges sys request) = some previous

def Succeeds (overrides : Bool) (sys : ReconfigurableNode V) (e : Event V)
    (request : ReconfigureRequest V) : Prop :=
  e.2 = .applyPendingReconfigure ∧ (∃ previous, Applies sys request previous) ∧
    (restartWith (environment overrides e.1) sys.node (requestedChanges sys request)).2 = true

def Changes (overrides : Bool) (p : ReconfigurableNode V × Event V) (node : NodeId)
    (parameter : String) : Prop :=
  (step overrides p.1 p.2).node.data.world node parameter ≠ p.1.node.data.world node parameter

/-- The value that the last of the changes to a parameter gives it. -/
def lastGiven (changes : List (ParameterChange V)) (node : NodeId) (parameter : String) :
    Option V :=
  (changes.reverse.find? fun change =>
    findNode change.node = some node ∧ change.parameter = parameter).map (·.value)

/-- The parameter that configuring sets to a deprecated one, if it does. -/
def IsForwarded (overrides : Bool) (base : Store V) (node : NodeId) (parameter : String) : Prop :=
  node = .subnode .controllerNode ∧ parameter = "use_cmd_vel_stamped" ∧
    base .system "use_cmd_vel_stamped" ≠ none ∧ overrides = false

/-- The parameters that successful requests have changed since the last successful
restore. -/
def ChangedSinceRestore (overrides : Bool) :
    List (ReconfigurableNode V × Event V) → String → Prop
  | [], _ => False
  | (sys, e) :: past, key =>
      (∃ request, Succeeds overrides sys e request ∧ request.restore = false ∧
        key ∈ request.changes.map changeKey) ∨
      (¬ ∃ request, Succeeds overrides sys e request ∧ request.restore = true) ∧
        ChangedSinceRestore overrides past key

/-- Parameters change only through requests. -/
def OnlyRequests (past : List (ReconfigurableNode V × Event V)) : Prop :=
  ∀ p ∈ past, ∀ change, p.2.2 ≠ .setParameter change

section Keys

def nodeName : NodeId → String
  | .system => "system_node"
  | .subnode name => subnodeName name

theorem nodeName_of_findNode {name : String} {node : NodeId} (h : findNode name = some node) :
    nodeName node = name := by
  simp only [findNode] at h
  split at h
  · rename_i hsystem
    obtain rfl := Option.some.inj h
    exact hsystem.symm
  · obtain ⟨subnode, hfound, rfl⟩ := Option.map_eq_some_iff.mp h
    have hsome := List.find?_some hfound
    exact of_decide_eq_true hsome

theorem nodeName_no_slash (node : NodeId) : ∀ c ∈ (nodeName node).toList, c ≠ '/' := by
  rintro c hc rfl
  cases node with
  | system => simp [nodeName] at hc
  | subnode name => cases name <;> simp [nodeName, subnodeName] at hc

def parameterKey (node : NodeId) (parameter : String) : String :=
  nodeName node ++ "/" ++ parameter

theorem changeKey_eq {change : ParameterChange V} {node : NodeId}
    (h : findNode change.node = some node) :
    changeKey change = parameterKey node change.parameter := by
  simp [changeKey, parameterKey, nodeName_of_findNode h]

theorem parameterKey_injective {node node' : NodeId} {parameter parameter' : String}
    (h : parameterKey node parameter = parameterKey node' parameter') :
    node = node' ∧ parameter = parameter' := by
  have htext : (nodeName node).toList ++ '/' :: parameter.toList =
      (nodeName node').toList ++ '/' :: parameter'.toList := by
    have hlist := congrArg String.toList h
    simpa [parameterKey, String.toList_append] using hlist
  have hstop : ∀ text : List Char, StartsWith (· = '/') ('/' :: text) :=
    fun text => ⟨'/', text, rfl, rfl⟩
  obtain ⟨hname, hparameter⟩ := append_inj_of_stops (nodeName_no_slash node)
    (nodeName_no_slash node') (hstop _) (hstop _) htext
  constructor
  · have hfound : ∀ node, findNode (nodeName node) = some node := by
      intro node
      cases node with
      | system => decide
      | subnode name => cases name <;> decide
    have hnode := hfound node
    rw [String.toList_inj.mp hname, hfound] at hnode
    exact (Option.some.inj hnode).symm
  · exact String.toList_inj.mp (List.cons.inj hparameter).2

end Keys

section Originals

variable {key other : String} {value : ParameterChange V}
  {entries : List (String × ParameterChange V)}

def Ordered (entries : List (String × ParameterChange V)) : Prop :=
  (entries.map Prod.fst).Pairwise (· < ·)

/-- Every entry is under the key of its parameter. -/
def Keyed (entries : List (String × ParameterChange V)) : Prop :=
  ∀ entry ∈ entries, entry.1 = changeKey entry.2 ∧ ∃ node, findNode entry.2.node = some node

theorem Keyed.touches_iff (h : Keyed entries) {node : NodeId} {parameter : String} :
    Touches (entries.map Prod.snd) node parameter ↔
      parameterKey node parameter ∈ entries.map Prod.fst := by
  constructor
  · rintro ⟨change, hchange, hnode, rfl⟩
    obtain ⟨entry, hentry, rfl⟩ := List.mem_map.mp hchange
    exact List.mem_map.mpr ⟨entry, hentry, (h entry hentry).1.trans (changeKey_eq hnode)⟩
  · intro hkey
    obtain ⟨entry, hentry, heq⟩ := List.mem_map.mp hkey
    obtain ⟨hentry', node', hnode'⟩ := h entry hentry
    rw [hentry', changeKey_eq hnode'] at heq
    obtain ⟨rfl, rfl⟩ := parameterKey_injective heq
    exact ⟨entry.2, List.mem_map.mpr ⟨entry, hentry, rfl⟩, hnode', rfl⟩

theorem emplace_eq (key : String) (value : ParameterChange V)
    (entries : List (String × ParameterChange V)) :
    emplace key value entries = alter key (fun stored => stored.getD value) entries := by
  induction entries with
  | nil => rfl
  | cons entry entries ih =>
      simp only [emplace, alter, ih]
      by_cases heq : key = entry.1
      · simp [heq]
      · rw [if_neg heq, if_neg (Ne.symm heq)]
        rfl

theorem mem_keys_emplace :
    other ∈ (emplace key value entries).map Prod.fst ↔
      other = key ∨ other ∈ entries.map Prod.fst := by
  rw [emplace_eq]
  exact mem_keys_alter

theorem emplace_ordered (h : Ordered entries) : Ordered (emplace key value entries) := by
  rw [emplace_eq]
  exact Sorted.alter h

theorem mem_emplace (h : Ordered entries) {entry : String × ParameterChange V}
    (hmem : entry ∈ emplace key value entries) :
    entry ∈ entries ∨ entry = (key, value) ∧ key ∉ entries.map Prod.fst := by
  have hsorted : Sorted entries := h
  obtain ⟨other, stored⟩ := entry
  rw [emplace_eq, hsorted.alter.mem_iff, hsorted.lookup_alter] at hmem
  rw [hsorted.mem_iff]
  split at hmem
  · rename_i heq
    subst heq
    cases hlookup : entries.lookup other with
    | some value' =>
        rw [hlookup] at hmem
        exact Or.inl hmem
    | none =>
        rw [hlookup] at hmem
        obtain rfl : value = stored := Option.some.inj hmem
        refine Or.inr ⟨rfl, fun hkey => ?_⟩
        obtain ⟨⟨other', value'⟩, hentry, rfl⟩ := List.mem_map.mp hkey
        rw [hsorted.mem_iff.mp hentry] at hlookup
        contradiction
  · exact Or.inl hmem

/-- The originals once these values, all current, are recorded. -/
def recorded (entries : List (String × ParameterChange V))
    (previous : List (ParameterChange V)) : List (String × ParameterChange V) :=
  previous.foldl (fun originals value => emplace (changeKey value) value originals) entries

theorem recorded_ordered (previous : List (ParameterChange V)) (h : Ordered entries) :
    Ordered (recorded entries previous) := by
  induction previous generalizing entries with
  | nil => exact h
  | cons value previous ih => exact ih (emplace_ordered h)

theorem mem_keys_recorded (previous : List (ParameterChange V)) :
    other ∈ (recorded entries previous).map Prod.fst ↔
      other ∈ previous.map changeKey ∨ other ∈ entries.map Prod.fst := by
  induction previous generalizing entries with
  | nil => simp [recorded]
  | cons value previous ih =>
      change other ∈ (recorded (emplace (changeKey value) value entries) previous).map Prod.fst ↔ _
      rw [ih, mem_keys_emplace]
      simp only [List.map_cons, List.mem_cons]
      tauto

theorem mem_recorded (previous : List (ParameterChange V)) (h : Ordered entries)
    {entry : String × ParameterChange V} (hmem : entry ∈ recorded entries previous) :
    entry ∈ entries ∨ entry.1 ∉ entries.map Prod.fst ∧
      ∃ value ∈ previous, entry = (changeKey value, value) := by
  induction previous generalizing entries with
  | nil => exact Or.inl hmem
  | cons value previous ih =>
      rcases ih (emplace_ordered h) hmem with hmem | ⟨hkey, value', hvalue', heq⟩
      · rcases mem_emplace h hmem with hmem | ⟨rfl, hkey⟩
        · exact Or.inl hmem
        · exact Or.inr ⟨hkey, value, List.mem_cons_self, rfl⟩
      · refine Or.inr ⟨fun hmem => hkey (mem_keys_emplace.mpr (Or.inr hmem)), value', ?_, heq⟩
        exact List.mem_cons_of_mem _ hvalue'

end Originals

section Values

variable {env : Environment V} {store base : Store V} {changes previous : List (ParameterChange V)}
  {node : NodeId} {parameter : String} {overrides : Bool}

theorem previousValues_keys (h : previousValues store changes = some previous) :
    previous.map changeKey = changes.map changeKey := by
  have hkey : (changeKey : ParameterChange V → String) =
      (fun place => place.1 ++ "/" ++ place.2) ∘ place := rfl
  rw [hkey, ← List.map_map, ← List.map_map, previousValues_places h]

theorem setParameters_ne_none (h : store node parameter ≠ none) :
    (setParameters env changes store).1 node parameter ≠ none := by
  induction changes generalizing store with
  | nil => exact h
  | cons change changes ih =>
      have hset : (setParameter env store change).1 node parameter ≠ none := by
        simp only [setParameter]
        split
        · exact h
        · split
          · simp only [Store.set]
            split
            · simp
            · exact h
          · exact h
      exact ih hset

theorem not_isForwarded_system : ¬ IsForwarded overrides base .system parameter := by
  rintro ⟨hnode, -⟩
  contradiction

theorem forwardDeprecatedUseCmdVelStamped_of_not_isForwarded
    (h : ¬ IsForwarded overrides base node parameter)
    (hsystem : store .system "use_cmd_vel_stamped" = none ↔
      base .system "use_cmd_vel_stamped" = none) :
    forwardDeprecatedUseCmdVelStamped (environment overrides env) store node parameter =
      store node parameter := by
  by_cases hcontroller : node = .subnode .controllerNode ∧ parameter = "use_cmd_vel_stamped"
  · have hsame : store .system "use_cmd_vel_stamped" = none ∨ overrides = true := by
      rw [hsystem]
      by_contra hforwards
      rw [not_or, Bool.not_eq_true] at hforwards
      exact h ⟨hcontroller.1, hcontroller.2, hforwards⟩
    rw [forwardDeprecatedUseCmdVelStamped_of_none hsame]
  · exact forwardDeprecatedUseCmdVelStamped_of_ne hcontroller

theorem setParameters_eq_none_iff (hprevious : previousValues store changes = some previous) :
    (setParameters env changes store).1 node parameter = none ↔ store node parameter = none := by
  constructor
  · intro hnone
    by_contra hsome
    exact setParameters_ne_none hsome hnone
  · intro hnone
    rw [setParameters_of_not_touches (not_touches_of_eq_none hprevious hnone), hnone]

theorem newValues_system (hprevious : previousValues store changes = some previous) :
    newValues (environment overrides env) store changes .system "use_cmd_vel_stamped" = none ↔
      store .system "use_cmd_vel_stamped" = none := by
  have hset : newValues (environment overrides env) store changes .system
      "use_cmd_vel_stamped" =
        (setParameters (environment overrides env) changes store).1 .system
          "use_cmd_vel_stamped" :=
    forwardDeprecatedUseCmdVelStamped_of_ne (by simp)
  rw [hset]
  exact setParameters_eq_none_iff hprevious

theorem lastGiven_cons (change : ParameterChange V) :
    lastGiven (change :: changes) node parameter =
      (lastGiven changes node parameter).or
        (if findNode change.node = some node ∧ change.parameter = parameter then
          some change.value
        else none) := by
  rw [lastGiven, lastGiven, List.reverse_cons, List.find?_append, Option.map_or,
    List.find?_singleton]
  by_cases htouches : findNode change.node = some node ∧ change.parameter = parameter
  · simp [htouches.1, htouches.2]
  · rw [if_neg htouches, decide_eq_false htouches]
    rfl

theorem setParameters_eq_lastGiven (haccepted : ∀ change ∈ changes, Accepted env change) :
    (setParameters env changes store).1 node parameter =
      (lastGiven changes node parameter).or (store node parameter) := by
  induction changes generalizing store with
  | nil => rfl
  | cons change changes ih =>
      obtain ⟨⟨target, htarget, haccepts⟩, hrest⟩ := List.forall_mem_cons.mp haccepted
      have hset : (setParameters env (change :: changes) store).1 node parameter =
          (lastGiven changes node parameter).or
            ((setParameter env store change).1 node parameter) := ih hrest
      rw [hset, lastGiven_cons, Option.or_assoc]
      congr 1
      by_cases htouches : findNode change.node = some node ∧ change.parameter = parameter
      · obtain rfl := Option.some.inj (htarget.symm.trans htouches.1)
        obtain rfl := htouches.2
        simp [setParameter, htarget, haccepts, Store.set]
      · rw [setParameter_of_not_touches htouches, if_neg htouches]
        rfl

/-- Accepted changes set what they name, the last one of a parameter; nothing else changes. -/
theorem newValues_eq_lastGiven (hprevious : previousValues store changes = some previous)
    (haccepted : ∀ change ∈ changes, Accepted (environment overrides env) change)
    (hfree : ¬ IsForwarded overrides store node parameter) :
    newValues (environment overrides env) store changes node parameter =
      (lastGiven changes node parameter).or (store node parameter) := by
  rw [← setParameters_eq_lastGiven haccepted]
  exact forwardDeprecatedUseCmdVelStamped_of_not_isForwarded hfree
    (setParameters_eq_none_iff hprevious)

/-- What the originals say about the parameters, whose values were once these. -/
structure Restorable (overrides : Bool) (base store : Store V)
    (originals : List (String × ParameterChange V)) : Prop where
  forwarded : Forwarded overrides store
  ordered : Ordered originals
  keyed : Keyed originals
  original : ∀ entry ∈ originals, ∀ node, findNode entry.2.node = some node →
    ¬ IsForwarded overrides base node entry.2.parameter →
      some entry.2.value = base node entry.2.parameter
  kept : ∀ node parameter, ¬ IsForwarded overrides base node parameter →
    ¬ Touches (originals.map Prod.snd) node parameter →
      store node parameter = base node parameter
  system : store .system "use_cmd_vel_stamped" = none ↔ base .system "use_cmd_vel_stamped" = none

variable {originals : List (String × ParameterChange V)}

theorem newValues_forwarded (store : Store V) (changes : List (ParameterChange V)) :
    Forwarded overrides (newValues (environment overrides env) store changes) :=
  fun _ => forwardDeprecatedUseCmdVelStamped_idem

theorem Restorable.restored (h : Restorable overrides base store originals)
    (hbase : Forwarded overrides base)
    (haccepted : ∀ change ∈ originals.map Prod.snd, Accepted env change) :
    newValues (environment overrides env) store (originals.map Prod.snd) = base := by
  have hset : ∀ node parameter, ¬ IsForwarded overrides base node parameter →
      (setParameters (environment overrides env) (originals.map Prod.snd) store).1 node
        parameter = base node parameter := by
    intro node parameter hfree
    refine setParameters_of_values haccepted ?_ (h.kept node parameter hfree)
    rintro change hchange hnode rfl
    obtain ⟨entry, hentry, rfl⟩ := List.mem_map.mp hchange
    exact h.original entry hentry node hnode hfree
  have hsystem := hset .system "use_cmd_vel_stamped" not_isForwarded_system
  funext node parameter
  by_cases hfree : IsForwarded overrides base node parameter
  · obtain ⟨rfl, rfl, hsome, rfl⟩ := hfree
    obtain ⟨stamped, hstamped⟩ := Option.ne_none_iff_exists'.mp hsome
    rw [newValues, forwardDeprecatedUseCmdVelStamped_of_some (hsystem.trans hstamped) rfl,
      ← hbase env, forwardDeprecatedUseCmdVelStamped_of_some hstamped rfl]
    simp [Store.set]
  · exact (forwardDeprecatedUseCmdVelStamped_of_not_isForwarded hfree (by rw [hsystem])).trans
      (hset node parameter hfree)

theorem Restorable.recorded (h : Restorable overrides base store originals)
    (hprevious : previousValues store changes = some previous) :
    Restorable overrides base (newValues (environment overrides env) store changes)
      (recorded originals previous) := by
  have hkeyed : Keyed (ParameterRestoration.recorded originals previous) := by
    intro entry hentry
    rcases mem_recorded previous h.ordered hentry with hentry | ⟨-, value, hvalue, rfl⟩
    · exact h.keyed entry hentry
    · obtain ⟨node, hnode, -⟩ := previousValues_mem hprevious hvalue
      exact ⟨rfl, node, hnode⟩
  constructor
  · exact newValues_forwarded store changes
  · exact recorded_ordered previous h.ordered
  · exact hkeyed
  · intro entry hentry node hnode hfree
    rcases mem_recorded previous h.ordered hentry with hentry | ⟨hkey, value, hvalue, rfl⟩
    · exact h.original entry hentry node hnode hfree
    · obtain ⟨node', hnode', hstored⟩ := previousValues_mem hprevious hvalue
      obtain rfl := Option.some.inj (hnode'.symm.trans hnode)
      rw [← hstored]
      apply h.kept _ _ hfree
      rw [h.keyed.touches_iff, ← changeKey_eq hnode']
      exact hkey
  · intro node parameter hfree hnot
    rw [hkeyed.touches_iff, mem_keys_recorded, not_or, ← h.keyed.touches_iff,
      previousValues_keys hprevious] at hnot
    have hchanges : ¬ Touches changes node parameter := by
      rintro ⟨change, hchange, hnode, rfl⟩
      exact hnot.1 (List.mem_map.mpr ⟨change, hchange, changeKey_eq hnode⟩)
    have hset : (setParameters (environment overrides env) changes store).1 node parameter =
        store node parameter := setParameters_of_not_touches hchanges
    rw [← h.kept node parameter hfree hnot.2, ← hset]
    apply forwardDeprecatedUseCmdVelStamped_of_not_isForwarded hfree
    rw [← h.system]
    exact setParameters_eq_none_iff hprevious
  · exact (newValues_system hprevious).trans h.system

theorem Restorable.of_restored (hbase : Forwarded overrides base) :
    Restorable overrides base base [] := by
  constructor
  · exact hbase
  · exact List.Pairwise.nil
  · exact fun entry hentry => absurd hentry List.not_mem_nil
  · exact fun entry hentry => absurd hentry List.not_mem_nil
  · exact fun _ _ _ _ => rfl
  · rfl

end Values

section Transitions

variable {env : Environment V} {transition : Transition}

theorem trigger_induction {motive : SystemData (Store V) → Prop}
    (hsubnode : ∀ data name transition, motive data →
      motive (data.triggerSubnode (subnodeCallbacks env) name transition))
    (hforward : ∀ data, motive data →
      motive { data with world := forwardDeprecatedUseCmdVelStamped env data.world })
    (hactive : ∀ data active, motive data → motive { data with active := active })
    {node : Managed (SystemData (Store V))} (h : motive node.data) :
    motive (trigger env node transition).data := by
  have hall : ∀ {data} transition expected, motive data → motive (SystemData.triggerAll
      (subnodeCallbacks env) transition expected systemNodes data).1 :=
    fun transition expected hdata => SystemData.triggerAll_induction _
      (fun data name => hsubnode data name transition) hdata expected systemNodes
  apply Managed.trigger_data node
  · intro data hdata
    cases transition with
    | configure =>
        exact SystemData.onConfigure_induction (subnodeCallbacks env) hsubnode hforward
          (fun _ hconfigured => hconfigured) hdata
    | cleanup => exact hall .cleanup .unconfigured hdata
    | activate =>
        simp only [SystemData.systemCallbacks, SystemData.onActivate]
        split
        · exact hall .activate .active hdata
        · exact hactive _ true (hall .activate .active hdata)
    | deactivate =>
        have hstopped : motive (data.stopCycles (systemHooks env).clearCmdVel) :=
          hactive data false hdata
        change motive (SystemData.deactivateSubnodes (subnodeCallbacks env)
          (data.stopCycles (systemHooks env).clearCmdVel)).1
        rw [SystemData.deactivateSubnodes_fst]
        exact hall .deactivate .inactive hstopped
    | shutdown => exact hdata
  · intro data hdata
    simp only [SystemData.systemCallbacks, SystemData.onError]
    split
    · exact hdata
    · exact List.foldlRecOn systemNodes _ hdata fun data hdata name _ =>
        hsubnode data name .shutdown hdata
  · exact h

theorem trigger_shutdownReason (node : Managed (SystemData (Store V))) :
    (trigger env node transition).data.shutdownReason = node.data.shutdownReason :=
  trigger_induction (motive := fun data => data.shutdownReason = node.data.shutdownReason)
    (fun _ _ _ h => h) (fun _ h => h) (fun _ _ h => h) rfl

theorem trigger_world {node : Managed (SystemData (Store V))}
    (h : forwardDeprecatedUseCmdVelStamped env node.data.world = node.data.world) :
    (trigger env node transition).data.world = node.data.world := by
  apply trigger_induction (motive := fun data => data.world = node.data.world)
  · intro data name transition hdata
    apply Managed.trigger_data (motive := fun world => world = node.data.world)
    · intro world hworld
      cases transition <;> exact hworld
    · exact fun _ hworld => hworld
    · exact hdata
  · intro data hdata
    change forwardDeprecatedUseCmdVelStamped env data.world = node.data.world
    rw [hdata, h]
  · exact fun _ _ hdata => hdata
  · rfl

end Transitions

section Applying

variable {overrides : Bool} {env : Environment V} {sys : ReconfigurableNode V}
  {request : ReconfigureRequest V} {changes previous : List (ParameterChange V)}
  {node : Managed (SystemData (Store V))} {store : Store V}

theorem Applies.apply_eq (h : Applies sys request previous) :
    (applyPendingReconfigure env sys).1 =
      reconfigure env { sys with pendingReconfigure := none } request
        (requestedChanges sys request) previous := by
  simp [applyPendingReconfigure, h.pending, SystemData.isShutdownRequested, h.running, h.active,
    h.changes, h.previous]

theorem apply_of_not_applies (h : ∀ request previous, ¬ Applies sys request previous) :
    ∃ pending,
      (applyPendingReconfigure env sys).1 = { sys with pendingReconfigure := pending } := by
  simp only [applyPendingReconfigure]
  split
  · exact ⟨sys.pendingReconfigure, rfl⟩
  · rename_i request hpending
    split
    · exact ⟨sys.pendingReconfigure, rfl⟩
    · rename_i hrunning
      split
      · exact ⟨none, rfl⟩
      · rename_i hchanges
        split
        · exact ⟨none, rfl⟩
        · rename_i previous hprevious
          obtain ⟨hactive, hrunning⟩ := not_gated_iff.mp hrunning
          have hne : requestedChanges sys request ≠ [] := by simpa using hchanges
          exact absurd ⟨hpending, hactive, hrunning, hne, hprevious⟩ (h request previous)

theorem reconfigure_of_restarted (h : (restartWith env sys.node changes).2 = true) :
    reconfigure env sys request changes previous =
      let originals :=
        if request.restore then [] else recorded sys.originalParameters previous
      { sys with
        node := (restartWith env sys.node changes).1
        originalParameters := originals
        reconfiguredParameters := some (originals.map Prod.fst) } := by
  simp [reconfigure, h, recorded]

/-- After a failure there is either a shutdown, or a second attempt that succeeded. -/
theorem reconfigure_of_not_restarted (h : (restartWith env sys.node changes).2 = false) :
    ∃ node, reconfigure env sys request changes previous = { sys with node := node } ∧
      (node.data.shutdownReason ≠ none ∨
        restartWith env (restartWith env sys.node changes).1 previous = (node, true)) := by
  simp only [reconfigure, h, Bool.not_false, if_true]
  split
  · rename_i hrestored
    exact ⟨_, rfl, Or.inr (Prod.ext rfl hrestored)⟩
  · exact ⟨_, rfl, Or.inl (Option.some_ne_none _)⟩

theorem restartWith_settled (active : Bool)
    (h : (restartWith env (settled .active active store) changes).2 = true) :
    (restartWith env (settled .active active store) changes).1 =
        settled .active true (newValues env store changes) ∧
      ∀ change ∈ changes, Accepted env change := by
  rw [restartWith_of_stop (stop_active active)] at h ⊢
  simp only [Bool.and_eq_true, setParameters_accepted_iff] at h
  exact ⟨startedNode_of_activable h.1.1 h.1.2, h.2⟩

theorem restartWith_restored (active : Bool)
    (hprevious : previousValues store changes = some previous)
    (hforwarded : forwardDeprecatedUseCmdVelStamped env store = store)
    (h : restartWith env (restartWith env (settled .active active store) changes).1 previous =
      (node, true)) :
    node = settled .active true store := by
  rw [restartWith_of_stop (stop_active active)] at h
  by_cases hstuck : Stuck env (newValues env store changes)
  · rw [restartWith_of_stuck hstuck] at h
    cases h
  · rw [restartWith_of_stop (stop_startedNode hstuck), Prod.mk.injEq] at h
    obtain ⟨rfl, hrestored⟩ := h
    simp only [Bool.and_eq_true, setParameters_accepted_iff] at hrestored
    obtain ⟨⟨hconfigurable, hactivable⟩, haccepted⟩ := hrestored
    have hvalues := newValues_previousValues hprevious haccepted hforwarded
    rw [hvalues] at hconfigurable hactivable ⊢
    exact startedNode_of_activable hconfigurable hactivable

end Applying

section Run

variable {overrides : Bool} {base : Store V} {sys start : ReconfigurableNode V}
  {past : List (ReconfigurableNode V × Event V)} {e : Event V}

theorem changedSinceRestore_of_not_succeeds (h : ∀ request, ¬ Succeeds overrides sys e request)
    (key : String) :
    ChangedSinceRestore overrides ((sys, e) :: past) key ↔
      ChangedSinceRestore overrides past key := by
  simp [ChangedSinceRestore, h]

theorem Applies.unique {request request' : ReconfigureRequest V}
    {previous previous' : List (ParameterChange V)} (h : Applies sys request previous)
    (h' : Applies sys request' previous') : request = request' ∧ previous = previous' := by
  obtain rfl := Option.some.inj (h.pending.symm.trans h'.pending)
  exact ⟨rfl, Option.some.inj (h.previous.symm.trans h'.previous)⟩

/-- The node, the originals and their list, over the requests since all parameters had
these values. -/
structure Reconfigured (overrides : Bool) (base : Store V) (sys : ReconfigurableNode V)
    (past : List (ReconfigurableNode V × Event V)) : Prop where
  together : Together sys.node
  restorable : sys.node.data.shutdownReason = none →
    Restorable overrides base sys.node.data.world sys.originalParameters
  ordered : Ordered sys.originalParameters
  changed : ∀ key, key ∈ sys.originalParameters.map Prod.fst ↔
    ChangedSinceRestore overrides past key
  listed : ∀ list, sys.reconfiguredParameters = some list →
    list = sys.originalParameters.map Prod.fst

theorem Reconfigured.of_same (h : Reconfigured overrides base sys past)
    {sys' : ReconfigurableNode V} (htogether : Together sys'.node)
    (hstore : sys'.node.data.shutdownReason = none →
      sys.node.data.shutdownReason = none ∧ (Forwarded overrides sys.node.data.world →
        sys'.node.data.world = sys.node.data.world))
    (horiginals : sys'.originalParameters = sys.originalParameters)
    (hlisted : sys'.reconfiguredParameters = sys.reconfiguredParameters)
    (hfails : ∀ request, ¬ Succeeds overrides sys e request) :
    Reconfigured overrides base sys' ((sys, e) :: past) := by
  constructor
  · exact htogether
  · intro hrunning
    obtain ⟨hbefore, hworld⟩ := hstore hrunning
    have hrestorable := h.restorable hbefore
    rw [hworld hrestorable.forwarded, horiginals]
    exact hrestorable
  · rw [horiginals]
    exact h.ordered
  · intro key
    rw [horiginals, changedSinceRestore_of_not_succeeds hfails]
    exact h.changed key
  · intro list hlist
    rw [horiginals]
    exact h.listed list (hlisted.symm.trans hlist)

/-- What a successful request leaves: the originals of a restore are all forgotten, the
others recorded. -/
theorem succeeded_eq {request : ReconfigureRequest V} {previous : List (ParameterChange V)}
    {env : Environment V} (htogether : Together sys.node) (happlies : Applies sys request previous)
    (hrestarted : (restartWith env sys.node (requestedChanges sys request)).2 = true) :
    (applyPendingReconfigure env sys).1 =
        (let originals :=
          if request.restore then [] else recorded sys.originalParameters previous
        { sys with
          node := settled .active true
            (newValues env sys.node.data.world (requestedChanges sys request))
          pendingReconfigure := none
          originalParameters := originals
          reconfiguredParameters := some (originals.map Prod.fst) }) ∧
      ∀ change ∈ requestedChanges sys request, Accepted env change := by
  have hnode := eq_settled happlies.active (htogether happlies.active) happlies.running
  have hsettled := hrestarted
  rw [hnode] at hsettled
  obtain ⟨hstarted, haccepted⟩ := restartWith_settled _ hsettled
  rw [← hnode] at hstarted
  refine ⟨happlies.apply_eq.trans ?_, haccepted⟩
  have hreconfigured : reconfigure env { sys with pendingReconfigure := none } request
      (requestedChanges sys request) previous = _ := reconfigure_of_restarted hrestarted
  rw [hreconfigured]
  dsimp only
  rw [hstarted]

variable {env : Environment V} {request : ReconfigureRequest V}
  {previous : List (ParameterChange V)}

theorem Succeeds.unique (happlies : Applies sys request previous)
    {request' : ReconfigureRequest V} (h : Succeeds overrides sys e request') :
    request' = request := by
  obtain ⟨-, ⟨previous', happlies'⟩, -⟩ := h
  exact (happlies'.unique happlies).1

theorem Reconfigured.of_restored (hbase : Forwarded overrides base)
    (h : Reconfigured overrides base sys past) (happlies : Applies sys request previous)
    (hsucceeds : Succeeds overrides sys (env, .applyPendingReconfigure) request)
    (hrestore : request.restore = true) :
    Reconfigured overrides base (applyPendingReconfigure (environment overrides env) sys).1
      ((sys, (env, .applyPendingReconfigure)) :: past) := by
  have htogether : Together (applyPendingReconfigure (environment overrides env) sys).1.node :=
    applyPendingReconfigure_together h.together
  obtain ⟨heq, haccepted⟩ := succeeded_eq h.together happlies hsucceeds.2.2
  rw [heq] at htogether ⊢
  unfold requestedChanges at haccepted ⊢
  simp only [hrestore, if_true] at haccepted htogether ⊢
  have hvalues : newValues (environment overrides env) sys.node.data.world
      (sys.originalParameters.map Prod.snd) = base :=
    (h.restorable happlies.running).restored hbase haccepted
  constructor
  · exact htogether
  · intro _
    change Restorable overrides base (newValues _ _ _) []
    rw [hvalues]
    exact Restorable.of_restored hbase
  · exact List.Pairwise.nil
  · intro key
    simp only [ChangedSinceRestore, List.map_nil, List.not_mem_nil, false_iff, not_or,
      not_and_or, not_not]
    refine ⟨?_, Or.inl ⟨request, hsucceeds, hrestore⟩⟩
    rintro ⟨request', hrequest', hnot, -⟩
    rw [hrequest'.unique happlies, hrestore] at hnot
    contradiction
  · exact fun list hlist => (Option.some.inj hlist).symm

theorem Reconfigured.of_recorded (h : Reconfigured overrides base sys past)
    (happlies : Applies sys request previous)
    (hsucceeds : Succeeds overrides sys (env, .applyPendingReconfigure) request)
    (hrestore : request.restore = false) :
    Reconfigured overrides base (applyPendingReconfigure (environment overrides env) sys).1
      ((sys, (env, .applyPendingReconfigure)) :: past) := by
  have htogether : Together (applyPendingReconfigure (environment overrides env) sys).1.node :=
    applyPendingReconfigure_together h.together
  obtain ⟨heq, -⟩ := succeeded_eq h.together happlies hsucceeds.2.2
  rw [heq] at htogether ⊢
  have hprevious := happlies.previous
  unfold requestedChanges at hprevious ⊢
  simp only [hrestore, Bool.false_eq_true, if_false] at hprevious htogether ⊢
  constructor
  · exact htogether
  · exact fun _ => (h.restorable happlies.running).recorded hprevious
  · exact recorded_ordered previous h.ordered
  · intro key
    dsimp only
    rw [mem_keys_recorded, previousValues_keys hprevious, h.changed key]
    simp only [ChangedSinceRestore]
    constructor
    · rintro (hkey | hkey)
      · exact Or.inl ⟨request, hsucceeds, hrestore, hkey⟩
      · refine Or.inr ⟨?_, hkey⟩
        rintro ⟨request', hrequest', hrestore'⟩
        rw [hrequest'.unique happlies, hrestore] at hrestore'
        contradiction
    · rintro (⟨request', hrequest', -, hkey⟩ | ⟨-, hkey⟩)
      · rw [hrequest'.unique happlies] at hkey
        exact Or.inl hkey
      · exact Or.inr hkey
  · exact fun list hlist => (Option.some.inj hlist).symm

/-- Without success, parameters and originals stay unless a shutdown is requested. -/
theorem Reconfigured.of_failed (h : Reconfigured overrides base sys past)
    (happlies : Applies sys request previous)
    (hfailed : (restartWith (environment overrides env) sys.node
      (requestedChanges sys request)).2 = false) :
    Reconfigured overrides base (applyPendingReconfigure (environment overrides env) sys).1
      ((sys, (env, .applyPendingReconfigure)) :: past) := by
  have htogether : Together (applyPendingReconfigure (environment overrides env) sys).1.node :=
    applyPendingReconfigure_together h.together
  have hnode := eq_settled happlies.active (h.together happlies.active) happlies.running
  have hfails : ∀ request',
      ¬ Succeeds overrides sys (env, .applyPendingReconfigure) request' := by
    intro request' hsucceeds
    obtain rfl := hsucceeds.unique happlies
    have hrestarted := hsucceeds.2.2
    rw [hfailed] at hrestarted
    contradiction
  have hend : ∃ node, reconfigure (environment overrides env)
      { sys with pendingReconfigure := none } request (requestedChanges sys request) previous =
        { sys with pendingReconfigure := none, node := node } ∧ _ :=
    reconfigure_of_not_restarted hfailed
  obtain ⟨node, heq, hend⟩ := hend
  rw [happlies.apply_eq, heq] at htogether ⊢
  refine h.of_same htogether ?_ rfl rfl hfails
  intro hrunning
  refine ⟨happlies.running, fun hforwarded => ?_⟩
  rcases hend with hend | hend
  · exact absurd hrunning hend
  · dsimp only at hend
    rw [hnode] at hend
    have hprevious := happlies.previous
    rw [hnode] at hprevious
    rw [restartWith_restored _ hprevious (hforwarded env) hend]
    rfl

theorem apply_reconfigured (hbase : Forwarded overrides base)
    (h : Reconfigured overrides base sys past) :
    Reconfigured overrides base (applyPendingReconfigure (environment overrides env) sys).1
      ((sys, (env, .applyPendingReconfigure)) :: past) := by
  by_cases happlies : ∃ request previous, Applies sys request previous
  · obtain ⟨request, previous, happlies⟩ := happlies
    cases hrestarted : (restartWith (environment overrides env) sys.node
        (requestedChanges sys request)).2 with
    | true =>
        have hsucceeds : Succeeds overrides sys (env, .applyPendingReconfigure) request :=
          ⟨rfl, ⟨previous, happlies⟩, hrestarted⟩
        cases hrestore : request.restore with
        | true => exact h.of_restored hbase happlies hsucceeds hrestore
        | false => exact h.of_recorded happlies hsucceeds hrestore
    | false => exact h.of_failed happlies hrestarted
  · have hnot : ∀ request previous, ¬ Applies sys request previous :=
      fun request previous happlies' => happlies ⟨request, previous, happlies'⟩
    have htogether : Together (applyPendingReconfigure (environment overrides env) sys).1.node :=
      applyPendingReconfigure_together h.together
    have hsame : ∃ pending, (applyPendingReconfigure (environment overrides env) sys).1 =
        { sys with pendingReconfigure := pending } := apply_of_not_applies hnot
    obtain ⟨pending, heq⟩ := hsame
    rw [heq] at htogether ⊢
    refine h.of_same htogether (fun hrunning => ⟨hrunning, fun _ => rfl⟩) rfl rfl ?_
    rintro request ⟨-, ⟨previous, happlies'⟩, -⟩
    exact hnot request previous happlies'

theorem step_reconfigured (hbase : Forwarded overrides base)
    (h : Reconfigured overrides base sys past) {operation : Operation V}
    (honly : ∀ change, operation ≠ .setParameter change) :
    Reconfigured overrides base (step overrides sys (env, operation))
      ((sys, (env, operation)) :: past) := by
  have htogether : Together (step overrides sys (env, operation)).node :=
    step_together h.together operation
  have hfails : operation ≠ .applyPendingReconfigure →
      ∀ request, ¬ Succeeds overrides sys (env, operation) request :=
    fun hne request hsucceeds => hne hsucceeds.1
  cases operation with
  | transition transition =>
      refine h.of_same htogether ?_ rfl rfl (hfails nofun)
      intro hrunning
      refine ⟨(trigger_shutdownReason sys.node).symm.trans hrunning, fun hforwarded => ?_⟩
      exact trigger_world (hforwarded env)
  | setParameter change => exact absurd rfl (honly change)
  | requestShutdown reason =>
      exact h.of_same htogether (fun hrunning => absurd hrunning (Option.some_ne_none _)) rfl rfl
        (hfails nofun)
  | requestReconfigure allowed changes reason =>
      cases allowed <;>
        exact h.of_same htogether (fun hrunning => ⟨hrunning, fun _ => rfl⟩) rfl rfl
          (hfails nofun)
  | requestRestoreParameters allowed reason =>
      cases allowed <;>
        exact h.of_same htogether (fun hrunning => ⟨hrunning, fun _ => rfl⟩) rfl rfl
          (hfails nofun)
  | applyPendingReconfigure => exact apply_reconfigured hbase h

theorem run_reconfigured (hrun : Run (step overrides) (· = start) sys past)
    (hstart : Fresh overrides start) (honly : OnlyRequests past) :
    Forwarded overrides start.node.data.world ∧
      Reconfigured overrides start.node.data.world sys past := by
  obtain ⟨store, pending, hstore, rfl⟩ := hstart
  refine ⟨hstore, ?_⟩
  refine hrun.history_invariant
    (fun (_ : ReconfigurableNode V) (e : Event V) => ∀ change, e.2 ≠ .setParameter change)
    ?_ ?_ honly
  · rintro sys rfl
    constructor
    · exact fun _ _ => rfl
    · exact fun _ => Restorable.of_restored hstore
    · exact List.Pairwise.nil
    · simp [ChangedSinceRestore]
    · exact fun list hlist => absurd hlist.symm (Option.some_ne_none _)
  · rintro sys ⟨env, operation⟩ past hpast hoperation
    exact step_reconfigured hstore hpast hoperation

theorem world_of_unchanged (hrun : Run (step overrides) (· = start) sys past) {node : NodeId}
    {parameter : String} (h : ∀ p ∈ past, ¬ Changes overrides p node parameter) :
    sys.node.data.world node parameter = start.node.data.world node parameter := by
  refine hrun.invariant
    (motive := fun sys => sys.node.data.world node parameter =
      start.node.data.world node parameter)
    (fun sys e => ¬ Changes overrides (sys, e) node parameter) ?_ ?_ h
  · rintro sys rfl
    rfl
  · intro sys e hsame hunchanged
    exact (not_not.mp hunchanged).trans hsame

/-- A successful restore leaves every parameter as it was in the beginning. -/
theorem Reconfigured.world_restored (hbase : Forwarded overrides base)
    (h : Reconfigured overrides base sys past) {request : ReconfigureRequest V}
    (hsucceeds : Succeeds overrides sys e request) (hrestore : request.restore = true) :
    (step overrides sys e).node.data.world = base := by
  obtain ⟨env, operation⟩ := e
  obtain ⟨rfl, ⟨previous, happlies⟩, hrestarted⟩ := hsucceeds
  have hrestorable := h.restorable happlies.running
  obtain ⟨heq, haccepted⟩ := succeeded_eq h.together happlies hrestarted
  change (applyPendingReconfigure (environment overrides env) sys).1.node.data.world = base
  rw [heq]
  have hchanges : requestedChanges sys request = sys.originalParameters.map Prod.snd := by
    simp [requestedChanges, hrestore]
  rw [hchanges] at haccepted ⊢
  exact hrestorable.restored hbase haccepted

/-- A successful request sets what it names, and nothing else. -/
theorem world_of_succeeds (htogether : Together sys.node) {request : ReconfigureRequest V}
    (hsucceeds : Succeeds overrides sys e request) (hrestore : request.restore = false)
    {node : NodeId} {parameter : String}
    (hfree : ¬ IsForwarded overrides sys.node.data.world node parameter) :
    (step overrides sys e).node.data.world node parameter =
      (lastGiven request.changes node parameter).or (sys.node.data.world node parameter) := by
  obtain ⟨env, operation⟩ := e
  obtain ⟨rfl, ⟨previous, happlies⟩, hrestarted⟩ := hsucceeds
  obtain ⟨heq, haccepted⟩ := succeeded_eq htogether happlies hrestarted
  have hprevious := happlies.previous
  change (applyPendingReconfigure (environment overrides env) sys).1.node.data.world node
    parameter = _
  rw [heq]
  have hchanges : requestedChanges sys request = request.changes := by
    simp [requestedChanges, hrestore]
  rw [hchanges] at haccepted hprevious ⊢
  exact newValues_eq_lastGiven hprevious haccepted hfree

end Run

/-- A successful restore sets every parameter back to its value before the step that
first changed it; any other successful request sets the parameters it names; and the list
in NavState is always that of the parameters that requests have changed since the last
restore. -/
theorem restores_originals {overrides : Bool} {start sys : ReconfigurableNode V}
    {past : List (ReconfigurableNode V × Event V)}
    (hrun : Run (step overrides) (· = start) sys past) (hstart : Fresh overrides start)
    (honly : OnlyRequests past) :
    (∀ p older, past = p :: older →
      (∃ request, Succeeds overrides p.1 p.2 request ∧ request.restore = true) →
      ∀ newer first before node parameter, past = newer ++ first :: before →
        (∀ p ∈ before, ¬ Changes overrides p node parameter) →
        sys.node.data.world node parameter = first.1.node.data.world node parameter) ∧
      (∀ p older request, past = p :: older → Succeeds overrides p.1 p.2 request →
        request.restore = false → ∀ node parameter,
        ¬ IsForwarded overrides p.1.node.data.world node parameter →
        sys.node.data.world node parameter =
          (lastGiven request.changes node parameter).or (p.1.node.data.world node parameter)) ∧
      ∀ list, sys.reconfiguredParameters = some list →
        list.Pairwise (· < ·) ∧
          ∀ key, key ∈ list ↔ ChangedSinceRestore overrides past key := by
  refine ⟨?_, ?_, ?_⟩
  · rintro ⟨s, e⟩ older rfl ⟨request, hsucceeds, hrestore⟩ newer ⟨s', e'⟩ before node parameter
      hsplit hunchanged
    have hbefore : Run (step overrides) (· = start) s' before := by
      rw [hsplit] at hrun
      exact hrun.before
    obtain ⟨rfl, hlast⟩ := hrun.last
    obtain ⟨hbase, hreconfigured⟩ := run_reconfigured hlast hstart
      fun p hp => honly p (List.mem_cons_of_mem _ hp)
    rw [hreconfigured.world_restored hbase hsucceeds hrestore,
      world_of_unchanged hbefore hunchanged]
  · rintro ⟨s, e⟩ older request rfl hsucceeds hrestore node parameter hfree
    obtain ⟨rfl, hlast⟩ := hrun.last
    obtain ⟨-, hreconfigured⟩ := run_reconfigured hlast hstart
      fun p hp => honly p (List.mem_cons_of_mem _ hp)
    exact world_of_succeeds hreconfigured.together hsucceeds hrestore hfree
  · intro list hlist
    obtain ⟨-, hreconfigured⟩ := run_reconfigured hrun hstart honly
    rw [hreconfigured.listed list hlist]
    exact ⟨hreconfigured.ordered, hreconfigured.changed⟩

def toOther : ParameterChange String :=
  { node := "recovery_node", parameter := "recovery_manager.plugin", value := "other" }

def restoringManager : List (Event String) :=
  [.requestReconfigure true [toOther] "try", .applyPendingReconfigure,
    .requestRestoreParameters true "undo", .applyPendingReconfigure].map (managers false, ·)

def activeManager : ReconfigurableNode String := { node := settled .active true firstManager }

theorem restores_originals_manager :
    (∃ list, (restoringManager.foldl (step false) activeManager).reconfiguredParameters =
      some list ∧ list.Pairwise (· < ·)) ∧
      ((restoringManager.take 2).foldl (step false) activeManager).node.data.world
        (.subnode .recoveryNode) "recovery_manager.plugin" = some "other" ∧
      (restoringManager.foldl (step false) activeManager).node.data.world
        (.subnode .recoveryNode) "recovery_manager.plugin" = some "default" := by
  have hinit : Run (step false) (· = activeManager) activeManager [] := Run.init rfl
  have hrun := hinit.foldl restoringManager
  have hstart : Fresh false activeManager :=
    ⟨firstManager, none, fun _ => forwardDeprecatedUseCmdVelStamped_of_none (Or.inl rfl), rfl⟩
  have honly : OnlyRequests (history (step false) activeManager restoringManager []) := by
    intro p hp change
    simp only [restoringManager, List.map_cons, List.map_nil, history, List.mem_cons,
      List.not_mem_nil, or_false] at hp
    rcases hp with rfl | rfl | rfl | rfl <;> exact nofun
  obtain ⟨hrestored, -, hlisted⟩ := restores_originals hrun hstart honly
  refine ⟨⟨[], rfl, (hlisted [] rfl).1⟩, ?_, ?_⟩
  · obtain ⟨-, hset, -⟩ := restores_originals (hinit.foldl (restoringManager.take 2)) hstart
      fun p hp => honly p (List.mem_of_mem_drop (i := 2) hp)
    have hsucceeds : Succeeds false ((restoringManager.take 1).foldl (step false) activeManager)
        (managers false, .applyPendingReconfigure) { changes := [toOther], reason := "try" } := by
      refine ⟨rfl, ⟨[{ toOther with value := "default" }], ?_⟩, rfl⟩
      constructor
      · rfl
      · rfl
      · rfl
      · exact List.cons_ne_nil _ _
      · rfl
    exact hset _ _ _ rfl hsucceeds rfl (.subnode .recoveryNode) "recovery_manager.plugin"
      fun hforwarded => by cases hforwarded.1
  · have hsucceeds : Succeeds false
        ((restoringManager.take 3).foldl (step false) activeManager)
        (managers false, .applyPendingReconfigure) { restore := true, reason := "undo" } := by
      refine ⟨rfl, ⟨[toOther], ?_⟩, rfl⟩
      constructor
      · rfl
      · rfl
      · rfl
      · exact List.cons_ne_nil _ _
      · rfl
    have hfirst : history (step false) activeManager restoringManager [] =
        (history (step false) activeManager restoringManager []).take 3 ++
          [(activeManager, (managers false, .requestReconfigure true [toOther] "try"))] := rfl
    refine (hrestored _ _ rfl ⟨_, hsucceeds, rfl⟩ _ _ [] (.subnode .recoveryNode)
      "recovery_manager.plugin" hfirst fun _ hp => absurd hp List.not_mem_nil).trans ?_
    exact firstManager_default

end EasyNav.ParameterRestoration
