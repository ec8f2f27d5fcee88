import EasyNav.ConfigurationDump
import EasyNav.Lifecycle
import EasyNav.Runs

namespace EasyNav.ParameterFreezing

open EasyNav.ConfigurationDump
open EasyNav.Lifecycle
open EasyNav.Runs

/-- A double, as its bits. -/
structure Double where
  bits : BitVec 64
  deriving DecidableEq

namespace Double

def magnitude (d : Double) : BitVec 63 := d.bits.setWidth 63

def isNaN (d : Double) : Bool := 0x7ff0000000000000#63 < d.magnitude

def isZero (d : Double) : Bool := d.magnitude = 0

/-- `==`: the two zeros are equal, and NaN is not equal to itself. -/
def equal (a b : Double) : Bool :=
  !a.isNaN && !b.isNaN && (decide (a = b) || (a.isZero && b.isZero))

def OppositeZeros (a b : Double) : Prop := a.isZero = true ∧ b.isZero = true ∧ a ≠ b

instance (a b : Double) : Decidable (OppositeZeros a b) :=
  inferInstanceAs (Decidable (_ ∧ _ ∧ _))

theorem eq_of_equal {a b : Double} (h : a.equal b = true) (hzeros : ¬ OppositeZeros a b) :
    a = b := by
  simp only [equal, Bool.and_eq_true, Bool.or_eq_true, decide_eq_true_eq] at h
  rcases h.2 with heq | ⟨ha, hb⟩
  · exact heq
  · by_contra hne
    exact hzeros ⟨ha, hb, hne⟩

end Double

abbrev Value := ParameterValue Double

def sameValue : Value → Value → Bool
  | .double a, .double b => a.equal b
  | .doubleArray as, .doubleArray bs =>
      decide (as.length = bs.length) && (as.zip bs).all fun (a, b) => a.equal b
  | a, b => decide (a = b)

/-- No double that is a zero in both is a zero of another sign. -/
def KeepsZeroSigns : Value → Value → Prop
  | .double a, .double b => ¬ Double.OppositeZeros a b
  | .doubleArray as, .doubleArray bs => ∀ pair ∈ as.zip bs, ¬ Double.OppositeZeros pair.1 pair.2
  | _, _ => True

theorem eq_of_all_equal {as bs : List Double} (hlength : as.length = bs.length)
    (hequal : ∀ pair ∈ as.zip bs, pair.1 = pair.2) : as = bs := by
  induction as generalizing bs with
  | nil => exact (List.eq_nil_of_length_eq_zero hlength.symm).symm
  | cons a as ih =>
      cases bs with
      | nil => cases hlength
      | cons b bs =>
          have hhead : a = b := hequal (a, b) List.mem_cons_self
          have htail : as = bs :=
            ih (Nat.succ.inj hlength) fun pair h => hequal pair (List.mem_cons_of_mem _ h)
          rw [hhead, htail]

theorem eq_of_sameValue {a b : Value} (h : sameValue a b = true) (hsigns : KeepsZeroSigns a b) :
    a = b := by
  rw [sameValue.eq_def] at h
  split at h
  · rw [Double.eq_of_equal h hsigns]
  · rename_i as bs
    rw [Bool.and_eq_true, decide_eq_true_eq, List.all_eq_true] at h
    congr 1
    exact eq_of_all_equal h.1 fun pair hmem => Double.eq_of_equal (h.2 pair hmem) (hsigns pair hmem)
  · exact of_decide_eq_true h

/-- What `ParameterFreezer` keeps; the nodes with its callback are its handles. -/
structure ParameterFreezer where
  frozen : NodeName → ParameterName → Option Value
  acceptNew : Bool
  handles : List NodeName

namespace ParameterFreezer

def isFrozen (freezer : ParameterFreezer) : Bool := !freezer.handles.isEmpty

def acceptNewParameters (freezer : ParameterFreezer) (accept : Bool) : ParameterFreezer :=
  { freezer with acceptNew := accept }

/-- What the freezer sees of a parameter: one without a value is unset. -/
def current (nodes : Nodes Double) (node : NodeName) (name : ParameterName) : Option Value :=
  (entry nodes node name).map fun value => value.getD .notSet

def freeze (freezer : ParameterFreezer) (nodes : Nodes Double) : ParameterFreezer :=
  { freezer with
    frozen := fun node name => (current nodes node name).or (freezer.frozen node name)
    handles := if freezer.isFrozen then freezer.handles else nodes.keys }

/-- The callback of a node, for one parameter of a batch. -/
def acceptsParameter (freezer : ParameterFreezer) (node : NodeName)
    (parameter : ParameterName × Value) : Bool :=
  match freezer.frozen node parameter.1 with
  | none => freezer.acceptNew
  | some value => sameValue value parameter.2

def accepts (freezer : ParameterFreezer) (node : NodeName)
    (parameters : List (ParameterName × Value)) : Bool :=
  if node ∈ freezer.handles then parameters.all (freezer.acceptsParameter node) else true

end ParameterFreezer

/-- Gives a parameter a value. One that is already declared never loses it. -/
def assign (parameters : Parameters Double) (name : ParameterName) (value : Value) :
    Parameters Double :=
  if name ∉ parameters then parameters.insert name (some value)
  else if value = .notSet then parameters
  else parameters.replace name (some value)

def assignAll (nodes : Nodes Double) (node : NodeName)
    (parameters : List (ParameterName × Value)) : Nodes Double :=
  match nodes.lookup node with
  | none => nodes
  | some declared =>
      nodes.replace node
        (parameters.foldl (fun declared parameter => assign declared parameter.1 parameter.2)
          declared)

section Assignment

variable {α : Type} [DecidableEq α] {V : Type}

theorem kreplace_cons_self {a : α} {b value : V} (l : List (Σ _ : α, V)) :
    List.kreplace a b (⟨a, value⟩ :: l) = ⟨a, b⟩ :: l :=
  List.lookmap_cons_some _ l (if_pos rfl)

theorem kreplace_cons_ne {a d : α} {b value : V} (h : a ≠ d) (l : List (Σ _ : α, V)) :
    List.kreplace a b (⟨d, value⟩ :: l) = ⟨d, value⟩ :: l.kreplace a b :=
  List.lookmap_cons_none _ l (if_neg h)

theorem dlookup_kreplace_ne {a c : α} {b : V} (h : c ≠ a) (l : List (Σ _ : α, V)) :
    (l.kreplace a b).dlookup c = l.dlookup c := by
  induction l with
  | nil => rfl
  | cons s l ih =>
      obtain ⟨d, value⟩ := s
      by_cases hd : a = d
      · subst hd
        rw [kreplace_cons_self, List.dlookup_cons_ne _ _ h, List.dlookup_cons_ne _ _ h]
      · rw [kreplace_cons_ne hd]
        by_cases hc : c = d
        · subst hc
          rw [List.dlookup_cons_eq, List.dlookup_cons_eq]
        · rw [List.dlookup_cons_ne _ _ hc, List.dlookup_cons_ne _ _ hc]
          exact ih

theorem dlookup_kreplace_self {a : α} {b : V} (l : List (Σ _ : α, V)) (h : a ∈ l.keys) :
    (l.kreplace a b).dlookup a = some b := by
  induction l with
  | nil => cases h
  | cons s l ih =>
      obtain ⟨d, value⟩ := s
      by_cases hd : a = d
      · subst hd
        rw [kreplace_cons_self, List.dlookup_cons_eq]
      · rw [kreplace_cons_ne hd, List.dlookup_cons_ne _ _ hd]
        rw [List.keys_cons, List.mem_cons] at h
        exact ih (h.resolve_left hd)

variable {map : AList fun _ : α => V} {a c : α} {b : V}

theorem lookup_replace_ne (h : c ≠ a) : (map.replace a b).lookup c = map.lookup c :=
  dlookup_kreplace_ne h map.entries

theorem lookup_replace_self (h : a ∈ map) : (map.replace a b).lookup a = some b :=
  dlookup_kreplace_self map.entries h

theorem replace_of_lookup (h : map.lookup a = some b) : map.replace a b = map := by
  apply AList.ext
  exact List.kreplace_self map.nodupKeys (AList.mem_lookup_iff.mp h)

theorem mem_of_lookup (h : map.lookup a = some b) : a ∈ map := by
  rw [← AList.lookup_isSome, h]
  rfl

end Assignment

section Batches

variable {declared : Parameters Double} {nodes : Nodes Double} {node : NodeName}
  {name : ParameterName} {held : Option Value} {parameters : List (ParameterName × Value)}

theorem assign_held (h : declared.lookup name = some held) :
    assign declared name (held.getD .notSet) = declared := by
  rw [assign, if_neg (not_not.mpr (mem_of_lookup h))]
  split
  · rfl
  · rename_i hset
    cases held with
    | none => exact absurd rfl hset
    | some value => exact replace_of_lookup h

theorem lookup_assign (h : declared.lookup name = some held) {parameter : ParameterName × Value}
    (hsame : parameter.1 = name → parameter.2 = held.getD .notSet) :
    (assign declared parameter.1 parameter.2).lookup name = some held := by
  by_cases hname : parameter.1 = name
  · rw [hsame hname, hname, assign_held h]
    exact h
  · rw [assign]
    split
    · rw [AList.lookup_insert_ne (Ne.symm hname)]
      exact h
    · split
      · exact h
      · rw [lookup_replace_ne (Ne.symm hname)]
        exact h

theorem lookup_assignments (h : declared.lookup name = some held)
    (hsame : ∀ parameter ∈ parameters,
      parameter.1 = name → parameter.2 = held.getD .notSet) :
    (parameters.foldl (fun declared parameter => assign declared parameter.1 parameter.2)
      declared).lookup name = some held := by
  induction parameters generalizing declared with
  | nil => exact h
  | cons parameter parameters ih =>
      rw [List.foldl_cons]
      apply ih
      · exact lookup_assign h (hsame parameter List.mem_cons_self)
      · exact fun other hmem => hsame other (List.mem_cons_of_mem _ hmem)

theorem assignments_held
    (hheld : ∀ parameter ∈ parameters, ∃ held, declared.lookup parameter.1 = some held ∧
      parameter.2 = held.getD .notSet) :
    parameters.foldl (fun declared parameter => assign declared parameter.1 parameter.2)
      declared = declared := by
  induction parameters with
  | nil => rfl
  | cons parameter parameters ih =>
      obtain ⟨held, hlookup, hvalue⟩ := hheld parameter List.mem_cons_self
      rw [List.foldl_cons, hvalue, assign_held hlookup]
      exact ih fun other hmem => hheld other (List.mem_cons_of_mem _ hmem)

theorem assignAll_of_not_mem (h : node ∉ nodes) : assignAll nodes node parameters = nodes := by
  rw [assignAll, AList.lookup_eq_none.mpr h]

theorem keys_assignAll : (assignAll nodes node parameters).keys = nodes.keys := by
  rw [assignAll]
  split
  · rfl
  · exact AList.keys_replace _ _ _

theorem entry_assignAll {other : NodeName} (h : entry nodes other name = some held)
    (hsame : other = node → ∀ parameter ∈ parameters,
      parameter.1 = name → parameter.2 = held.getD .notSet) :
    entry (assignAll nodes node parameters) other name = some held := by
  rw [assignAll]
  split
  · exact h
  · rename_i declared hnode
    rw [entry]
    by_cases hother : other = node
    · subst hother
      rw [lookup_replace_self (mem_of_lookup hnode)]
      rw [entry, hnode] at h
      exact lookup_assignments h (hsame rfl)
    · rw [lookup_replace_ne hother]
      exact h

theorem assignAll_held
    (hheld : ∀ parameter ∈ parameters, ∃ held, entry nodes node parameter.1 = some held ∧
      parameter.2 = held.getD .notSet) :
    assignAll nodes node parameters = nodes := by
  rw [assignAll]
  split
  · rfl
  · rename_i declared hnode
    rw [assignments_held, replace_of_lookup hnode]
    intro parameter hmem
    obtain ⟨held, hentry, hvalue⟩ := hheld parameter hmem
    rw [entry, hnode] at hentry
    exact ⟨held, hentry, hvalue⟩

end Batches

def systemNode : NodeName := name "system_node" (by decide)

def safetyModeName : ParameterName := name "safety.mode" (by decide)

/-- `SystemNode` and its supervisor, as far as the configuration goes. `published` is the dump
whose hash was published last. -/
structure System where
  state : PrimaryState
  configuring : Bool
  nodes : Nodes Double
  safetyMode : Bool
  freezer : ParameterFreezer
  published : Option Text

inductive Event where
  /-- `otherwise`: what rclcpp itself and the other callbacks say. -/
  | setParameters (node : NodeName) (parameters : List (ParameterName × Value))
      (otherwise : Bool)
  | declareParameter (node : NodeName) (name : ParameterName) (value : Value) (otherwise : Bool)
  | checkSystem
  | configured
  | configureFailed (answer : CallbackReturn) (recovered : Bool)
  /-- `recovered`: whether an error is recovered from. -/
  | transition (transition : Transition) (answer : CallbackReturn) (recovered : Bool)

namespace System

def setParameters (sys : System) (node : NodeName) (parameters : List (ParameterName × Value))
    (otherwise : Bool) : System :=
  if otherwise && sys.freezer.accepts node parameters then
    { sys with nodes := assignAll sys.nodes node parameters }
  else sys

/-- A parameter that is already declared is not declared again. -/
def declareParameter (sys : System) (node : NodeName) (name : ParameterName) (value : Value)
    (otherwise : Bool) : System :=
  if (entry sys.nodes node name).isSome then sys
  else sys.setParameters node [(name, value)] otherwise

/-- `SafetySupervisor::check_system`: EasyNav is (re)configuring. -/
def checkSystem (sys : System) : System :=
  { sys with
    configuring := true
    safetyMode := decide (entry sys.nodes systemNode safetyModeName = some (some (.bool true)))
    freezer := sys.freezer.acceptNewParameters true }

section

variable (toChars : Double → Text)

def onConfigured (sys : System) : System :=
  let sys := { sys with published := some (configurationDump toChars sys.nodes) }
  if sys.safetyMode then
    { sys with freezer := (sys.freezer.freeze sys.nodes).acceptNewParameters false }
  else sys

/-- The end of a configure that succeeds. -/
def configured (sys : System) : System :=
  { sys.onConfigured toChars with
    state := .inactive
    configuring := false }

/-- Where a transition that does not reach its goal leaves the node. -/
def failed (sys : System) (transition : Transition) (answer : CallbackReturn)
    (recovered : Bool) : System :=
  { sys with
    state :=
      if answer = .error ∧ recovered = false then .finalized
      else sys.state.onAnswer transition answer
    configuring := false }

def step (sys : System) : Event → System
  | .setParameters node parameters otherwise => sys.setParameters node parameters otherwise
  | .declareParameter node name value otherwise =>
      sys.declareParameter node name value otherwise
  | .checkSystem =>
      if sys.state = .unconfigured ∧ sys.configuring = false then sys.checkSystem else sys
  | .configured => if sys.configuring then sys.configured toChars else sys
  | .configureFailed answer recovered =>
      if sys.configuring then sys.failed .configure answer recovered else sys
  | .transition transition answer recovered =>
      if sys.configuring ∨ transition = .configure then sys
      else
        match sys.state.goal transition with
        | none => sys
        | some goal =>
            if answer = .success then { sys with state := goal }
            else sys.failed transition answer recovered

def Start (sys : System) : Prop :=
  ∃ nodes : Nodes Double, entry nodes systemNode safetyModeName = some (some (.bool true)) ∧
    sys = configured toChars
      { state := .unconfigured
        configuring := true
        nodes := nodes
        safetyMode := true
        freezer := { frozen := fun _ _ => none, acceptNew := true, handles := [] }
        published := none }

end

end System

section Soundness

open ParameterFreezer

variable {toChars : Double → Text} {sys : System}

structure Sound (toChars : Double → Text) (sys : System) : Prop where
  held : ∀ {node name value}, sys.freezer.frozen node name = some value →
    current sys.nodes node name = some value
  safety : sys.safetyMode = true
  safetyFrozen : sys.freezer.frozen systemNode safetyModeName = some (.bool true)
  watched : ∀ node ∈ sys.nodes, node ∈ sys.freezer.handles
  published : sys.freezer.acceptNew = false →
    sys.published = some (configurationDump toChars sys.nodes)
  closed : sys.freezer.acceptNew = false → ∀ {node name held},
    entry sys.nodes node name = some held → (sys.freezer.frozen node name).isSome
  unconfigured : sys.configuring = true → sys.state = .unconfigured
  shut : sys.state = .inactive ∨ sys.state = .active → sys.freezer.acceptNew = false

theorem entry_of_current {nodes : Nodes Double} {node : NodeName} {name : ParameterName}
    {value : Value} (h : current nodes node name = some value) :
    ∃ held, entry nodes node name = some held ∧ value = held.getD .notSet := by
  obtain ⟨held, hentry, hvalue⟩ := Option.map_eq_some_iff.mp h
  exact ⟨held, hentry, hvalue.symm⟩

theorem current_of_entry {nodes : Nodes Double} {node : NodeName} {name : ParameterName}
    {held : Option Value} (h : entry nodes node name = some held) :
    current nodes node name = some (held.getD .notSet) := by
  rw [current, h]
  rfl

/-- No zero changes its sign in the batch. -/
def KeepsSigns (freezer : ParameterFreezer) (node : NodeName)
    (parameters : List (ParameterName × Value)) : Prop :=
  ∀ parameter ∈ parameters, ∀ value, freezer.frozen node parameter.1 = some value →
    KeepsZeroSigns value parameter.2

section Batch

variable {node : NodeName} {parameters : List (ParameterName × Value)}

theorem ParameterFreezer.accepts_iff {freezer : ParameterFreezer} (hnode : node ∈ freezer.handles) :
    freezer.accepts node parameters = true ↔
      ∀ parameter ∈ parameters, freezer.acceptsParameter node parameter = true := by
  rw [accepts, if_pos hnode, List.all_eq_true]

theorem eq_of_accepts {freezer : ParameterFreezer} {parameter : ParameterName × Value}
    {value : Value} (haccepts : freezer.acceptsParameter node parameter = true)
    (hfrozen : freezer.frozen node parameter.1 = some value)
    (hsigns : KeepsZeroSigns value parameter.2) : parameter.2 = value := by
  rw [acceptsParameter, hfrozen] at haccepts
  exact (eq_of_sameValue haccepts hsigns).symm

theorem assignAll_of_closed (hsound : Sound toChars sys) (hclosed : sys.freezer.acceptNew = false)
    (hnode : node ∈ sys.nodes) (haccepts : sys.freezer.accepts node parameters = true)
    (hsigns : KeepsSigns sys.freezer node parameters) :
    assignAll sys.nodes node parameters = sys.nodes := by
  rw [accepts_iff (hsound.watched node hnode)] at haccepts
  apply assignAll_held
  intro parameter hmem
  have hparameter := haccepts parameter hmem
  cases hfrozen : sys.freezer.frozen node parameter.1 with
  | none =>
      rw [acceptsParameter, hfrozen, hclosed] at hparameter
      cases hparameter
  | some value =>
      obtain ⟨held, hentry, hvalue⟩ := entry_of_current (hsound.held hfrozen)
      refine ⟨held, hentry, ?_⟩
      rw [← hvalue]
      exact eq_of_accepts hparameter hfrozen (hsigns parameter hmem value hfrozen)

theorem current_assignAll (hsound : Sound toChars sys) (hnode : node ∈ sys.nodes)
    (haccepts : sys.freezer.accepts node parameters = true)
    (hsigns : KeepsSigns sys.freezer node parameters) {other : NodeName} {name : ParameterName}
    {value : Value} (hfrozen : sys.freezer.frozen other name = some value) :
    current (assignAll sys.nodes node parameters) other name = some value := by
  rw [accepts_iff (hsound.watched node hnode)] at haccepts
  obtain ⟨held, hentry, rfl⟩ := entry_of_current (hsound.held hfrozen)
  apply current_of_entry
  apply entry_assignAll hentry
  rintro rfl parameter hmem rfl
  exact eq_of_accepts (haccepts parameter hmem) hfrozen (hsigns parameter hmem _ hfrozen)

theorem Sound.setParameters (hsound : Sound toChars sys) (otherwise : Bool)
    (hsigns : KeepsSigns sys.freezer node parameters) :
    Sound toChars (sys.setParameters node parameters otherwise) := by
  rw [System.setParameters]
  split
  · rename_i haccepts
    rw [Bool.and_eq_true] at haccepts
    by_cases hnode : node ∈ sys.nodes
    · constructor
      · exact current_assignAll hsound hnode haccepts.2 hsigns
      · exact hsound.safety
      · exact hsound.safetyFrozen
      · intro other hother
        rw [AList.mem_keys, keys_assignAll] at hother
        exact hsound.watched other hother
      · intro hclosed
        rw [assignAll_of_closed hsound hclosed hnode haccepts.2 hsigns]
        exact hsound.published hclosed
      · intro hclosed other name held hentry
        rw [assignAll_of_closed hsound hclosed hnode haccepts.2 hsigns] at hentry
        exact hsound.closed hclosed hentry
      · exact hsound.unconfigured
      · exact hsound.shut
    · rw [assignAll_of_not_mem hnode]
      exact hsound
  · exact hsound

/-- A parameter that can still be declared is not frozen. -/
theorem Sound.declareParameter (hsound : Sound toChars sys) (name : ParameterName)
    (value : Value) (otherwise : Bool) :
    Sound toChars (sys.declareParameter node name value otherwise) := by
  rw [System.declareParameter]
  split
  · exact hsound
  · rename_i hnew
    apply hsound.setParameters
    intro parameter hmem frozen hfrozen
    obtain rfl := List.mem_singleton.mp hmem
    obtain ⟨held, hentry, -⟩ := entry_of_current (hsound.held hfrozen)
    rw [hentry] at hnew
    exact absurd rfl hnew

end Batch

theorem Sound.entry_safetyMode (hsound : Sound toChars sys) :
    entry sys.nodes systemNode safetyModeName = some (some (.bool true)) := by
  obtain ⟨held, hentry, hvalue⟩ := entry_of_current (hsound.held hsound.safetyFrozen)
  cases held with
  | none => cases hvalue
  | some value =>
      rw [hentry, hvalue]
      rfl

theorem Sound.checkSystem (hsound : Sound toChars sys) (hstate : sys.state = .unconfigured) :
    Sound toChars sys.checkSystem := by
  refine ⟨hsound.held, ?_, hsound.safetyFrozen, hsound.watched, ?_, ?_, fun _ => hstate, ?_⟩
  · exact decide_eq_true hsound.entry_safetyMode
  · intro hclosed
    cases hclosed
  · intro hclosed
    cases hclosed
  · intro hshut
    rw [System.checkSystem, hstate] at hshut
    rcases hshut with h | h <;> cases h

/-- What is frozen on a configure is what the nodes hold then. -/
theorem current_of_freeze {freezer : ParameterFreezer} {nodes : Nodes Double} {node : NodeName}
    {name : ParameterName} {value : Value}
    (hheld : freezer.frozen node name = some value → current nodes node name = some value)
    (h : (freezer.freeze nodes).frozen node name = some value) :
    current nodes node name = some value := by
  change (current nodes node name).or (freezer.frozen node name) = some value at h
  cases hcurrent : current nodes node name with
  | none =>
      rw [hcurrent, Option.none_or] at h
      rw [hheld h] at hcurrent
      cases hcurrent
  | some held =>
      rw [hcurrent, Option.some_or] at h
      exact h

theorem configured_sound (hsafety : sys.safetyMode = true)
    (hentry : entry sys.nodes systemNode safetyModeName = some (some (.bool true)))
    (hheld : ∀ {node name value}, sys.freezer.frozen node name = some value →
      current sys.nodes node name = some value)
    (hwatched : sys.freezer.handles = [] ∨ ∀ node ∈ sys.nodes, node ∈ sys.freezer.handles) :
    Sound toChars (sys.configured toChars) := by
  have hconfigured : sys.configured toChars =
      { sys with
        state := .inactive
        configuring := false
        published := some (configurationDump toChars sys.nodes)
        freezer := (sys.freezer.freeze sys.nodes).acceptNewParameters false } := by
    rw [System.configured, System.onConfigured, if_pos hsafety]
  have hfreeze : ∀ {node name held}, entry sys.nodes node name = some held →
      (sys.freezer.freeze sys.nodes).frozen node name = some (held.getD .notSet) := by
    intro node name held h
    change (current sys.nodes node name).or _ = _
    rw [current_of_entry h, Option.some_or]
  rw [hconfigured]
  constructor
  · exact fun h => current_of_freeze hheld h
  · exact hsafety
  · exact hfreeze hentry
  · intro node hnode
    change node ∈ if sys.freezer.isFrozen then sys.freezer.handles else sys.nodes.keys
    rcases hwatched with hfresh | hwatched
    · rw [isFrozen, hfresh]
      exact AList.mem_keys.mp hnode
    · split
      · exact hwatched node hnode
      · exact AList.mem_keys.mp hnode
  · exact fun _ => rfl
  · intro _ node name held h
    change ((sys.freezer.freeze sys.nodes).frozen node name).isSome = true
    rw [hfreeze h]
    rfl
  · intro h
    cases h
  · exact fun _ => rfl

theorem start_sound (h : System.Start toChars sys) : Sound toChars sys := by
  obtain ⟨nodes, hentry, rfl⟩ := h
  apply configured_sound rfl hentry
  · intro node name value hfrozen
    cases hfrozen
  · exact Or.inl rfl

theorem Sound.move (hsound : Sound toChars sys) {state : PrimaryState}
    (hshut : state = .inactive ∨ state = .active → sys.freezer.acceptNew = false) :
    Sound toChars { sys with state := state, configuring := false } := by
  refine ⟨hsound.held, hsound.safety, hsound.safetyFrozen, hsound.watched, hsound.published,
    hsound.closed, ?_, hshut⟩
  intro h
  cases h

/-- A transition that fails leaves the node Inactive or Active only if it was already. -/
theorem Sound.failed (hsound : Sound toChars sys) (transition : Transition)
    (answer : CallbackReturn) (recovered : Bool) :
    Sound toChars (sys.failed transition answer recovered) := by
  apply hsound.move
  intro hshut
  split at hshut
  · rcases hshut with h | h <;> cases h
  · cases answer with
    | error => rcases hshut with h | h <;> cases h
    | success =>
        cases transition with
        | shutdown => rcases hshut with h | h <;> cases h
        | _ => exact hsound.shut hshut
    | failure =>
        cases transition with
        | shutdown => rcases hshut with h | h <;> cases h
        | _ => exact hsound.shut hshut

theorem shut_of_goal {state goal : PrimaryState} {transition : Transition}
    (hconfigure : transition ≠ .configure) (hgoal : state.goal transition = some goal)
    (hshut : goal = .inactive ∨ goal = .active) : state = .inactive ∨ state = .active := by
  cases state with
  | inactive => exact Or.inl rfl
  | active => exact Or.inr rfl
  | finalized => cases transition <;> cases hgoal
  | unconfigured =>
      cases transition with
      | configure => exact absurd rfl hconfigure
      | shutdown =>
          cases hgoal
          rcases hshut with h | h <;> cases h
      | _ => cases hgoal

theorem Sound.reach (hsound : Sound toChars sys) {transition : Transition} {goal : PrimaryState}
    (hidle : sys.configuring = false) (hconfigure : transition ≠ .configure)
    (hgoal : sys.state.goal transition = some goal) :
    Sound toChars { sys with state := goal } := by
  have hmove : Sound toChars { sys with state := goal, configuring := false } :=
    hsound.move fun hshut => hsound.shut (shut_of_goal hconfigure hgoal hshut)
  rw [← hidle] at hmove
  exact hmove

/-- The requests that change the sign of no frozen zero. -/
def KeepsFrozenSigns (sys : System) : Event → Prop
  | .setParameters node parameters _ => KeepsSigns sys.freezer node parameters
  | _ => True

theorem Sound.step (hsound : Sound toChars sys) (e : Event) (hsigns : KeepsFrozenSigns sys e) :
    Sound toChars (sys.step toChars e) := by
  cases e with
  | setParameters node parameters otherwise => exact hsound.setParameters otherwise hsigns
  | declareParameter node name value otherwise =>
      exact hsound.declareParameter name value otherwise
  | checkSystem =>
      rw [System.step]
      split
      · rename_i h
        exact hsound.checkSystem h.1
      · exact hsound
  | configured =>
      rw [System.step]
      split
      · exact configured_sound hsound.safety hsound.entry_safetyMode hsound.held
          (Or.inr hsound.watched)
      · exact hsound
  | configureFailed answer recovered =>
      rw [System.step]
      split
      · exact hsound.failed .configure answer recovered
      · exact hsound
  | transition transition answer recovered =>
      rw [System.step]
      split
      · exact hsound
      · rename_i hidle
        rw [not_or, Bool.not_eq_true] at hidle
        split
        · exact hsound
        · rename_i goal hgoal
          split
          · exact hsound.reach hidle.1 hidle.2 hgoal
          · exact hsound.failed transition answer recovered

theorem Sound.frozen_step (hsound : Sound toChars sys) (e : Event) {node : NodeName}
    {name : ParameterName} {value : Value}
    (h : sys.freezer.frozen node name = some value) :
    (sys.step toChars e).freezer.frozen node name = some value := by
  cases e with
  | setParameters other parameters otherwise =>
      rw [System.step, System.setParameters]
      split <;> exact h
  | declareParameter other parameter given otherwise =>
      rw [System.step, System.declareParameter, System.setParameters]
      split
      · exact h
      · split <;> exact h
  | checkSystem =>
      rw [System.step]
      split <;> exact h
  | configured =>
      rw [System.step]
      split
      · rw [System.configured, System.onConfigured, if_pos hsound.safety]
        change (current sys.nodes node name).or (sys.freezer.frozen node name) = some value
        rw [hsound.held h, Option.some_or]
      · exact h
  | configureFailed answer recovered =>
      rw [System.step]
      split <;> exact h
  | transition transition answer recovered =>
      rw [System.step]
      split
      · exact h
      · split
        · exact h
        · split <;> exact h

/-- Every value that was ever frozen is the one the parameter has, and while `SystemNode` is
Active the dump of the nodes is the one whose hash was published. -/
structure Kept (toChars : Double → Text) (sys : System) (past : List (System × Event)) :
    Prop where
  frozen : ∀ earlier ∈ sys :: past.map Prod.fst, ∀ {node name value},
    earlier.freezer.frozen node name = some value → current sys.nodes node name = some value
  published : sys.state = .active →
    sys.published = some (configurationDump toChars sys.nodes)

/-- While no zero changes its sign, every frozen value is kept, and the dump of an active system
is the one published. -/
theorem kept_of_keepsFrozenSigns {past : List (System × Event)}
    (hrun : Run (System.step toChars) (System.Start toChars) sys past)
    (hsigns : ∀ p ∈ past, KeepsFrozenSigns p.1 p.2) : Kept toChars sys past := by
  have hkept : Sound toChars sys ∧ ∀ earlier ∈ past.map Prod.fst, ∀ {node name value},
      earlier.freezer.frozen node name = some value →
        sys.freezer.frozen node name = some value := by
    refine hrun.history_invariant (motive := fun sys past => Sound toChars sys ∧
      ∀ earlier ∈ past.map Prod.fst, ∀ {node name value},
        earlier.freezer.frozen node name = some value →
          sys.freezer.frozen node name = some value)
      KeepsFrozenSigns ?_ ?_ hsigns
    · intro sys hstart
      refine ⟨start_sound hstart, ?_⟩
      intro earlier hmem
      cases hmem
    · rintro sys e past ⟨hsound, hfrozen⟩ hkeeps
      refine ⟨hsound.step e hkeeps, ?_⟩
      intro earlier hmem node name value h
      apply hsound.frozen_step e
      rw [List.map_cons, List.mem_cons] at hmem
      rcases hmem with rfl | hmem
      · exact h
      · exact hfrozen earlier hmem h
  obtain ⟨hsound, hfrozen⟩ := hkept
  constructor
  · intro earlier hmem node name value h
    rcases List.mem_cons.mp hmem with rfl | hmem
    · exact hsound.held h
    · exact hsound.held (hfrozen earlier hmem h)
  · exact fun hactive => hsound.published (hsound.shut (Or.inr hactive))

end Soundness

section Example

def exampleText (d : Double) : Text :=
  if d = ⟨0⟩ then bytes "0"
  else if d = ⟨0x8000000000000000⟩ then bytes "-0"
  else ConfigurationDump.integer d.bits.toNat

def exampleVerticalLimit : ParameterName := name "robot_limits.max_vertical_vel" (by decide)

def exampleFrozen : Nodes Double :=
  ((∅ : Nodes Double).insert systemNode
    ((∅ : Parameters Double).insert safetyModeName (some (.bool true)))).insert exampleNode
    ((∅ : Parameters Double).insert exampleVerticalLimit (some (.double ⟨0⟩)))

def exampleConfigured : System :=
  System.configured exampleText
    { state := .unconfigured
      configuring := true
      nodes := exampleFrozen
      safetyMode := true
      freezer := { frozen := fun _ _ => none, acceptNew := true, handles := [] }
      published := none }

def exampleRequests : List Event :=
  [.transition .activate .success true,
    .setParameters exampleNode [(exampleVerticalLimit, .double ⟨0x8000000000000000⟩)] true]

theorem exampleConfigured_start : System.Start exampleText exampleConfigured :=
  ⟨exampleFrozen, by decide +kernel, rfl⟩

/-- Negative zero is accepted for a frozen zero, and the dump changes while EasyNav is Active. -/
theorem not_kept : ¬ ∀ sys past, Run (System.step exampleText) (System.Start exampleText) sys past →
    Kept exampleText sys past := by
  intro h
  have hkept := h _ _ ((Run.init exampleConfigured_start).foldl exampleRequests)
  have hactive : (exampleRequests.foldl (System.step exampleText) exampleConfigured).state =
      .active := by
    decide +kernel
  have hdump : (exampleRequests.foldl (System.step exampleText) exampleConfigured).published ≠
      some (configurationDump exampleText
        (exampleRequests.foldl (System.step exampleText) exampleConfigured).nodes) := by
    decide +kernel
  exact hdump (hkept.published hactive)

def exampleRefused : Event :=
  .setParameters exampleNode [(exampleVerticalLimit, .double ⟨0x3ff0000000000000⟩)] true

theorem kept_of_keepsFrozenSigns_refused :
    Kept exampleText (System.step exampleText exampleConfigured exampleRefused)
      [(exampleConfigured, exampleRefused)] := by
  apply kept_of_keepsFrozenSigns ((Run.init exampleConfigured_start).next exampleRefused)
  intro p hp
  obtain rfl := List.mem_singleton.mp hp
  intro parameter hmem value hfrozen
  obtain rfl := List.mem_singleton.mp hmem
  have hlimit : exampleConfigured.freezer.frozen exampleNode exampleVerticalLimit =
      some (.double ⟨0⟩) := by
    decide +kernel
  obtain rfl := Option.some.inj (hlimit.symm.trans hfrozen)
  have hzeros : ¬ Double.OppositeZeros ⟨0⟩ ⟨0x3ff0000000000000⟩ := by decide
  exact hzeros

end Example

end EasyNav.ParameterFreezing
