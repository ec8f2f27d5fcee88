import EasyNav.ConfigurationDump
import EasyNav.PluginContainment
import Mathlib.Logic.Function.Basic

namespace EasyNav.PluginSwitching

open EasyNav.ConfigurationDump
open EasyNav.PluginContainment

/-- The parameters that are declared, some without a value, and the overrides. -/
structure NodeParameters (D : Type) where
  declared : Text → Option (ParameterValue D)
  overrides : Text → Option (ParameterValue D)

/-- An instance of a plugin, by the order in which they were created. -/
structure Loaded where
  aliasName : Text
  pluginClass : Text
  instanceId : Nat
  deriving DecidableEq

/-- The parameters of the node, and the instances that were created and initialised. -/
structure World (D : Type) where
  node : NodeParameters D
  created : Nat := 0
  initialised : List (Nat × Text) := []

/-- What the callbacks of the node accept, and what the plugins do: creating an instance of a
class may throw, and so may `initialize`, which may do anything to the parameters. -/
structure Environment (D : Type) where
  accepts : NodeParameters D → Text → ParameterValue D → Bool
  createSharedInstance : World D → Text → Option Thrown
  initializePlugin : World D → Nat → Text → NodeParameters D × Option Thrown

structure PluginSwitcher where
  typesParameter : Text
  maxPlugins : Nat := 1
  plugins : List Loaded := []

def PluginSwitcher.loadedTypes (switcher : PluginSwitcher) : List Text :=
  switcher.plugins.map Loaded.aliasName

section Parameters

variable {D : Type}

def hasParameter (node : NodeParameters D) (name : Text) : Bool := (node.declared name).isSome

/-- `declare_parameter` of a parameter that is not declared. One that an override leaves
without a value is declared all the same. -/
def declareParameter (env : Environment D) (node : NodeParameters D) (name : Text)
    (default : ParameterValue D) : Attempt (NodeParameters D) Unit :=
  let value := (node.overrides name).getD default
  let declared := { node with declared := Function.update node.declared name (some value) }
  if value.type = .notSet then (declared, .error (.stdException "ParameterTypeException"))
  else if value.type ≠ default.type then
    (node, .error (.stdException "InvalidParameterTypeException"))
  else if !env.accepts node name value then
    (node, .error (.stdException "InvalidParameterValueException"))
  else (declared, .ok ())

/-- `get_parameter`, which throws unless there is a value. -/
def getParameter (node : NodeParameters D) (name : Text) : Except Thrown (ParameterValue D) :=
  match node.declared name with
  | none => .error (.stdException "ParameterNotDeclaredException")
  | some value =>
      if value.type = .notSet then .error (.stdException "ParameterUninitializedException")
      else .ok value

def asString : ParameterValue D → Except Thrown Text
  | .string text => .ok text
  | _ => .error (.stdException "ParameterTypeException")

/-- The value of the types parameter. A parameter without a value is not read. -/
def getTypes (node : NodeParameters D) (typesParameter : Text) : Except Thrown (List Text) :=
  match node.declared typesParameter with
  | some (.stringArray types) => .ok types
  | some .notSet | none => .ok []
  | some _ => .error (.stdException "ParameterTypeException")

def readTypes (env : Environment D) (switcher : PluginSwitcher) (node : NodeParameters D) :
    Attempt (NodeParameters D) (List Text) :=
  Attempt.andThen
    (if hasParameter node switcher.typesParameter then (node, .ok ())
      else declareParameter env node switcher.typesParameter (.stringArray []))
    fun node _ => (node, getTypes node switcher.typesParameter)

/-- The name of the parameter with the class of an alias. -/
def classParameter (aliasName : Text) : Text := aliasName ++ bytes ".plugin"

/-- Class name of an alias: its "<alias>.plugin" parameter, or else the overrides. -/
def resolvePluginClass (node : NodeParameters D) (aliasName : Text) : Except Thrown Text :=
  if hasParameter node (classParameter aliasName) then
    match getParameter node (classParameter aliasName) with
    | .error thrown => .error thrown
    | .ok value => asString value
  else
    match node.overrides (classParameter aliasName) with
    | some (.string text) => .ok text
    | _ => .ok []

end Parameters

section Configuring

variable {D : Type} (env : Environment D)

def declareClass (w : World D) (aliasName pluginClass : Text) : Attempt (World D) Unit :=
  if hasParameter w.node (classParameter aliasName) then (w, .ok ())
  else
    let (node, result) :=
      declareParameter env w.node (classParameter aliasName) (.string pluginClass)
    ({ w with node := node }, result)

/-- A new instance, which is not initialised yet. -/
def createSharedInstance (w : World D) (pluginClass : Text) : Attempt (World D) Nat :=
  match env.createSharedInstance w pluginClass with
  | some thrown => (w, .error thrown)
  | none => ({ w with created := w.created + 1 }, .ok w.created)

def initializePlugin (w : World D) (instanceId : Nat) (aliasName : Text) : Attempt (World D) Unit :=
  let (node, thrown) := env.initializePlugin w instanceId aliasName
  let w := { w with node := node, initialised := (instanceId, aliasName) :: w.initialised }
  match thrown with
  | some thrown => (w, .error thrown)
  | none => (w, .ok ())

def load (w : World D) (aliasName pluginClass : Text) : Attempt (World D) (Option Loaded) :=
  (declareClass env w aliasName pluginClass).andThen fun w _ =>
    (createSharedInstance env w pluginClass).andThen fun w instanceId =>
      (initializePlugin env w instanceId aliasName).andThen fun w _ =>
        (w, .ok (some
          { aliasName := aliasName, pluginClass := pluginClass, instanceId := instanceId }))

def create (w : World D) (aliasName pluginClass : Text) : Attempt (World D) (Option Loaded) :=
  (load env w aliasName pluginClass).catchStd fun w => (w, .ok none)

/-- The plugins of these aliases, after those that are loaded, unless one of them fails. -/
def createAll : List Text → List Loaded → World D → Attempt (World D) (Option (List Loaded))
  | [], loaded, w => (w, .ok (some loaded))
  | aliasName :: types, loaded, w =>
      match resolvePluginClass w.node aliasName with
      | .error thrown => (w, .error thrown)
      | .ok pluginClass =>
          (create env w aliasName pluginClass).andThen fun w item =>
            match item with
            | none => (w, .ok none)
            | some item => createAll types (loaded ++ [item]) w

def tooMany (switcher : PluginSwitcher) (types : List Text) : Bool :=
  decide (switcher.maxPlugins ≠ 0) && decide (switcher.maxPlugins < types.length)

/-- What is loaded is handed out only when all of it is. -/
def handOut (switcher : PluginSwitcher) :
    Attempt (World D) (Option (List Loaded)) → Attempt (PluginSwitcher × World D) Bool
  | (w, .error thrown) => ((switcher, w), .error thrown)
  | (w, .ok none) => ((switcher, w), .ok false)
  | (w, .ok (some loaded)) => (({ switcher with plugins := loaded }, w), .ok true)

def configure (switcher : PluginSwitcher) (node : NodeParameters D) :
    Attempt (PluginSwitcher × World D) Bool :=
  match readTypes env switcher node with
  | (node, .error thrown) => ((switcher, { node := node }), .error thrown)
  | (node, .ok types) =>
      if tooMany switcher types then ((switcher, { node := node }), .ok false)
      else handOut switcher (createAll env types [] { node := node })

end Configuring

section Specification

variable {D : Type}

def typesIn (node : NodeParameters D) (typesParameter : Text) : List Text :=
  match node.declared typesParameter with
  | some (.stringArray types) => types
  | _ => []

/-- The instance was initialised once, with its alias. -/
def InitialisedOnce (w : World D) (item : Loaded) : Prop :=
  w.initialised.filter (fun p => p.1 = item.instanceId) = [(item.instanceId, item.aliasName)]

/-- It returns; what it says is loaded is what the types parameter listed, each initialised
once; and if it failed, nothing is loaded. -/
structure AllOrNothing (env : Environment D) (switcher : PluginSwitcher)
    (node : NodeParameters D) : Prop where
  returns : ¬ (configure env switcher node).Throws
  all : (configure env switcher node).2 = .ok true →
    (configure env switcher node).1.1.loadedTypes =
        typesIn (readTypes env switcher node).1 switcher.typesParameter ∧
      ∀ item ∈ (configure env switcher node).1.1.plugins,
        InitialisedOnce (configure env switcher node).1.2 item
  nothing : (configure env switcher node).2 = .ok false →
    (configure env switcher node).1.1.plugins = []

/-- The types parameter has a list of strings or no value. If it is not declared yet, the
override is such a list, if there is one, and the node accepts it. -/
def ListsTypes (env : Environment D) (switcher : PluginSwitcher) (node : NodeParameters D) :
    Prop :=
  match node.declared switcher.typesParameter with
  | some value => value.type = .notSet ∨ value.type = .stringArray
  | none =>
      ((node.overrides switcher.typesParameter).getD (.stringArray [])).type = .stringArray ∧
        env.accepts node switcher.typesParameter
          ((node.overrides switcher.typesParameter).getD (.stringArray [])) = true

/-- The class of an alias is not declared, or is a string. -/
def NamesClass (node : NodeParameters D) (aliasName : Text) : Prop :=
  ∀ value, node.declared (classParameter aliasName) = some value → value.type = .string

/-- Creating or initialising an instance throws something that is not a `std::exception`. -/
def ThrowsOther (env : Environment D) (w : World D) (aliasName pluginClass : Text) : Prop :=
  ∃ w', declareClass env w aliasName pluginClass = (w', .ok ()) ∧
    (env.createSharedInstance w' pluginClass = some .other ∨
      env.createSharedInstance w' pluginClass = none ∧
        (env.initializePlugin { w' with created := w'.created + 1 } w'.created aliasName).2 =
          some .other)

/-- Until one of these aliases fails, each of them names its class when its turn comes, and its
plugin throws only `std::exception`s. -/
def LoadsStd (env : Environment D) : List Text → World D → Prop
  | [], _ => True
  | aliasName :: types, w =>
      NamesClass w.node aliasName ∧
        ∀ pluginClass, resolvePluginClass w.node aliasName = .ok pluginClass →
          ¬ ThrowsOther env w aliasName pluginClass ∧
            ∀ w' item, create env w aliasName pluginClass = (w', .ok (some item)) →
              LoadsStd env types w'

end Specification

section Reading

variable {D : Type} {env : Environment D} {node : NodeParameters D}

theorem resolvePluginClass_ok_iff {aliasName : Text} :
    (∃ pluginClass, resolvePluginClass node aliasName = .ok pluginClass) ↔
      NamesClass node aliasName := by
  rw [resolvePluginClass, hasParameter, NamesClass, getParameter]
  cases hdeclared : node.declared (classParameter aliasName) with
  | none =>
      refine iff_of_true ?_ fun value hvalue => by cases hvalue
      rw [Option.isSome_none, if_neg Bool.false_ne_true]
      split
      · exact ⟨_, rfl⟩
      · exact ⟨_, rfl⟩
  | some value =>
      rw [Option.isSome_some, if_pos rfl]
      cases value with
      | string text => exact iff_of_true ⟨text, rfl⟩ fun _ hvalue => Option.some.inj hvalue ▸ rfl
      | _ =>
          refine iff_of_false ?_ fun hall => ?_
          · rintro ⟨pluginClass, h⟩
            cases h
          · cases hall _ rfl

/-- A types parameter that is declared is read if it is a list or has no value. -/
theorem getTypes_of_declared {typesParameter : Text} {value : ParameterValue D}
    (h : node.declared typesParameter = some value) :
    getTypes node typesParameter =
      if value.type = .notSet ∨ value.type = .stringArray then .ok (typesIn node typesParameter)
      else .error (.stdException "ParameterTypeException") := by
  rw [getTypes, typesIn, h]
  cases value with
  | stringArray types => rfl
  | notSet => rfl
  | _ => rfl

theorem declareParameter_eq (env : Environment D) (node : NodeParameters D) (name : Text)
    {default : ParameterValue D} (hdefault : default.type ≠ .notSet) :
    (∃ what, (declareParameter env node name default).2 = .error (.stdException what)) ∧
        ¬ (((node.overrides name).getD default).type = default.type ∧
          env.accepts node name ((node.overrides name).getD default) = true) ∨
      (declareParameter env node name default).2 = .ok () ∧
        ((node.overrides name).getD default).type = default.type ∧
        env.accepts node name ((node.overrides name).getD default) = true ∧
        (declareParameter env node name default).1.declared name =
          some ((node.overrides name).getD default) := by
  rw [declareParameter]
  generalize (node.overrides name).getD default = value
  by_cases hunset : value.type = .notSet
  · rw [if_pos hunset]
    refine Or.inl ⟨⟨_, rfl⟩, fun h => hdefault (h.1.symm.trans hunset)⟩
  · rw [if_neg hunset]
    by_cases htype : value.type = default.type
    · rw [if_neg (not_not.mpr htype)]
      cases haccepts : env.accepts node name value with
      | false => exact Or.inl ⟨⟨_, rfl⟩, fun h => by cases h.2⟩
      | true => exact Or.inr ⟨rfl, htype, rfl, Function.update_self ..⟩
    · rw [if_pos htype]
      exact Or.inl ⟨⟨_, rfl⟩, fun h => htype h.1⟩

theorem readTypes_cases (env : Environment D) (switcher : PluginSwitcher)
    (node : NodeParameters D) :
    (readTypes env switcher node).Throws ∧ ¬ ListsTypes env switcher node ∨
      (readTypes env switcher node).2 =
          .ok (typesIn (readTypes env switcher node).1 switcher.typesParameter) ∧
        ListsTypes env switcher node := by
  rw [readTypes, hasParameter, ListsTypes]
  cases hdeclared : node.declared switcher.typesParameter with
  | some value =>
      rw [Option.isSome_some, if_pos rfl, Attempt.andThen_of_ok, getTypes_of_declared hdeclared]
      by_cases hlists : value.type = .notSet ∨ value.type = .stringArray
      · rw [if_pos hlists]
        exact Or.inr ⟨rfl, hlists⟩
      · rw [if_neg hlists]
        exact Or.inl ⟨⟨_, rfl⟩, hlists⟩
  | none =>
      rw [Option.isSome_none, if_neg Bool.false_ne_true]
      dsimp only
      rcases hresult : declareParameter env node switcher.typesParameter (.stringArray []) with
        ⟨node', result⟩
      have hcases := declareParameter_eq env node switcher.typesParameter
        (show (ParameterValue.stringArray [] : ParameterValue D).type ≠ .notSet by
          intro h
          cases h)
      rw [hresult] at hcases
      rcases hcases with ⟨⟨what, hthrows⟩, hrefused⟩ | ⟨hok, htype, haccepts, hset⟩
      · dsimp only at hthrows
        rw [hthrows]
        exact Or.inl ⟨⟨_, rfl⟩, hrefused⟩
      · dsimp only at hok hset
        have hread : getTypes node' switcher.typesParameter =
            .ok (typesIn node' switcher.typesParameter) :=
          (getTypes_of_declared hset).trans (if_pos (Or.inr htype))
        rw [hok, Attempt.andThen_of_ok, hread]
        exact Or.inr ⟨rfl, htype, haccepts⟩

end Reading

section Loading

variable {D : Type} {env : Environment D}

theorem declareClass_cases (env : Environment D) (w : World D) (aliasName pluginClass : Text) :
    (∃ w', declareClass env w aliasName pluginClass = (w', .ok ()) ∧ w'.created = w.created ∧
        w'.initialised = w.initialised) ∨
      ∃ w' what, declareClass env w aliasName pluginClass = (w', .error (.stdException what)) := by
  rw [declareClass]
  split
  · exact Or.inl ⟨w, rfl, rfl, rfl⟩
  · rcases hresult : declareParameter env w.node (classParameter aliasName)
      (.string pluginClass) with ⟨node, result⟩
    have hcases := declareParameter_eq env w.node (classParameter aliasName)
      (show (ParameterValue.string pluginClass : ParameterValue D).type ≠ .notSet by
        intro h
        cases h)
    rw [hresult] at hcases
    dsimp only at hcases ⊢
    rcases hcases with ⟨⟨what, hthrows⟩, -⟩ | ⟨hok, -⟩
    · rw [hthrows]
      exact Or.inr ⟨_, what, rfl⟩
    · rw [hok]
      exact Or.inl ⟨_, rfl, rfl, rfl⟩

/-- What comes of an alias: an exception that is not caught, a failure, or an instance that is
initialised. -/
inductive Creation (env : Environment D) (w : World D) (aliasName pluginClass : Text) :
    Attempt (World D) (Option Loaded) → Prop
  | escapes (w' : World D) (h : ThrowsOther env w aliasName pluginClass) :
      Creation env w aliasName pluginClass (w', .error .other)
  | fails (w' : World D) (h : ¬ ThrowsOther env w aliasName pluginClass) :
      Creation env w aliasName pluginClass (w', .ok none)
  | loads (w' : World D) (h : ¬ ThrowsOther env w aliasName pluginClass)
      (hcreated : w'.created = w.created + 1)
      (hinitialised : w'.initialised = (w.created, aliasName) :: w.initialised) :
      Creation env w aliasName pluginClass (w', .ok (some
        { aliasName := aliasName, pluginClass := pluginClass, instanceId := w.created }))

theorem throwsOther_iff {w w' : World D} {aliasName pluginClass : Text}
    (h : declareClass env w aliasName pluginClass = (w', .ok ())) :
    ThrowsOther env w aliasName pluginClass ↔
      env.createSharedInstance w' pluginClass = some .other ∨
        env.createSharedInstance w' pluginClass = none ∧
          (env.initializePlugin { w' with created := w'.created + 1 } w'.created aliasName).2 =
            some .other := by
  constructor
  · rintro ⟨w'', h', hthrows⟩
    obtain ⟨rfl, -⟩ := Prod.mk.inj (h.symm.trans h')
    exact hthrows
  · exact fun hthrows => ⟨w', h, hthrows⟩

theorem create_cases (env : Environment D) (w : World D) (aliasName pluginClass : Text) :
    Creation env w aliasName pluginClass (create env w aliasName pluginClass) := by
  rw [create, load]
  rcases declareClass_cases env w aliasName pluginClass with
    ⟨w', hdeclare, hcreated, hinitialised⟩ | ⟨w', what, hdeclare⟩
  · have hiff := throwsOther_iff hdeclare
    rw [hdeclare, Attempt.andThen_of_ok, createSharedInstance]
    cases hshared : env.createSharedInstance w' pluginClass with
    | some thrown =>
        rw [hshared] at hiff
        cases thrown with
        | other => exact .escapes _ (hiff.mpr (Or.inl rfl))
        | stdException what => exact .fails _ (by rw [hiff]; simp)
    | none =>
        dsimp only
        rw [Attempt.andThen_of_ok, initializePlugin]
        rw [hshared] at hiff
        rcases hstarted : env.initializePlugin { w' with created := w'.created + 1 } w'.created
          aliasName with ⟨node, thrown⟩
        rw [hstarted] at hiff
        cases thrown with
        | some thrown =>
            cases thrown with
            | other => exact .escapes _ (hiff.mpr (Or.inr ⟨rfl, rfl⟩))
            | stdException what => exact .fails _ (by rw [hiff]; simp)
        | none =>
            have hnot : ¬ ThrowsOther env w aliasName pluginClass := by
              rw [hiff]
              simp
            dsimp only
            rw [Attempt.andThen_of_ok, hcreated]
            refine .loads _ hnot rfl ?_
            rw [← hinitialised]
  · rw [hdeclare]
    refine .fails _ ?_
    rintro ⟨w'', hok, -⟩
    rw [hdeclare] at hok
    cases hok

/-- The instances that are loaded were initialised once, and no later one was. -/
structure Fresh (w : World D) (loaded : List Loaded) : Prop where
  earlier : ∀ p ∈ w.initialised, p.1 < w.created
  once : ∀ item ∈ loaded, InitialisedOnce w item

theorem Fresh.next {w w' : World D} {loaded : List Loaded} (h : Fresh w loaded)
    {aliasName : Text} (pluginClass : Text) (hcreated : w'.created = w.created + 1)
    (hinitialised : w'.initialised = (w.created, aliasName) :: w.initialised) :
    Fresh w' (loaded ++
      [{ aliasName := aliasName, pluginClass := pluginClass, instanceId := w.created }]) := by
  constructor
  · rw [hinitialised, hcreated, List.forall_mem_cons]
    refine ⟨Nat.lt_succ_self _, fun p hp => ?_⟩
    exact Nat.lt_succ_of_lt (h.earlier p hp)
  · intro item hitem
    rw [InitialisedOnce, hinitialised]
    rcases List.mem_append.mp hitem with hold | hnew
    · have honce := h.once item hold
      have hmem : (item.instanceId, item.aliasName) ∈ w.initialised := by
        refine List.mem_of_mem_filter (p := fun p => p.1 = item.instanceId) ?_
        rw [honce]
        exact List.mem_singleton_self _
      have hlt : item.instanceId < w.created := h.earlier _ hmem
      rw [List.filter_cons_of_neg]
      · exact honce
      · rw [decide_eq_true_eq]
        exact Nat.ne_of_gt hlt
    · obtain rfl := List.mem_singleton.mp hnew
      have hnone : w.initialised.filter (fun p => p.1 = w.created) = [] := by
        rw [List.filter_eq_nil_iff]
        intro p hp
        rw [decide_eq_true_eq]
        exact Nat.ne_of_lt (h.earlier p hp)
      dsimp only
      rw [List.filter_cons_of_pos (by simp), hnone]

theorem loadsStd_cons_iff {w : World D} {aliasName pluginClass : Text} {types : List Text}
    (hresolve : resolvePluginClass w.node aliasName = .ok pluginClass) :
    LoadsStd env (aliasName :: types) w ↔
      ¬ ThrowsOther env w aliasName pluginClass ∧
        ∀ w' item, create env w aliasName pluginClass = (w', .ok (some item)) →
          LoadsStd env types w' := by
  rw [LoadsStd]
  constructor
  · exact fun hall => hall.2 pluginClass hresolve
  · intro hall
    refine ⟨resolvePluginClass_ok_iff.mp ⟨pluginClass, hresolve⟩, fun pluginClass' heq => ?_⟩
    obtain rfl := Except.ok.inj (hresolve.symm.trans heq)
    exact hall

theorem loadsStd_cons_of_loaded {w w' : World D} {aliasName pluginClass : Text}
    {types : List Text} {item : Loaded}
    (hresolve : resolvePluginClass w.node aliasName = .ok pluginClass)
    (hstd : ¬ ThrowsOther env w aliasName pluginClass)
    (hcreate : create env w aliasName pluginClass = (w', .ok (some item))) :
    LoadsStd env (aliasName :: types) w ↔ LoadsStd env types w' := by
  rw [loadsStd_cons_iff hresolve]
  constructor
  · exact fun hall => hall.2 w' item hcreate
  · intro hall
    refine ⟨hstd, fun w'' item' heq => ?_⟩
    obtain ⟨rfl, -⟩ := Prod.mk.inj (hcreate.symm.trans heq)
    exact hall

theorem createAll_cases (env : Environment D) (types : List Text) {loaded : List Loaded}
    {w : World D} (h : Fresh w loaded) :
    (createAll env types loaded w).Throws ∧ ¬ LoadsStd env types w ∨
      LoadsStd env types w ∧
        ((createAll env types loaded w).2 = .ok none ∨
          ∃ all, (createAll env types loaded w).2 = .ok (some all) ∧
            all.map Loaded.aliasName = loaded.map Loaded.aliasName ++ types ∧
            Fresh (createAll env types loaded w).1 all) := by
  induction types generalizing loaded w with
  | nil => exact Or.inr ⟨trivial, Or.inr ⟨loaded, rfl, (List.append_nil _).symm, h⟩⟩
  | cons aliasName types ih =>
      rw [createAll]
      cases hresolve : resolvePluginClass w.node aliasName with
      | error thrown =>
          refine Or.inl ⟨⟨thrown, rfl⟩, fun hall => ?_⟩
          obtain ⟨pluginClass, hok⟩ := resolvePluginClass_ok_iff.mpr hall.1
          rw [hresolve] at hok
          cases hok
      | ok pluginClass =>
          have hcreation := create_cases env w aliasName pluginClass
          dsimp only
          rcases hcreate : create env w aliasName pluginClass with ⟨w', result⟩
          rw [hcreate] at hcreation
          cases hcreation with
          | escapes _ hother =>
              rw [loadsStd_cons_iff hresolve]
              exact Or.inl ⟨⟨_, rfl⟩, fun hall => hall.1 hother⟩
          | fails _ hstd =>
              rw [loadsStd_cons_iff hresolve, hcreate]
              refine Or.inr ⟨⟨hstd, fun w' item heq => ?_⟩, Or.inl rfl⟩
              cases heq
          | loads _ hstd hcreated hinitialised =>
              rw [loadsStd_cons_of_loaded hresolve hstd hcreate, Attempt.andThen_of_ok]
              dsimp only
              rcases ih (h.next pluginClass hcreated hinitialised) with
                hthrows | ⟨hstd', hnone | ⟨all, hall, haliases, hfresh⟩⟩
              · exact Or.inl hthrows
              · exact Or.inr ⟨hstd', Or.inl hnone⟩
              · refine Or.inr ⟨hstd', Or.inr ⟨all, hall, ?_, hfresh⟩⟩
                rw [haliases, List.map_append, List.append_assoc]
                rfl

end Loading

/-- The types parameter can be read, and unless it lists too many plugins, loading them throws
nothing that is not caught. -/
def Configures {D : Type} (env : Environment D) (switcher : PluginSwitcher)
    (node : NodeParameters D) : Prop :=
  let node' := (readTypes env switcher node).1
  let types := typesIn node' switcher.typesParameter
  ListsTypes env switcher node ∧
    (tooMany switcher types = false → LoadsStd env types { node := node' })

section Outcomes

variable {D : Type} {env : Environment D} {switcher : PluginSwitcher} {node : NodeParameters D}

theorem not_allOrNothing_of_throws {thrown : Thrown}
    (h : (configure env switcher node).2 = .error thrown) : ¬ AllOrNothing env switcher node :=
  fun hall => hall.returns ⟨thrown, h⟩

theorem allOrNothing_of_failed {w : World D} (hempty : switcher.plugins = [])
    (h : configure env switcher node = ((switcher, w), .ok false)) :
    AllOrNothing env switcher node := by
  refine ⟨?_, ?_, ?_⟩
  · rw [h]
    rintro ⟨thrown, hthrown⟩
    cases hthrown
  · rw [h]
    intro htrue
    cases htrue
  · rw [h]
    exact fun _ => hempty

theorem allOrNothing_of_loaded {w : World D} {all : List Loaded}
    (h : configure env switcher node = (({ switcher with plugins := all }, w), .ok true))
    (haliases : all.map Loaded.aliasName =
      typesIn (readTypes env switcher node).1 switcher.typesParameter)
    (honce : ∀ item ∈ all, InitialisedOnce w item) : AllOrNothing env switcher node := by
  refine ⟨?_, ?_, ?_⟩
  · rw [h]
    rintro ⟨thrown, hthrown⟩
    cases hthrown
  · rw [h]
    exact fun _ => ⟨haliases, honce⟩
  · rw [h]
    intro hfalse
    cases hfalse

theorem allOrNothing_of_readTypes {node' : NodeParameters D} {types : List Text}
    (hempty : switcher.plugins = []) (hread : readTypes env switcher node = (node', .ok types))
    (htypes : types = typesIn node' switcher.typesParameter)
    (hmany : tooMany switcher types = false) :
    AllOrNothing env switcher node ↔ LoadsStd env types { node := node' } := by
  have hfresh : Fresh ({ node := node' } : World D) [] :=
    ⟨fun p hp => absurd hp List.not_mem_nil, fun item hitem => absurd hitem List.not_mem_nil⟩
  have hloading := createAll_cases env types hfresh
  rcases hcreate : createAll env types [] { node := node' } with ⟨w, loading⟩
  rw [hcreate] at hloading
  have hconfigure : configure env switcher node = handOut switcher (w, loading) := by
    rw [configure, hread]
    dsimp only
    rw [hmany, if_neg Bool.false_ne_true, hcreate]
  rcases hloading with ⟨⟨thrown, hthrows⟩, hstd⟩ | ⟨hstd, hnone | ⟨all, hall, haliases, hdone⟩⟩
  · obtain rfl : loading = .error thrown := hthrows
    exact iff_of_false (not_allOrNothing_of_throws (congrArg Prod.snd hconfigure)) hstd
  · obtain rfl : loading = .ok none := hnone
    exact iff_of_true (allOrNothing_of_failed hempty hconfigure) hstd
  · obtain rfl : loading = .ok (some all) := hall
    refine iff_of_true (allOrNothing_of_loaded hconfigure ?_ hdone.once) hstd
    rw [hread, ← htypes]
    exact haliases

end Outcomes

/-- With nothing loaded before, configuring is all or nothing exactly if the types parameter can
be read and, until an alias fails, each names its class and throws only `std::exception`s. -/
theorem all_or_nothing_iff {D : Type} (env : Environment D) (switcher : PluginSwitcher)
    (node : NodeParameters D) (hempty : switcher.plugins = []) :
    AllOrNothing env switcher node ↔ Configures env switcher node := by
  rw [Configures]
  rcases hread : readTypes env switcher node with ⟨node', result⟩
  have hcases := readTypes_cases env switcher node
  rw [hread] at hcases
  rcases hcases with ⟨⟨thrown, hthrows⟩, hlists⟩ | ⟨htypes, hlists⟩
  · obtain rfl : result = .error thrown := hthrows
    have hconfigure : (configure env switcher node).2 = .error thrown := by
      rw [configure, hread]
    exact iff_of_false (not_allOrNothing_of_throws hconfigure) fun h => hlists h.1
  · obtain rfl : result = .ok (typesIn node' switcher.typesParameter) := htypes
    dsimp only
    rw [and_iff_right hlists]
    cases hmany : tooMany switcher (typesIn node' switcher.typesParameter) with
    | true =>
        have hconfigure : configure env switcher node =
            ((switcher, { node := node' }), .ok false) := by
          rw [configure, hread]
          exact if_pos hmany
        exact iff_of_true (allOrNothing_of_failed hempty hconfigure) fun h => by cases h
    | false =>
        rw [allOrNothing_of_readTypes hempty hread rfl hmany]
        exact ⟨fun hstd _ => hstd, fun h => h rfl⟩

def tolerant : Environment Unit where
  accepts _ _ _ := true
  createSharedInstance _ _ := none
  initializePlugin w _ _ := (w.node, none)

/-- A node whose controller is `simple`, with this as its class. -/
def simpleNode (pluginClass : ParameterValue Unit) : NodeParameters Unit where
  declared name :=
    if name = bytes "controller_types" then some (.stringArray [bytes "simple"])
    else if name = bytes "simple.plugin" then some pluginClass
    else none
  overrides _ := none

def controllers : PluginSwitcher := { typesParameter := bytes "controller_types" }

/-- A class that is a number, one without a value, and a plugin that throws a number. -/
theorem configure_throws :
    ¬ AllOrNothing tolerant controllers (simpleNode (.integer 5)) ∧
      ¬ AllOrNothing tolerant controllers (simpleNode .notSet) ∧
      ¬ AllOrNothing { tolerant with initializePlugin := fun w _ _ => (w.node, some .other) }
        controllers (simpleNode (.string (bytes "easynav/Simple"))) := by
  refine ⟨fun h => h.returns ⟨.stdException "ParameterTypeException", ?_⟩,
    fun h => h.returns ⟨.stdException "ParameterUninitializedException", ?_⟩,
    fun h => h.returns ⟨.other, ?_⟩⟩
  · decide +kernel
  · decide +kernel
  · decide +kernel

theorem all_or_nothing_iff_simple :
    AllOrNothing tolerant controllers (simpleNode (.string (bytes "easynav/Simple"))) ∧
      (configure tolerant controllers (simpleNode (.string (bytes "easynav/Simple")))).2 =
        .ok true := by
  refine ⟨(all_or_nothing_iff tolerant controllers _ rfl).mpr ⟨?_, fun _ => ⟨?_, ?_⟩⟩,
    by decide +kernel⟩
  · exact Or.inr rfl
  · intro value hvalue
    obtain rfl := Option.some.inj hvalue
    rfl
  · intro pluginClass _
    refine ⟨?_, fun _ _ _ => trivial⟩
    rintro ⟨w', -, h | ⟨-, h⟩⟩
    · cases h
    · cases h

end EasyNav.PluginSwitching
