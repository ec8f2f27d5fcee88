import EasyNav.ParameterRestoration
import EasyNav.TypedStores

namespace EasyNav.UnsetParameters

open EasyNav.Lifecycle
open EasyNav.SystemLifecycle
open EasyNav.Reconfiguration
open EasyNav.ParameterRestoration
open EasyNav.TypedStores

universe u

structure ParameterUninitializedException where
  parameter : String
  deriving DecidableEq

variable {V : Type u}

/-- `get_parameter`, of a declared parameter. -/
def getParameter (name : String) : Option V → Except ParameterUninitializedException V
  | some value => .ok value
  | none => .error ⟨name⟩

/-- The values that the changed parameters have, unless one of them does not exist. -/
def readPrevious (store : Store (Option V)) : List (ParameterChange (Option V)) →
    Except ParameterUninitializedException (Option (List (ParameterChange (Option V))))
  | [] => .ok (some [])
  | change :: changes =>
      match previousValue store change with
      | none => .ok none
      | some previous =>
          match getParameter change.parameter previous.value with
          | .error e => .error e
          | .ok _ =>
              match readPrevious store changes with
              | .ok values => .ok (values.map fun values => previous :: values)
              | .error e => .error e

/-- `apply_pending_reconfigure`, with the exceptions that leave it. -/
def applyPending (env : Environment (Option V)) (sys : ReconfigurableNode (Option V)) :
    Attempt (ReconfigurableNode (Option V)) ParameterUninitializedException Bool :=
  match sys.pendingReconfigure with
  | none => (sys, .ok false)
  | some request =>
      if sys.node.data.isShutdownRequested || decide (sys.node.state ≠ .active) then
        (sys, .ok false)
      else
        let changes := requestedChanges sys request
        let sys := { sys with pendingReconfigure := none }
        if changes.isEmpty then (sys, .ok false)
        else
          match readPrevious sys.node.data.world changes with
          | .error e => (sys, .error e)
          | .ok none => (sys, .ok false)
          | .ok (some previous) => (reconfigure env sys request changes previous, .ok true)

/-- The changes read a parameter declared without a value, and before it only parameters
that exist. -/
def ReadsUnset (store : Store (Option V)) (changes : List (ParameterChange (Option V))) : Prop :=
  ∃ earlier change later, changes = earlier ++ change :: later ∧
    (∀ other ∈ earlier, previousValue store other ≠ none) ∧
      ∃ node, findNode change.node = some node ∧ store node change.parameter = some none

structure Due (sys : ReconfigurableNode V) (request : ReconfigureRequest V) : Prop where
  pending : sys.pendingReconfigure = some request
  active : sys.node.state = .active
  running : sys.node.data.shutdownReason = none

/-- An attempt to apply the pending request returns, with the request consumed if it was due,
and unless something was applied, the nodes and the originals are as before. -/
structure AppliesOrRejects (sys : ReconfigurableNode (Option V))
    (attempt : Attempt (ReconfigurableNode (Option V)) ParameterUninitializedException Bool) :
    Prop where
  returns : ¬ attempt.Throws
  consumed : (∃ request, Due sys request) → attempt.1.pendingReconfigure = none
  rejected : attempt.2 = .ok false → attempt.1.node = sys.node ∧
    attempt.1.originalParameters = sys.originalParameters ∧
      attempt.1.reconfiguredParameters = sys.reconfiguredParameters

section Reading

variable {store : Store (Option V)} {change : ParameterChange (Option V)}
  {changes : List (ParameterChange (Option V))}

theorem previousValue_unset_iff {previous : ParameterChange (Option V)}
    (h : previousValue store change = some previous) :
    previous.value = none ↔
      ∃ node, findNode change.node = some node ∧ store node change.parameter = some none := by
  obtain ⟨node, hnode, -, -, hstored⟩ := previousValue_eq_some h
  constructor
  · intro hvalue
    rw [hvalue] at hstored
    exact ⟨node, hnode, hstored⟩
  · rintro ⟨node', hnode', hunset⟩
    obtain rfl := Option.some.inj (hnode.symm.trans hnode')
    exact Option.some.inj (hstored.symm.trans hunset)

theorem not_readsUnset_nil : ¬ ReadsUnset store [] := by
  rintro ⟨earlier, change, later, h, -⟩
  exact absurd h.symm (List.append_ne_nil_of_right_ne_nil _ (List.cons_ne_nil _ _))

theorem readsUnset_cons_iff :
    ReadsUnset store (change :: changes) ↔
      (∃ node, findNode change.node = some node ∧ store node change.parameter = some none) ∨
        previousValue store change ≠ none ∧ ReadsUnset store changes := by
  constructor
  · rintro ⟨earlier, unset, later, h, hearlier, hunset⟩
    cases earlier with
    | nil =>
        obtain ⟨rfl, rfl⟩ := List.cons.inj h
        exact Or.inl hunset
    | cons first earlier =>
        obtain ⟨rfl, rfl⟩ := List.cons.inj h
        obtain ⟨hfirst, hearlier⟩ := List.forall_mem_cons.mp hearlier
        exact Or.inr ⟨hfirst, earlier, unset, later, rfl, hearlier, hunset⟩
  · rintro (hunset | ⟨hfirst, earlier, unset, later, rfl, hearlier, hunset⟩)
    · exact ⟨[], change, changes, rfl, by simp, hunset⟩
    · exact ⟨change :: earlier, unset, later, rfl,
        List.forall_mem_cons.mpr ⟨hfirst, hearlier⟩, hunset⟩

/-- Unless it throws, the reading loop finds the previous values, or that some parameter
does not exist. -/
theorem readPrevious_cases (store : Store (Option V))
    (changes : List (ParameterChange (Option V))) :
    (ReadsUnset store changes ∧ ∃ e, readPrevious store changes = .error e) ∨
      (¬ ReadsUnset store changes ∧
        readPrevious store changes = .ok (previousValues store changes)) := by
  induction changes with
  | nil => exact Or.inr ⟨not_readsUnset_nil, rfl⟩
  | cons change changes ih =>
      simp only [readPrevious, previousValues, readsUnset_cons_iff]
      cases hprevious : previousValue store change with
      | none =>
          right
          refine ⟨?_, rfl⟩
          rintro (⟨node, hnode, hunset⟩ | ⟨hne, -⟩)
          · simp [previousValue, hnode, hunset] at hprevious
          · exact hne rfl
      | some previous =>
          rw [← previousValue_unset_iff hprevious]
          cases hvalue : previous.value with
          | none =>
              left
              refine ⟨Or.inl rfl, ⟨change.parameter⟩, ?_⟩
              simp [getParameter, hvalue]
          | some value =>
              rcases ih with ⟨hunset, e, hread⟩ | ⟨hset, hread⟩
              · left
                refine ⟨Or.inr ⟨Option.some_ne_none _, hunset⟩, e, ?_⟩
                simp [getParameter, hvalue, hread]
              · right
                refine ⟨?_, ?_⟩
                · rintro (h | ⟨-, hunset⟩)
                  · contradiction
                  · exact hset hunset
                · simp only [getParameter, hvalue, hread]
                  cases previousValues store changes <;> rfl

end Reading

section Applying

variable {env : Environment (Option V)} {sys : ReconfigurableNode (Option V)}
  {request : ReconfigureRequest (Option V)}

theorem applyPending_of_due (h : Due sys request) :
    applyPending env sys =
      if (requestedChanges sys request).isEmpty then
        ({ sys with pendingReconfigure := none }, .ok false)
      else
        match readPrevious sys.node.data.world (requestedChanges sys request) with
        | .error e => ({ sys with pendingReconfigure := none }, .error e)
        | .ok none => ({ sys with pendingReconfigure := none }, .ok false)
        | .ok (some previous) =>
            (reconfigure env { sys with pendingReconfigure := none } request
              (requestedChanges sys request) previous, .ok true) := by
  simp [applyPending, h.pending, SystemData.isShutdownRequested, h.running, h.active]

/-- Without an exception, it is what the other results about reconfigurations are about. -/
theorem applyPending_of_set
    (h : ∀ request, Due sys request →
      ¬ ReadsUnset sys.node.data.world (requestedChanges sys request)) :
    applyPending env sys =
      ((applyPendingReconfigure env sys).1, .ok (applyPendingReconfigure env sys).2) := by
  simp only [applyPending, applyPendingReconfigure]
  cases hpending : sys.pendingReconfigure with
  | none => rfl
  | some request =>
      dsimp only
      split
      · rfl
      · rename_i hgate
        split
        · rfl
        · obtain ⟨hactive, hrunning⟩ := not_gated_iff.mp hgate
          rcases readPrevious_cases sys.node.data.world (requestedChanges sys request) with
            ⟨hunset, -⟩ | ⟨-, hread⟩
          · exact absurd hunset (h request ⟨hpending, hactive, hrunning⟩)
          · rw [hread]
            cases previousValues sys.node.data.world (requestedChanges sys request) <;> rfl

theorem reconfigure_pendingReconfigure (changes previous : List (ParameterChange (Option V))) :
    (reconfigure env sys request changes previous).pendingReconfigure =
      sys.pendingReconfigure := by
  cases hrestarted : (restartWith env sys.node changes).2 with
  | true => rw [reconfigure_of_restarted hrestarted]
  | false =>
      have hfailed : ∃ node,
          reconfigure env sys request changes previous = { sys with node := node } ∧ _ :=
        reconfigure_of_not_restarted hrestarted
      obtain ⟨node, heq, -⟩ := hfailed
      rw [heq]

theorem applyPendingReconfigure_consumes (h : Due sys request) :
    (applyPendingReconfigure env sys).1.pendingReconfigure = none := by
  have hgate := not_gated_iff.mpr ⟨h.active, h.running⟩
  simp only [applyPendingReconfigure, h.pending]
  rw [if_neg hgate]
  split
  · rfl
  · split
    · rfl
    · exact reconfigure_pendingReconfigure _ _

theorem applyPendingReconfigure_rejected (h : (applyPendingReconfigure env sys).2 = false) :
    (applyPendingReconfigure env sys).1 = sys ∨
      (applyPendingReconfigure env sys).1 = { sys with pendingReconfigure := none } := by
  simp only [applyPendingReconfigure] at h ⊢
  split at h
  · exact Or.inl rfl
  · split at h
    · rename_i hgate
      rw [if_pos hgate]
      exact Or.inl rfl
    · rename_i hgate
      rw [if_neg hgate]
      split at h
      · rename_i hempty
        rw [if_pos hempty]
        exact Or.inr rfl
      · rename_i hempty
        rw [if_neg hempty]
        split at h
        · exact Or.inr rfl
        · cases h

/-- A request is applied or rejected unless it comes to a parameter that was declared
without a value. -/
theorem applies_or_rejects_iff (env : Environment (Option V))
    (sys : ReconfigurableNode (Option V)) :
    AppliesOrRejects sys (applyPending env sys) ↔
      ¬ ∃ request, Due sys request ∧
        ReadsUnset sys.node.data.world (requestedChanges sys request) := by
  constructor
  · rintro ⟨hreturns, -, -⟩ ⟨request, hdue, hunset⟩
    have hne : (requestedChanges sys request).isEmpty = false := by
      cases hchanges : requestedChanges sys request with
      | nil =>
          rw [hchanges] at hunset
          exact absurd hunset not_readsUnset_nil
      | cons change changes => rfl
    apply hreturns
    rw [applyPending_of_due hdue, hne]
    rcases readPrevious_cases sys.node.data.world (requestedChanges sys request) with
      ⟨-, e, hread⟩ | ⟨hset, -⟩
    · rw [hread]
      exact Attempt.throws_error
    · exact absurd hunset hset
  · intro hset
    rw [applyPending_of_set fun request hdue hunset => hset ⟨request, hdue, hunset⟩]
    refine ⟨Attempt.not_throws_ok, ?_, fun hrejected => ?_⟩
    · rintro ⟨request, hdue⟩
      exact applyPendingReconfigure_consumes hdue
    · rcases applyPendingReconfigure_rejected (Except.ok.inj hrejected) with hsame | hconsumed
      · dsimp only
        rw [hsame]
        exact ⟨rfl, rfl, rfl⟩
      · dsimp only
        rw [hconsumed]
        exact ⟨rfl, rfl, rfl⟩

end Applying

def permissive : Environment (Option String) where
  accepts _ _ value := value.isSome
  systemValid _ := true
  configures _ _ := .success
  subnodesValid _ := true
  activates _ _ := .success

def settingTopic : ReconfigurableNode (Option String) where
  node := Rollback.settled .active true
    (Store.set (fun _ _ => none) (.subnode .sensorsNode) "gps1" none)
  pendingReconfigure := some
    { changes := [{ node := "sensors_node", parameter := "gps1", value := some "/gps/fix" }]
      reason := "no fix" }

theorem setting_topic_throws :
    (applyPending permissive settingTopic).2 = .error ⟨"gps1"⟩ ∧
      ¬ AppliesOrRejects settingTopic (applyPending permissive settingTopic) := by
  have hthrows : (applyPending permissive settingTopic).2 = .error ⟨"gps1"⟩ := by
    decide +kernel
  exact ⟨hthrows, fun h => h.returns ⟨_, hthrows⟩⟩

end EasyNav.UnsetParameters
