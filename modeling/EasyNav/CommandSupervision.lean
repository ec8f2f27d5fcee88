import EasyNav.VelocitySelection

namespace EasyNav.CommandSupervision

open EasyNav.ExtendedArithmetic
open EasyNav.ExtendedArithmetic.Extended
open EasyNav.DoubleArithmetic
open EasyNav.NavigationState
open EasyNav.VelocitySelection

structure CommandGuard where
  cmdTimeout : Double := .fin (1 / 2)
  keepalivePeriod : Double := .fin 0
  hardwareId : String := "controller_node"
  timeoutMessage : String := ""
  lastControllerCmd : Option TwistStamped := none
  lastProposal : Option Time := none
  lastPublish : Option Time := none
  timedOut : Bool := false
  lastReport : Option (DiagnosticLevel × String) := none
  deriving DecidableEq

namespace CommandGuard

def discardedMessage : String := "Non-finite velocity command discarded"

def receivingMessage : String := "Receiving velocity commands"

/-- Forgets the timeout, keepalive and last command. The last report is kept. -/
def reset (guard : CommandGuard) : CommandGuard :=
  { guard with
    lastControllerCmd := none, lastProposal := none, lastPublish := none, timedOut := false }

/-- Reads and checks the parameters, and starts over. `false` if they are invalid. -/
def configure (guard : CommandGuard) (nodeName : String)
    (cmdTimeout keepalivePeriod : Double) : CommandGuard × Bool :=
  let guard := reset { guard with
    hardwareId := nodeName, cmdTimeout := cmdTimeout, keepalivePeriod := keepalivePeriod }
  if !cmdTimeout.isFinite || decide (cmdTimeout < 0) || !keepalivePeriod.isFinite ||
      decide (keepalivePeriod < 0) then
    (guard, false)
  else
    ({ guard with
      timeoutMessage :=
        "No new velocity command in " ++ ostreamDouble cmdTimeout ++ " s: stopping" }, true)

/-- `cmd_timeout` against the period of the controller: not longer, every command
would time out. -/
def checkControllerPeriod (guard : CommandGuard) (period : Double) : Bool :=
  !(decide (0 < guard.cmdTimeout) && decide (guard.cmdTimeout ≤ period))

/-- Whether a controller command is new (stamp or value changed). Remembers it. -/
def isNew (guard : CommandGuard) (cmd : TwistStamped) : Bool × CommandGuard :=
  match guard.lastControllerCmd with
  | some last =>
      if cmd.eq last then (false, guard)
      else (true, { guard with lastControllerCmd := some cmd })
  | none => (true, { guard with lastControllerCmd := some cmd })

/-- Consumes the proposal of one source if it is not finite. -/
def discardSource (nav : NavState) (source : VelocitySource) : Bool × NavState :=
  match peek nav source with
  | some cmd => if cmd.twist.isFinite then (false, nav) else (true, (take nav source).2)
  | none => (false, nav)

/-- Consumes this cycle's non-finite proposals; whether any was discarded. -/
def discardNonFinite (nav : NavState) : Bool × NavState :=
  let (override, nav) := discardSource nav .override
  let (takeover, nav) := discardSource nav .takeover
  let (controller, nav) := discardSource nav .controller
  (override || takeover || controller, nav)

/-- The selection, or zero if its non-zero target is held for longer than the
timeout. -/
def supervise (guard : CommandGuard) (selection : Selection) (now : Time) :
    Selection × CommandGuard :=
  if selection.fresh then
    (selection, { guard with lastProposal := some now, timedOut := false })
  else
    -- The clock jumped back: count the timeout from now.
    let lastProposal := guard.lastProposal.map fun last => if now < last then now else last
    let guard := { guard with lastProposal := lastProposal }
    let stop := { selection with cmd := { selection.cmd with twist := {} } }
    if guard.timedOut then (stop, guard)
    else if decide (0 < guard.cmdTimeout) && !selection.cmd.twist.eq stop.cmd.twist &&
        guard.lastProposal.any fun last => decide (guard.cmdTimeout < seconds (now - last))
    then ({ stop with fresh := true }, { guard with timedOut := true })
    else (selection, guard)

/-- Nothing to report until something goes wrong; then, only changes. -/
def writeReport (guard : CommandGuard) (nav : NavState) (level : DiagnosticLevel)
    (message : String) : CommandGuard × NavState :=
  if guard.lastReport = none ∧ level = .ok ∨ guard.lastReport = some (level, message) then
    (guard, nav)
  else
    ({ guard with lastReport := some (level, message) },
      nav.setDiagnostic "cmd_vel"
        { name := "cmd_vel"
          hardwareId := guard.hardwareId
          level := level
          message := message })

def report (guard : CommandGuard) (nav : NavState) (discarded fresh : Bool) :
    CommandGuard × NavState :=
  if guard.timedOut then guard.writeReport nav .error guard.timeoutMessage
  else if discarded then guard.writeReport nav .error discardedMessage
  else if fresh then guard.writeReport nav .ok receivingMessage
  else (guard, nav)

/-- Whether the command must be republished at `now`. -/
def keepaliveDue (guard : CommandGuard) (now : Time) : Bool :=
  if guard.keepalivePeriod ≤ 0 then false
  else
    match guard.lastPublish with
    | none => true
    | some last =>
        -- Also due if the clock jumped back.
        let sincePublish := seconds (now - last)
        decide (sincePublish < 0) || decide (guard.keepalivePeriod ≤ sincePublish)

/-- Records that a command stamped `stamp` was published. -/
def published (guard : CommandGuard) (stamp : Time) : CommandGuard :=
  { guard with lastPublish := some stamp }

/-- Everything the timeout rests on is the same in both. -/
structure SameTimeout (a b : CommandGuard) : Prop where
  cmdTimeout : a.cmdTimeout = b.cmdTimeout
  lastProposal : a.lastProposal = b.lastProposal
  timedOut : a.timedOut = b.timedOut

variable (guard : CommandGuard) (nav : NavState)

theorem report_cases (discarded fresh : Bool) :
    guard.report nav discarded fresh = (guard, nav) ∨
      ∃ lastReport diagnostic, guard.report nav discarded fresh =
        ({ guard with lastReport := lastReport }, nav.setDiagnostic "cmd_vel" diagnostic) := by
  have hwrite : ∀ level message, guard.writeReport nav level message = (guard, nav) ∨
      ∃ lastReport diagnostic, guard.writeReport nav level message =
        ({ guard with lastReport := lastReport }, nav.setDiagnostic "cmd_vel" diagnostic) := by
    intro level message
    rw [writeReport]
    split
    · exact Or.inl rfl
    · exact Or.inr ⟨_, _, rfl⟩
  rw [report]
  split
  · exact hwrite _ _
  · split
    · exact hwrite _ _
    · split
      · exact hwrite _ _
      · exact Or.inl rfl

theorem report_field {α : Type} (field : CommandGuard → NavState → α)
    (hfield : ∀ guard nav lastReport diagnostic,
      field { guard with lastReport := lastReport } (nav.setDiagnostic "cmd_vel" diagnostic) =
        field guard nav) (discarded fresh : Bool) :
    field (guard.report nav discarded fresh).1 (guard.report nav discarded fresh).2 =
      field guard nav := by
  rcases guard.report_cases nav discarded fresh with h | ⟨lastReport, diagnostic, h⟩
  · rw [h]
  · rw [h]
    exact hfield guard nav lastReport diagnostic

theorem report_sameTimeout (discarded fresh : Bool) :
    SameTimeout (guard.report nav discarded fresh).1 guard := by
  rcases guard.report_cases nav discarded fresh with h | ⟨lastReport, diagnostic, h⟩
  · rw [h]
    exact ⟨rfl, rfl, rfl⟩
  · rw [h]
    exact ⟨rfl, rfl, rfl⟩

theorem report_sameCommands (discarded fresh : Bool) :
    SameCommands (guard.report nav discarded fresh).2 nav := by
  rcases guard.report_cases nav discarded fresh with h | ⟨lastReport, diagnostic, h⟩
  · rw [h]
    exact .refl nav
  · rw [h]
    exact ⟨rfl, rfl⟩

theorem isNew_sameTimeout (cmd : TwistStamped) : SameTimeout (guard.isNew cmd).2 guard := by
  unfold isNew
  split
  · split <;> exact ⟨rfl, rfl, rfl⟩
  · exact ⟨rfl, rfl, rfl⟩

theorem discardSource_sameButProposals (source : VelocitySource) :
    SameButProposals (discardSource nav source).2 nav := by
  unfold discardSource
  split
  · split
    · exact .refl nav
    · exact take_sameButProposals nav source
  · exact .refl nav

theorem discardNonFinite_sameButProposals :
    SameButProposals (discardNonFinite nav).2 nav :=
  (discardSource_sameButProposals _ _).trans
    ((discardSource_sameButProposals _ _).trans (discardSource_sameButProposals _ _))

theorem peek_discardSource (source other : VelocitySource) :
    peek (discardSource nav source).2 other =
      if other = source then (peek nav source).filter fun cmd => cmd.twist.isFinite
      else peek nav other := by
  rw [discardSource]
  split
  · rename_i cmd hcmd
    split
    · rename_i hfinite
      split
      · rename_i heq
        rw [heq, hcmd, Option.filter_some, if_pos hfinite]
      · rfl
    · rename_i hfinite
      rw [peek_take]
      split
      · rw [hcmd, Option.filter_some, if_neg hfinite]
      · rfl
  · rename_i hnone
    split
    · rename_i heq
      rw [heq, hnone]
      rfl
    · rfl

theorem peek_discardNonFinite (source : VelocitySource) :
    peek (discardNonFinite nav).2 source =
      (peek nav source).filter fun cmd => cmd.twist.isFinite := by
  change peek (discardSource (discardSource (discardSource nav .override).2 .takeover).2
    .controller).2 source = _
  simp only [peek_discardSource]
  cases source <;> simp

theorem SameTimeout.trans {a b c : CommandGuard} (hab : SameTimeout a b)
    (hbc : SameTimeout b c) : SameTimeout a c :=
  ⟨hab.cmdTimeout.trans hbc.cmdTimeout, hab.lastProposal.trans hbc.lastProposal,
    hab.timedOut.trans hbc.timedOut⟩

theorem supervise_congr {a b : CommandGuard} (h : SameTimeout a b)
    (selection : Selection) (now : Time) :
    (a.supervise selection now).1 = (b.supervise selection now).1 ∧
      SameTimeout (a.supervise selection now).2
        (b.supervise selection now).2 := by
  obtain ⟨htimeout, hproposal, hout⟩ := h
  unfold supervise
  simp only [htimeout, hproposal, hout]
  split
  · exact ⟨rfl, rfl, rfl, rfl⟩
  · split
    · exact ⟨rfl, rfl, rfl, rfl⟩
    · split <;> exact ⟨rfl, rfl, rfl, rfl⟩

variable {selection : Selection} (now : Time)

theorem supervise_field {α : Type} (field : CommandGuard → α)
    (hfield : ∀ guard lastProposal timedOut,
      field { guard with lastProposal := lastProposal, timedOut := timedOut } = field guard)
    (selection : Selection) : field (guard.supervise selection now).2 = field guard := by
  unfold supervise
  split
  · exact hfield guard _ _
  · dsimp only
    split
    · exact hfield guard _ guard.timedOut
    · split
      · exact hfield guard _ _
      · exact hfield guard _ guard.timedOut

theorem supervise_cmdTimeout (selection : Selection) :
    (guard.supervise selection now).2.cmdTimeout = guard.cmdTimeout :=
  guard.supervise_field now cmdTimeout (fun _ _ _ => rfl) selection

theorem supervise_of_fresh (h : selection.fresh = true) :
    guard.supervise selection now =
      (selection, { guard with lastProposal := some now, timedOut := false }) := by
  unfold supervise
  rw [if_pos h]

variable {guard now} in
theorem not_fresh_of_supervise (h : (guard.supervise selection now).1.fresh = false) :
    selection.fresh = false := by
  cases hfresh : selection.fresh with
  | false => rfl
  | true =>
      unfold supervise at h
      rw [if_pos hfresh, hfresh] at h
      contradiction

/-- The reading the timeout counts from: it follows the clock when that jumps
back. -/
def countedFrom (guard : CommandGuard) (now : Time) : Option Time :=
  guard.lastProposal.map fun last => if now < last then now else last

/-- What a cycle without a new command does: it holds the target, or it stops. -/
theorem supervise_of_not_fresh (h : selection.fresh = false) :
    (guard.supervise selection now).2.lastProposal = guard.countedFrom now ∧
      (((guard.supervise selection now).2.timedOut = true ∧
          (guard.supervise selection now).1.cmd.twist = {}) ∨
        (guard.supervise selection now).2.timedOut = false ∧ guard.timedOut = false ∧
          (guard.supervise selection now).1 = selection ∧
          (0 < guard.cmdTimeout → selection.cmd.twist.eq {} = false →
            ∀ last ∈ guard.countedFrom now, ¬ guard.cmdTimeout < seconds (now - last))) := by
  unfold supervise countedFrom
  rw [if_neg (by simp [h])]
  by_cases hout : guard.timedOut = true
  · rw [if_pos hout]
    exact ⟨rfl, Or.inl ⟨hout, rfl⟩⟩
  · rw [if_neg hout]
    split
    · exact ⟨rfl, Or.inl ⟨rfl, rfl⟩⟩
    · rename_i hheld
      have hfalse : guard.timedOut = false := Bool.eq_false_iff.mpr hout
      refine ⟨rfl, Or.inr ⟨hfalse, hfalse, rfl, ?_⟩⟩
      intro hpos hne last hlast hlate
      apply hheld
      simp only [Option.mem_def] at hlast
      simp [hpos, hne, hlast, hlate]

/-- Supervision never makes a zero target non-zero, nor changes who it comes from. -/
theorem supervise_choice (selection : Selection) :
    (guard.supervise selection now).1.choice = selection.choice ∧
      (guard.supervise selection now).1.smooth = selection.smooth := by
  unfold supervise
  split
  · exact ⟨rfl, rfl⟩
  · dsimp only
    split
    · exact ⟨rfl, rfl⟩
    · split <;> exact ⟨rfl, rfl⟩

theorem supervise_twist_of_zero (h : selection.cmd.twist = {}) :
    (guard.supervise selection now).1.cmd.twist = {} := by
  unfold supervise
  split
  · exact h
  · dsimp only
    split
    · rfl
    · split
      · rfl
      · exact h

end CommandGuard

end EasyNav.CommandSupervision
