import Mathlib.Algebra.Order.Ring.Rat
import Mathlib.Data.List.Induction

/-!
The transform buffer: what tf2 cannot answer because it is ahead of the latest transform is
extrapolated, if it is not too far ahead. tf2's own buffer is an oracle. Times are nanoseconds.
-/

namespace EasyNav.TransformExtrapolation

universe u

abbrev Time := Int

abbrev Duration := Int

inductive Failure where
  | extrapolation (what : String)
  | other (what : String)

structure TransformStamped (Pose : Type u) where
  sec : Int
  nanosec : Int
  frameId : String
  childFrameId : String
  transform : Pose

def TransformStamped.time {Pose : Type u} (msg : TransformStamped Pose) : Time :=
  msg.sec * 1000000000 + msg.nanosec

/-- The frames and times of a lookup through a fixed frame. -/
structure FixedFrameLookup where
  targetFrame : String
  targetTime : Time
  sourceFrame : String
  sourceTime : Time
  fixedFrame : String

/-- What `canTransform` answers, and what it makes of the error message it is given. -/
structure CanAnswer where
  possible : Bool
  message : String → String

/-- What is returned, and left in the error message, if there is one. -/
def CanAnswer.given (answer : CanAnswer) (errorMsg : Option String) : Bool × Option String :=
  (answer.possible, errorMsg.map answer.message)

abbrev Lookup (Pose : Type u) := Except Failure (TransformStamped Pose)

/-- `tf2_ros::Buffer`: plain lookups and those through a fixed frame, without and with a
timeout. -/
structure Buffer (Pose : Type u) where
  lookup : String → String → Time → Lookup Pose
  lookupTimeout : String → String → Time → Duration → Lookup Pose
  lookupFixed : FixedFrameLookup → Lookup Pose
  lookupFixedTimeout : FixedFrameLookup → Duration → Lookup Pose
  can : String → String → Time → CanAnswer
  canTimeout : String → String → Time → Duration → CanAnswer
  canFixed : FixedFrameLookup → CanAnswer
  canFixedTimeout : FixedFrameLookup → Duration → CanAnswer

/-- The arithmetic of poses, in floating point. -/
structure PoseArithmetic (Pose : Type u) where
  mul : Pose → Pose → Pose
  inverseTimes : Pose → Pose → Pose
  se3Power : Pose → ℚ → Pose

/-- The settings, with their defaults of 50 ms. -/
structure Settings where
  maxFutureExtrapolation : Duration := 50000000
  extrapolationWindow : Duration := 50000000
  deriving DecidableEq

inductive SetterCall where
  | setMaxFutureExtrapolation (maxExtrapolation : Duration)
  | setExtrapolationWindow (window : Duration)

def Settings.set (settings : Settings) : SetterCall → Settings
  | .setMaxFutureExtrapolation maxExtrapolation =>
      { settings with maxFutureExtrapolation := max 0 maxExtrapolation }
  | .setExtrapolationWindow window =>
      if 0 < window then { settings with extrapolationWindow := window } else settings

def settingsAfter (calls : List SetterCall) : Settings := calls.foldl Settings.set {}

structure RTTFBuffer (Pose : Type u) where
  base : Buffer Pose
  poses : PoseArithmetic Pose
  settings : Settings

namespace RTTFBuffer

variable {Pose : Type u} (buffer : RTTFBuffer Pose)

def stampSec (time : Time) : Int := Int.bmod (time.tdiv 1000000000) (2 ^ 32)

/-- The answer `ahead` after the latest transform, from the twist since an earlier one. -/
def integrated (last prev : TransformStamped Pose) (ahead : Duration) (time : Time) :
    TransformStamped Pose :=
  let delta := buffer.poses.inverseTimes prev.transform last.transform
  let alpha := (ahead : ℚ) / (buffer.settings.extrapolationWindow : ℚ)
  { last with
    sec := stampSec time
    nanosec := (time - stampSec time * 1000000000) % 2 ^ 32
    transform := buffer.poses.mul last.transform (buffer.poses.se3Power delta alpha) }

def extrapolate (targetFrame sourceFrame : String) (time : Time) :
    Option (TransformStamped Pose) :=
  let maxNs := buffer.settings.maxFutureExtrapolation
  if maxNs ≤ 0 then none
  else
    match buffer.base.lookup targetFrame sourceFrame 0 with
    | .error _ => none
    | .ok last =>
        -- Static chain: never extrapolates.
        if last.time = 0 then none
        else if time - last.time ≤ 0 || maxNs < time - last.time then none
        else
          match buffer.base.lookup targetFrame sourceFrame
            (last.time - buffer.settings.extrapolationWindow) with
          | .error _ => none
          | .ok prev => some (buffer.integrated last prev (time - last.time) time)

/-- One leg of a fixed-frame lookup: tf2 first, extrapolation if it is ahead. -/
def leg (targetFrame sourceFrame : String) (time : Time) : Option (TransformStamped Pose) :=
  match buffer.base.lookup targetFrame sourceFrame time with
  | .ok out => some out
  | .error (.extrapolation _) => buffer.extrapolate targetFrame sourceFrame time
  | .error (.other _) => none

def compose (sourceFrame : String) (targetFixed fixedSource : TransformStamped Pose) :
    TransformStamped Pose :=
  { targetFixed with
    childFrameId := sourceFrame
    transform := buffer.poses.mul targetFixed.transform fixedSource.transform }

def extrapolateFixed (q : FixedFrameLookup) : Option (TransformStamped Pose) :=
  if buffer.settings.maxFutureExtrapolation ≤ 0 then none
  else
    match buffer.leg q.targetFrame q.fixedFrame q.targetTime,
      buffer.leg q.fixedFrame q.sourceFrame q.sourceTime with
    | some targetFixed, some fixedSource =>
        some (buffer.compose q.sourceFrame targetFixed fixedSource)
    | _, _ => none

/-- What tf2 found, or an extrapolation if that is what it failed with. -/
def orExtrapolated (found : Lookup Pose) (extrapolated : Option (TransformStamped Pose)) :
    Lookup Pose :=
  match found, extrapolated with
  | .error (.extrapolation _), some out => .ok out
  | _, _ => found

/-- An extrapolation instead of waiting for what tf2 does not have yet. -/
def insteadOfWaiting (now : CanAnswer) (extrapolated : Option (TransformStamped Pose))
    (waited : Lookup Pose) : Lookup Pose :=
  if now.possible then waited
  else
    match extrapolated with
    | some out => .ok out
    | none => waited

def canOrExtrapolated (answer : CanAnswer) (extrapolated : Option (TransformStamped Pose))
    (errorMsg : Option String) : Bool × Option String :=
  let (possible, errorMsg) := answer.given errorMsg
  if possible then (true, errorMsg)
  else if extrapolated.isSome then (true, errorMsg.map fun _ => "")
  else (false, errorMsg)

def canInsteadOfWaiting (now : CanAnswer) (extrapolated : Option (TransformStamped Pose))
    (waited : CanAnswer) (errorMsg : Option String) : Bool × Option String :=
  if !now.possible && extrapolated.isSome then (true, errorMsg) else waited.given errorMsg

def lookupTransform (targetFrame sourceFrame : String) (time : Time) : Lookup Pose :=
  orExtrapolated (buffer.base.lookup targetFrame sourceFrame time)
    (buffer.extrapolate targetFrame sourceFrame time)

def lookupTransformTimeout (targetFrame sourceFrame : String) (time : Time)
    (timeout : Duration) : Lookup Pose :=
  insteadOfWaiting (buffer.base.can targetFrame sourceFrame time)
    (buffer.extrapolate targetFrame sourceFrame time)
    (buffer.base.lookupTimeout targetFrame sourceFrame time timeout)

def canTransform (targetFrame sourceFrame : String) (time : Time) (errorMsg : Option String) :
    Bool × Option String :=
  canOrExtrapolated (buffer.base.can targetFrame sourceFrame time)
    (buffer.extrapolate targetFrame sourceFrame time) errorMsg

def canTransformTimeout (targetFrame sourceFrame : String) (time : Time) (timeout : Duration)
    (errstr : Option String) : Bool × Option String :=
  canInsteadOfWaiting (buffer.base.can targetFrame sourceFrame time)
    (buffer.extrapolate targetFrame sourceFrame time)
    (buffer.base.canTimeout targetFrame sourceFrame time timeout) errstr

def lookupTransformFixed (q : FixedFrameLookup) : Lookup Pose :=
  orExtrapolated (buffer.base.lookupFixed q) (buffer.extrapolateFixed q)

def lookupTransformFixedTimeout (q : FixedFrameLookup) (timeout : Duration) : Lookup Pose :=
  insteadOfWaiting (buffer.base.canFixed q) (buffer.extrapolateFixed q)
    (buffer.base.lookupFixedTimeout q timeout)

def canTransformFixed (q : FixedFrameLookup) (errorMsg : Option String) : Bool × Option String :=
  canOrExtrapolated (buffer.base.canFixed q) (buffer.extrapolateFixed q) errorMsg

def canTransformFixedTimeout (q : FixedFrameLookup) (timeout : Duration)
    (errstr : Option String) : Bool × Option String :=
  canInsteadOfWaiting (buffer.base.canFixed q) (buffer.extrapolateFixed q)
    (buffer.base.canFixedTimeout q timeout) errstr

end RTTFBuffer

section Oracle

variable {Pose : Type u}

def Found (found : Lookup Pose) : Prop := ∃ out, found = .ok out

def FailsOtherwise (found : Lookup Pose) : Prop := ∃ what, found = .error (.other what)

/-- tf2 can transform exactly what it can look up, and what fails for another reason than an
extrapolation also fails at the latest time and in a leg. -/
structure Buffer.Consistent (base : Buffer Pose) : Prop where
  can : ∀ target source time,
    (base.can target source time).possible = true ↔ Found (base.lookup target source time)
  canTimeout : ∀ target source time timeout,
    (base.canTimeout target source time timeout).possible = true ↔
      Found (base.lookupTimeout target source time timeout)
  canFixed : ∀ q, (base.canFixed q).possible = true ↔ Found (base.lookupFixed q)
  canFixedTimeout : ∀ q timeout,
    (base.canFixedTimeout q timeout).possible = true ↔ Found (base.lookupFixedTimeout q timeout)
  latest : ∀ target source time, FailsOtherwise (base.lookup target source time) →
    ¬ Found (base.lookup target source 0)
  legs : ∀ q, FailsOtherwise (base.lookupFixed q) →
    FailsOtherwise (base.lookup q.targetFrame q.fixedFrame q.targetTime) ∨
      FailsOtherwise (base.lookup q.fixedFrame q.sourceFrame q.sourceTime)

end Oracle

namespace RTTFBuffer

variable {Pose : Type u}

/-- Each `canTransform` answers true exactly when the matching lookup returns. -/
structure Agrees (buffer : RTTFBuffer Pose) : Prop where
  plain : ∀ target source time errorMsg,
    (buffer.canTransform target source time errorMsg).1 = true ↔
      Found (buffer.lookupTransform target source time)
  timeout : ∀ target source time timeout errorMsg,
    (buffer.canTransformTimeout target source time timeout errorMsg).1 = true ↔
      Found (buffer.lookupTransformTimeout target source time timeout)
  fixed : ∀ q errorMsg,
    (buffer.canTransformFixed q errorMsg).1 = true ↔ Found (buffer.lookupTransformFixed q)
  fixedTimeout : ∀ q timeout errorMsg,
    (buffer.canTransformFixedTimeout q timeout errorMsg).1 = true ↔
      Found (buffer.lookupTransformFixedTimeout q timeout)

/-- A time that is at most the maximum ahead of the latest transform, which is not static. -/
def Ahead (buffer : RTTFBuffer Pose) (target source : String) (time : Time) : Prop :=
  ∃ last, buffer.base.lookup target source 0 = .ok last ∧ last.time ≠ 0 ∧
    0 < time - last.time ∧ time - last.time ≤ buffer.settings.maxFutureExtrapolation

structure Extrapolated (buffer : RTTFBuffer Pose) (target source : String) (time : Time)
    (out : TransformStamped Pose) : Prop where
  answered : buffer.extrapolate target source time = some out
  ahead : buffer.Ahead target source time

def IsLeg (buffer : RTTFBuffer Pose) (target source : String) (time : Time)
    (out : TransformStamped Pose) : Prop :=
  buffer.base.lookup target source time = .ok out ∨ buffer.Extrapolated target source time out

def Composed (buffer : RTTFBuffer Pose) (q : FixedFrameLookup) (out : TransformStamped Pose) :
    Prop :=
  ∃ targetFixed fixedSource, buffer.IsLeg q.targetFrame q.fixedFrame q.targetTime targetFixed ∧
    buffer.IsLeg q.fixedFrame q.sourceFrame q.sourceTime fixedSource ∧
    out = buffer.compose q.sourceFrame targetFixed fixedSource

/-- What is not tf2's own answer is extrapolated where it may be. -/
structure ExtrapolatesAhead (buffer : RTTFBuffer Pose) : Prop where
  plain : ∀ target source time out, buffer.lookupTransform target source time = .ok out →
    buffer.base.lookup target source time = .ok out ∨ buffer.Extrapolated target source time out
  timeout : ∀ target source time timeout out,
    buffer.lookupTransformTimeout target source time timeout = .ok out →
      buffer.base.lookupTimeout target source time timeout = .ok out ∨
        buffer.Extrapolated target source time out
  fixed : ∀ q out, buffer.lookupTransformFixed q = .ok out →
    buffer.base.lookupFixed q = .ok out ∨ buffer.Composed q out
  fixedTimeout : ∀ q timeout out, buffer.lookupTransformFixedTimeout q timeout = .ok out →
    buffer.base.lookupFixedTimeout q timeout = .ok out ∨ buffer.Composed q out

structure AnswersAsBase (buffer : RTTFBuffer Pose) : Prop where
  lookup : buffer.lookupTransform = buffer.base.lookup
  lookupTimeout : buffer.lookupTransformTimeout = buffer.base.lookupTimeout
  lookupFixed : buffer.lookupTransformFixed = buffer.base.lookupFixed
  lookupFixedTimeout : buffer.lookupTransformFixedTimeout = buffer.base.lookupFixedTimeout
  can : ∀ target source time errorMsg, buffer.canTransform target source time errorMsg =
    (buffer.base.can target source time).given errorMsg
  canTimeout : ∀ target source time timeout errorMsg,
    buffer.canTransformTimeout target source time timeout errorMsg =
      (buffer.base.canTimeout target source time timeout).given errorMsg
  canFixed : ∀ q errorMsg, buffer.canTransformFixed q errorMsg =
    (buffer.base.canFixed q).given errorMsg
  canFixedTimeout : ∀ q timeout errorMsg, buffer.canTransformFixedTimeout q timeout errorMsg =
    (buffer.base.canFixedTimeout q timeout).given errorMsg

end RTTFBuffer

section Answers

open RTTFBuffer

variable {Pose : Type u} {found waited : Lookup Pose} {answer now later : CanAnswer}
  {extrapolated : Option (TransformStamped Pose)} {out : TransformStamped Pose}

/-- Both kinds of overload agree if the answers of tf2 do. A failure for another reason is not
extrapolated. -/
theorem canOrExtrapolated_iff (hanswer : answer.possible = true ↔ Found found)
    (hother : FailsOtherwise found → extrapolated = none) (errorMsg : Option String) :
    (canOrExtrapolated answer extrapolated errorMsg).1 = true ↔
      Found (orExtrapolated found extrapolated) := by
  rw [canOrExtrapolated, CanAnswer.given]
  dsimp only
  match found, hanswer, hother with
  | .ok out, hanswer, _ =>
      rw [if_pos (hanswer.mpr ⟨out, rfl⟩)]
      exact iff_of_true rfl ⟨out, rfl⟩
  | .error (.other what), hanswer, hother =>
      have hpossible : ¬ answer.possible = true := by
        rw [hanswer]
        rintro ⟨out, hout⟩
        cases hout
      rw [if_neg hpossible, hother ⟨what, rfl⟩]
      refine iff_of_false Bool.false_ne_true ?_
      rintro ⟨out, hout⟩
      cases hout
  | .error (.extrapolation what), hanswer, _ =>
      have hpossible : ¬ answer.possible = true := by
        rw [hanswer]
        rintro ⟨out, hout⟩
        cases hout
      rw [if_neg hpossible]
      cases extrapolated with
      | none =>
          refine iff_of_false Bool.false_ne_true ?_
          rintro ⟨out, hout⟩
          cases hout
      | some out => exact iff_of_true rfl ⟨out, rfl⟩

theorem canInsteadOfWaiting_iff (hlater : later.possible = true ↔ Found waited)
    (errorMsg : Option String) :
    (canInsteadOfWaiting now extrapolated later errorMsg).1 = true ↔
      Found (insteadOfWaiting now extrapolated waited) := by
  cases extrapolated with
  | none =>
      rw [canInsteadOfWaiting, insteadOfWaiting, Option.isSome_none, Bool.and_false]
      cases now.possible with
      | true => exact hlater
      | false => exact hlater
  | some out =>
      rw [canInsteadOfWaiting, insteadOfWaiting]
      cases now.possible with
      | true => exact hlater
      | false => exact iff_of_true rfl ⟨out, rfl⟩

theorem orExtrapolated_cases (h : orExtrapolated found extrapolated = .ok out) :
    found = .ok out ∨ extrapolated = some out := by
  match found, extrapolated, h with
  | .ok _, _, h => exact Or.inl h
  | .error (.extrapolation _), some _, h => exact Or.inr (congrArg some (Except.ok.inj h))

theorem insteadOfWaiting_cases (h : insteadOfWaiting now extrapolated waited = .ok out) :
    waited = .ok out ∨ extrapolated = some out := by
  cases extrapolated with
  | none =>
      rw [insteadOfWaiting] at h
      split at h
      · exact Or.inl h
      · exact Or.inl h
  | some extrapolated =>
      rw [insteadOfWaiting] at h
      split at h
      · exact Or.inl h
      · exact Or.inr (congrArg some (Except.ok.inj h))

theorem orExtrapolated_none : orExtrapolated found none = found := by
  cases found with
  | ok out => rfl
  | error failure =>
      cases failure with
      | extrapolation what => rfl
      | other what => rfl

theorem insteadOfWaiting_none : insteadOfWaiting now none waited = waited := by
  rw [insteadOfWaiting]
  cases now.possible with
  | true => rfl
  | false => rfl

theorem canOrExtrapolated_none (errorMsg : Option String) :
    canOrExtrapolated answer (none : Option (TransformStamped Pose)) errorMsg =
      answer.given errorMsg := by
  rw [canOrExtrapolated, CanAnswer.given]
  cases answer.possible with
  | true => rfl
  | false => rfl

theorem canInsteadOfWaiting_none (errorMsg : Option String) :
    canInsteadOfWaiting now (none : Option (TransformStamped Pose)) later errorMsg =
      later.given errorMsg := by
  rw [canInsteadOfWaiting, if_neg]
  rw [Option.isSome_none, Bool.and_false]
  exact Bool.false_ne_true

end Answers

namespace RTTFBuffer

variable {Pose : Type u} {buffer : RTTFBuffer Pose}

theorem extrapolate_eq_some {target source : String} {time : Time} {out : TransformStamped Pose}
    (h : buffer.extrapolate target source time = some out) :
    buffer.Extrapolated target source time out := by
  refine ⟨h, ?_⟩
  rw [extrapolate] at h
  split at h
  · cases h
  · split at h
    · cases h
    · rename_i last hlast
      split at h
      · cases h
      · rename_i hstatic
        split at h
        · cases h
        · rename_i hahead
          rw [Bool.or_eq_true, decide_eq_true_eq, decide_eq_true_eq, not_or] at hahead
          exact ⟨last, hlast, hstatic, Int.not_le.mp hahead.1, Int.not_lt.mp hahead.2⟩

theorem extrapolate_of_not_found {target source : String} (time : Time)
    (h : ¬ Found (buffer.base.lookup target source 0)) :
    buffer.extrapolate target source time = none := by
  rw [extrapolate]
  split
  · rfl
  · split
    · rfl
    · rename_i last hlast
      exact absurd ⟨last, hlast⟩ h

theorem leg_eq_some {target source : String} {time : Time} {out : TransformStamped Pose}
    (h : buffer.leg target source time = some out) : buffer.IsLeg target source time out := by
  rw [leg] at h
  split at h
  · rename_i found hfound
    exact Or.inl (hfound.trans (congrArg Except.ok (Option.some.inj h)))
  · exact Or.inr (extrapolate_eq_some h)
  · cases h

theorem leg_of_fails {target source : String} {time : Time}
    (h : FailsOtherwise (buffer.base.lookup target source time)) :
    buffer.leg target source time = none := by
  obtain ⟨what, hwhat⟩ := h
  rw [leg, hwhat]

theorem extrapolateFixed_eq_some {q : FixedFrameLookup} {out : TransformStamped Pose}
    (h : buffer.extrapolateFixed q = some out) : buffer.Composed q out := by
  rw [extrapolateFixed] at h
  split at h
  · cases h
  · split at h
    · rename_i targetFixed fixedSource htarget hsource
      exact ⟨targetFixed, fixedSource, leg_eq_some htarget, leg_eq_some hsource,
        (Option.some.inj h).symm⟩
    · cases h

theorem extrapolateFixed_of_fails (hbase : buffer.base.Consistent) {q : FixedFrameLookup}
    (h : FailsOtherwise (buffer.base.lookupFixed q)) : buffer.extrapolateFixed q = none := by
  rw [extrapolateFixed]
  split
  · rfl
  · rcases hbase.legs q h with hleg | hleg
    · rw [leg_of_fails hleg]
    · rw [leg_of_fails hleg]
      split
      · rename_i hnone
        cases hnone
      · rfl

theorem agrees (hbase : buffer.base.Consistent) : buffer.Agrees where
  plain target source time errorMsg :=
    canOrExtrapolated_iff (hbase.can target source time)
      (fun hother => extrapolate_of_not_found time (hbase.latest target source time hother))
      errorMsg
  timeout target source time timeout errorMsg :=
    canInsteadOfWaiting_iff (hbase.canTimeout target source time timeout) errorMsg
  fixed q errorMsg :=
    canOrExtrapolated_iff (hbase.canFixed q) (extrapolateFixed_of_fails hbase) errorMsg
  fixedTimeout q timeout errorMsg :=
    canInsteadOfWaiting_iff (hbase.canFixedTimeout q timeout) errorMsg

theorem extrapolatesAhead (buffer : RTTFBuffer Pose) : buffer.ExtrapolatesAhead where
  plain _ _ _ _ h := (orExtrapolated_cases h).imp id extrapolate_eq_some
  timeout _ _ _ _ _ h := (insteadOfWaiting_cases h).imp id extrapolate_eq_some
  fixed _ _ h := (orExtrapolated_cases h).imp id extrapolateFixed_eq_some
  fixedTimeout _ _ _ h := (insteadOfWaiting_cases h).imp id extrapolateFixed_eq_some

theorem answersAsBase (h : buffer.settings.maxFutureExtrapolation ≤ 0) :
    buffer.AnswersAsBase := by
  have hplain : ∀ target source time, buffer.extrapolate target source time = none :=
    fun _ _ _ => if_pos h
  have hfixed : ∀ q, buffer.extrapolateFixed q = none := fun _ => if_pos h
  refine ⟨?_, ?_, ?_, ?_, ?_, ?_, ?_, ?_⟩
  · funext target source time
    rw [lookupTransform, hplain, orExtrapolated_none]
  · funext target source time timeout
    rw [lookupTransformTimeout, hplain, insteadOfWaiting_none]
  · funext q
    rw [lookupTransformFixed, hfixed, orExtrapolated_none]
  · funext q timeout
    rw [lookupTransformFixedTimeout, hfixed, insteadOfWaiting_none]
  · intro target source time errorMsg
    rw [canTransform, hplain, canOrExtrapolated_none]
  · intro target source time timeout errorMsg
    rw [canTransformTimeout, hplain, canInsteadOfWaiting_none]
  · intro q errorMsg
    rw [canTransformFixed, hfixed, canOrExtrapolated_none]
  · intro q timeout errorMsg
    rw [canTransformFixedTimeout, hfixed, canInsteadOfWaiting_none]

end RTTFBuffer

section Setters

theorem settingsAfter_append (calls : List SetterCall) (call : SetterCall) :
    settingsAfter (calls ++ [call]) = (settingsAfter calls).set call := by
  rw [settingsAfter, List.foldl_append]
  rfl

theorem window_pos (calls : List SetterCall) : 0 < (settingsAfter calls).extrapolationWindow := by
  induction calls using List.reverseRecOn with
  | nil => decide
  | append_singleton calls call ih =>
      rw [settingsAfter_append]
      cases call with
      | setMaxFutureExtrapolation maxExtrapolation => exact ih
      | setExtrapolationWindow window =>
          rw [Settings.set]
          split
          · rename_i hpos
            exact hpos
          · exact ih

/-- Once it is disabled, extrapolation stays so whatever the window is set to. -/
theorem disabled_of_nonpos (calls : List SetterCall) {maxExtrapolation : Duration}
    (h : maxExtrapolation ≤ 0) (windows : List Duration) :
    (settingsAfter (calls ++ .setMaxFutureExtrapolation maxExtrapolation ::
      windows.map .setExtrapolationWindow)).maxFutureExtrapolation = 0 := by
  induction windows using List.reverseRecOn with
  | nil =>
      rw [List.map_nil, settingsAfter_append]
      exact Int.max_eq_left h
  | append_singleton windows window ih =>
      rw [List.map_append, ← List.cons_append, ← List.append_assoc, List.map_singleton,
        settingsAfter_append, Settings.set]
      split
      · exact ih
      · exact ih

end Setters

/-- With tf2's buffer as an oracle and any settings, `canTransform` answers true exactly when
the matching lookup returns, what is not tf2's own answer is extrapolated in allowed legs only,
a maximum of zero or less leaves all answers to tf2, and the window is not zero. -/
theorem answers_consistently {Pose : Type u} (base : Buffer Pose) (poses : PoseArithmetic Pose)
    (hbase : base.Consistent) (calls : List SetterCall) :
    (RTTFBuffer.mk base poses (settingsAfter calls)).Agrees ∧
      (RTTFBuffer.mk base poses (settingsAfter calls)).ExtrapolatesAhead ∧
      ((settingsAfter calls).maxFutureExtrapolation ≤ 0 →
        (RTTFBuffer.mk base poses (settingsAfter calls)).AnswersAsBase) ∧
      (∀ (maxExtrapolation : Duration) (windows : List Duration), maxExtrapolation ≤ 0 →
        (RTTFBuffer.mk base poses (settingsAfter (calls ++
          .setMaxFutureExtrapolation maxExtrapolation ::
            windows.map .setExtrapolationWindow))).AnswersAsBase) ∧
      (settingsAfter calls).extrapolationWindow ≠ 0 := by
  refine ⟨RTTFBuffer.agrees hbase, RTTFBuffer.extrapolatesAhead _,
    fun hmax => RTTFBuffer.answersAsBase hmax, fun maxExtrapolation windows hmax => ?_, ?_⟩
  · exact RTTFBuffer.answersAsBase (Int.le_of_eq (disabled_of_nonpos calls hmax windows))
  · exact Int.ne_of_gt (window_pos calls)

/-- A robot that drives at 1 m/s, known from 0.9 s to 1 s. Only its own frame is known. -/
def drivenLookup (target source : String) (time : Time) : Lookup ℚ :=
  if target ≠ "odom" ∨ source ≠ "base" then .error (.other "unknown frame")
  else if time = 0 then .ok ⟨1, 0, "odom", "base", 1⟩
  else if 900000000 ≤ time ∧ time ≤ 1000000000 then
    .ok ⟨0, time, "odom", "base", (time : ℚ) / 1000000000⟩
  else .error (.extrapolation "lookup would require extrapolation")

def canAnswer {Pose : Type u} : Lookup Pose → CanAnswer
  | .ok _ => ⟨true, id⟩
  | .error (.extrapolation what) | .error (.other what) => ⟨false, fun _ => what⟩

theorem canAnswer_possible {Pose : Type u} (found : Lookup Pose) :
    (canAnswer found).possible = true ↔ Found found := by
  match found with
  | .ok out => exact iff_of_true rfl ⟨out, rfl⟩
  | .error (.extrapolation _) => exact iff_of_false Bool.false_ne_true (by rintro ⟨_, h⟩; cases h)
  | .error (.other _) => exact iff_of_false Bool.false_ne_true (by rintro ⟨_, h⟩; cases h)

/-- The legs of a lookup through a fixed frame, one after the other. -/
def drivenFixed (q : FixedFrameLookup) : Lookup ℚ :=
  match drivenLookup q.targetFrame q.fixedFrame q.targetTime with
  | .error failure => .error failure
  | .ok targetFixed =>
      match drivenLookup q.fixedFrame q.sourceFrame q.sourceTime with
      | .error failure => .error failure
      | .ok fixedSource =>
          .ok { targetFixed with
            childFrameId := q.sourceFrame
            transform := targetFixed.transform + fixedSource.transform }

def drivenBase : Buffer ℚ where
  lookup := drivenLookup
  lookupTimeout target source time _ := drivenLookup target source time
  lookupFixed := drivenFixed
  lookupFixedTimeout q _ := drivenFixed q
  can target source time := canAnswer (drivenLookup target source time)
  canTimeout target source time _ := canAnswer (drivenLookup target source time)
  canFixed q := canAnswer (drivenFixed q)
  canFixedTimeout q _ := canAnswer (drivenFixed q)

theorem drivenLookup_fails {target source : String} {time : Time}
    (h : FailsOtherwise (drivenLookup target source time)) :
    target ≠ "odom" ∨ source ≠ "base" := by
  obtain ⟨what, h⟩ := h
  rw [drivenLookup] at h
  split at h
  · assumption
  · split at h
    · cases h
    · split at h
      · cases h
      · cases h

theorem drivenBase_consistent : drivenBase.Consistent where
  can _ _ _ := canAnswer_possible _
  canTimeout _ _ _ _ := canAnswer_possible _
  canFixed _ := canAnswer_possible _
  canFixedTimeout _ _ := canAnswer_possible _
  latest target source time h := by
    rintro ⟨out, hout⟩
    change drivenLookup target source 0 = .ok out at hout
    rw [drivenLookup, if_pos (drivenLookup_fails h)] at hout
    cases hout
  legs q h := by
    obtain ⟨what, h⟩ := h
    change drivenFixed q = _ at h
    rw [drivenFixed] at h
    split at h
    · rename_i failure htarget
      refine Or.inl ⟨what, htarget.trans (congrArg Except.error ?_)⟩
      exact Except.error.inj h
    · split at h
      · rename_i failure hsource
        refine Or.inr ⟨what, hsource.trans (congrArg Except.error ?_)⟩
        exact Except.error.inj h
      · cases h

def linePoses : PoseArithmetic ℚ where
  mul a b := a + b
  inverseTimes a b := b - a
  se3Power delta alpha := delta * alpha

theorem answers_consistently_driven :
    let buffer := RTTFBuffer.mk drivenBase linePoses
      (settingsAfter [.setMaxFutureExtrapolation 40000000, .setExtrapolationWindow 0])
    (buffer.extrapolate "odom" "base" 1030000000).map (·.transform) = some (103 / 100) ∧
      buffer.extrapolate "odom" "base" 1050000000 = none ∧
      Found (buffer.lookupTransform "odom" "base" 1030000000) ∧
      (RTTFBuffer.mk drivenBase linePoses
        (settingsAfter [.setMaxFutureExtrapolation (-1)])).AnswersAsBase := by
  obtain ⟨hagrees, -⟩ := answers_consistently drivenBase linePoses drivenBase_consistent
    [.setMaxFutureExtrapolation 40000000, .setExtrapolationWindow 0]
  obtain ⟨-, -, -, hdisabled, -⟩ := answers_consistently drivenBase linePoses
    drivenBase_consistent []
  refine ⟨by decide +kernel, rfl, ?_, hdisabled (-1) [] (by decide)⟩
  exact (hagrees.plain "odom" "base" 1030000000 none).mp (by decide +kernel)

end EasyNav.TransformExtrapolation
