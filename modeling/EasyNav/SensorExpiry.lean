import EasyNav.PointPerceptions
import EasyNav.Runs

/-!
The age of sensor data. Message callbacks and RT cycles run in one thread, one after the
other, and a `fuse` in any thread. It goes through the perceptions of its view one at a
time, each under its lock, and starts by integrating what is pending of each.
-/

namespace EasyNav.SensorExpiry

open EasyNav.DoubleArithmetic
open EasyNav.PointPerceptions
open EasyNav.Runs

universe u

inductive DataState where
  | fresh
  | noData
  | stale
  deriving DecidableEq

structure SensorsNode (C : Type u) where
  handlers : List (PointPerception C)
  forgetTime : Double
  clockType : ClockType := .ros
  dataStates : List DataState
  dataAgeReported : Bool := false

variable {C : Type u}

/-- The perception's data is older than `forget_time`. -/
def expired (forgetTime : Double) (now : Stamp) (p : PointPerception C) : Bool :=
  decide (p.stamp.clockType = now.clockType) &&
    decide (forgetTime < seconds (now.nanoseconds - p.stamp.nanoseconds))

def checkPerception (forgetTime : Double) (now : Stamp) (p : PointPerception C) :
    PointPerception C × DataState :=
  if p.stamp.nanoseconds = 0 ∧ p.valid = false then (p, .noData)
  else if expired forgetTime now p then ({ p with valid := false }, .stale)
  else if p.valid = false then (p, .stale)
  else (p, .fresh)

/-- The perception is found too old. -/
def TooOld (forgetTime : Double) (now : Stamp) (p : PointPerception C) : Prop :=
  ¬ (p.stamp.nanoseconds = 0 ∧ p.valid = false) ∧ expired forgetTime now p = true

namespace SensorsNode

def configure (sensors : Nat) (empty : C) (forgetTime : Double) (clockType : ClockType) :
    SensorsNode C where
  handlers := List.replicate sensors (PointPerception.create empty)
  forgetTime := forgetTime
  clockType := clockType
  dataStates := List.replicate sensors .noData

def modify (node : SensorsNode C) (sensor : Nat)
    (change : PointPerception C → PointPerception C) : SensorsNode C :=
  { node with handlers := node.handlers.modify sensor change }

/-- The first half of `cycle_rt`: whether there was new data. -/
def cycleHandlers (node : SensorsNode C) : SensorsNode C × Bool :=
  ({ node with handlers := node.handlers.map fun p => p.cycleRt.1 },
    node.handlers.any fun p => p.cycleRt.2)

/-- The second half of `cycle_rt`: whether the ages changed, which is then reported. -/
def checkDataAge (node : SensorsNode C) (now : Stamp) : SensorsNode C × Bool :=
  if node.dataStates.length ≠ node.handlers.length then (node, false)
  else
    let checked := node.handlers.map (checkPerception node.forgetTime now)
    let changed := !node.dataAgeReported || decide (checked.map Prod.snd ≠ node.dataStates)
    ({ node with
      handlers := checked.map Prod.fst
      dataStates := checked.map Prod.snd
      dataAgeReported := node.dataAgeReported || changed }, changed)

end SensorsNode

inductive RtPhase where
  | idle
  | receiving (sensor : Nat)
  | cycling
  deriving DecidableEq

structure Sensing (C : Type u) where
  phase : RtPhase
  node : SensorsNode C

inductive Event (C : Type u) where
  | setPendingCloud (sensor : Nat) (cloud : C) (frame : String) (stamp : Time)
  | integrate (canTransform : String → Stamp → Bool)
  | cycleHandlers
  | checkDataAge (now : Stamp)
  | fuse (sensor : Nat) (canTransform : String → Stamp → Bool)

def step (s : Sensing C) : Event C → Sensing C
  | .setPendingCloud sensor cloud frame stamp =>
      match s.phase with
      | .idle =>
          { phase := .receiving sensor
            node := s.node.modify sensor fun p =>
              p.setPendingCloud cloud frame ⟨stamp, s.node.clockType⟩ }
      | _ => s
  | .integrate canTransform =>
      match s.phase with
      | .receiving sensor =>
          { phase := .idle
            node := s.node.modify sensor fun p => p.integratePendingPerceptions canTransform }
      | _ => s
  | .cycleHandlers =>
      match s.phase with
      | .idle => { phase := .cycling, node := s.node.cycleHandlers.1 }
      | _ => s
  | .checkDataAge now =>
      match s.phase with
      | .cycling => { phase := .idle, node := (s.node.checkDataAge now).1 }
      | _ => s
  | .fuse sensor canTransform =>
      { s with
        node := s.node.modify sensor fun p => p.integratePendingPerceptions canTransform }

def IsInitial (s : Sensing C) : Prop :=
  ∃ sensors empty forgetTime clockType,
    s = { phase := .idle, node := SensorsNode.configure sensors empty forgetTime clockType }

/-- The perception was found too old, and no message of its sensor was received since. -/
def AgedOut (i : Nat) : List (Sensing C × Event C) → Prop
  | [] => False
  | (s, .setPendingCloud sensor _ _ _) :: past =>
      ¬ (s.phase = .idle ∧ sensor = i) ∧ AgedOut i past
  | (s, .checkDataAge now) :: past =>
      (s.phase = .cycling ∧ ∃ p, s.node.handlers[i]? = some p ∧
        TooOld s.node.forgetTime now p) ∨ AgedOut i past
  | _ :: past => AgedOut i past

/-- No fuse takes up again what an invalid perception keeps, and what is found too old is
not new. -/
def LeavesOldData (s : Sensing C) : Event C → Prop
  | .fuse sensor _ =>
      ∀ p, s.node.handlers[sensor]? = some p → p.valid = false → p.pending = none →
        p.buffer.size = 0
  | .checkDataAge now =>
      s.phase = .cycling → ∀ p ∈ s.node.handlers, TooOld s.node.forgetTime now p →
        p.newData = false
  | _ => True

section Check

variable {forgetTime : Double} {now : Stamp} {p : PointPerception C}

theorem checkPerception_of_tooOld (h : TooOld forgetTime now p) :
    (checkPerception forgetTime now p).1 = { p with valid := false } := by
  unfold checkPerception
  rw [if_neg h.1, if_pos h.2]

theorem checkPerception_cases :
    (checkPerception forgetTime now p).1 = p ∨
      (TooOld forgetTime now p ∧
        (checkPerception forgetTime now p).1 = { p with valid := false }) := by
  by_cases h : TooOld forgetTime now p
  · exact Or.inr ⟨h, checkPerception_of_tooOld h⟩
  · left
    unfold checkPerception
    split
    · rfl
    · rename_i hdata
      rw [if_neg fun hexpired => h ⟨hdata, hexpired⟩]
      split
      · rfl
      · rfl

theorem checkPerception_pending :
    (checkPerception forgetTime now p).1.pending = p.pending := by
  rcases checkPerception_cases with heq | ⟨-, heq⟩
  · rw [heq]
  · rw [heq]

end Check

section Steps

variable {s : Sensing C} {past : List (Sensing C × Event C)} {i : Nat} {p : PointPerception C}

theorem of_getElem?_modify {sensor : Nat} {change : PointPerception C → PointPerception C}
    (h : (s.node.modify sensor change).handlers[i]? = some p) :
    ∃ q, s.node.handlers[i]? = some q ∧ p = if sensor = i then change q else q := by
  unfold SensorsNode.modify at h
  rw [List.getElem?_modify, Option.map_eq_map, Option.map_eq_some_iff] at h
  obtain ⟨q, hq, rfl⟩ := h
  exact ⟨q, hq, rfl⟩

structure Aging (past : List (Sensing C × Event C)) (s : Sensing C) : Prop where
  lengths : s.node.dataStates.length = s.node.handlers.length
  pending : ∀ (i : Nat) p, s.node.handlers[i]? = some p → p.pending ≠ none → s.phase = .receiving i
  receiving : ∀ i, s.phase = .receiving i → ¬ AgedOut i past
  agedOut : ∀ (i : Nat) p, s.node.handlers[i]? = some p → AgedOut i past →
    p.valid = false ∧ p.newData = false

theorem initial_aging (h : IsInitial s) : Aging [] s := by
  obtain ⟨sensors, empty, forgetTime, clockType, rfl⟩ := h
  have hfresh : ∀ (i : Nat) p,
      (SensorsNode.configure sensors empty forgetTime clockType).handlers[i]? = some p →
        p = PointPerception.create empty := by
    intro i p hp
    exact List.eq_of_mem_replicate (List.mem_of_getElem? hp)
  constructor
  · unfold SensorsNode.configure
    rw [List.length_replicate, List.length_replicate]
  · intro i p hp hpending
    rw [hfresh i p hp] at hpending
    exact absurd rfl hpending
  · intro i hphase
    contradiction
  · intro i p hp haged
    exact haged.elim

theorem Aging.of_agedOut {past' : List (Sensing C × Event C)} (h : Aging past s)
    (himp : ∀ i, AgedOut i past' → AgedOut i past) : Aging past' s where
  lengths := h.lengths
  pending := h.pending
  receiving i hphase haged := h.receiving i hphase (himp i haged)
  agedOut i p hp haged := h.agedOut i p hp (himp i haged)

theorem length_modify {sensor : Nat} {change : PointPerception C → PointPerception C} :
    (s.node.modify sensor change).handlers.length = s.node.handlers.length :=
  List.length_modify _ _ _

theorem setPendingCloud_aging (h : Aging past s) (sensor : Nat) (cloud : C) (frame : String)
    (stamp : Time) :
    Aging ((s, .setPendingCloud sensor cloud frame stamp) :: past)
      (step s (.setPendingCloud sensor cloud frame stamp)) := by
  unfold step
  dsimp only
  split
  · rename_i hidle
    constructor
    · exact h.lengths.trans length_modify.symm
    · intro i p hp hpending
      obtain ⟨q, hq, rfl⟩ := of_getElem?_modify hp
      split at hpending
      · rename_i hsensor
        rw [hsensor]
      · have hphase := h.pending i q hq hpending
        rw [hidle] at hphase
        contradiction
    · rintro i hphase ⟨hother, -⟩
      exact hother ⟨hidle, RtPhase.receiving.inj hphase⟩
    · rintro i p hp ⟨hother, haged⟩
      obtain ⟨q, hq, rfl⟩ := of_getElem?_modify hp
      rw [if_neg fun hsensor => hother ⟨hidle, hsensor⟩]
      exact h.agedOut i q hq haged
  · exact h.of_agedOut fun i haged => haged.2

theorem integrate_aging (h : Aging past s) (canTransform : String → Stamp → Bool) :
    Aging ((s, .integrate canTransform) :: past) (step s (.integrate canTransform)) := by
  unfold step
  dsimp only
  split
  · rename_i sensor hreceiving
    constructor
    · exact h.lengths.trans length_modify.symm
    · intro i p hp hpending
      obtain ⟨q, hq, rfl⟩ := of_getElem?_modify hp
      split at hpending
      · exact absurd (q.integratePendingPerceptions_pending canTransform) hpending
      · rename_i hsensor
        have hphase := h.pending i q hq hpending
        rw [hreceiving] at hphase
        exact absurd (RtPhase.receiving.inj hphase) hsensor
    · intro i hphase
      contradiction
    · intro i p hp haged
      obtain ⟨q, hq, rfl⟩ := of_getElem?_modify hp
      split
      · rename_i hsensor
        exact absurd haged (h.receiving i (hsensor ▸ hreceiving))
      · exact h.agedOut i q hq haged
  · exact h.of_agedOut fun i haged => haged

theorem cycleHandlers_aging (h : Aging past s) :
    Aging ((s, .cycleHandlers) :: past) (step s .cycleHandlers) := by
  unfold step
  dsimp only
  split
  · rename_i hidle
    have hcycled : ∀ (i : Nat) p, s.node.cycleHandlers.1.handlers[i]? = some p →
        ∃ q, s.node.handlers[i]? = some q ∧ p = q.cycleRt.1 := by
      intro i p hp
      unfold SensorsNode.cycleHandlers at hp
      rw [List.getElem?_map, Option.map_eq_some_iff] at hp
      obtain ⟨q, hq, rfl⟩ := hp
      exact ⟨q, hq, rfl⟩
    constructor
    · exact h.lengths.trans (List.length_map _).symm
    · intro i p hp hpending
      obtain ⟨q, hq, rfl⟩ := hcycled i p hp
      have hphase := h.pending i q hq hpending
      rw [hidle] at hphase
      contradiction
    · intro i hphase
      contradiction
    · intro i p hp haged
      obtain ⟨q, hq, rfl⟩ := hcycled i p hp
      exact ⟨(h.agedOut i q hq haged).1, rfl⟩
  · exact h.of_agedOut fun i haged => haged

theorem checkDataAge_handler {node : SensorsNode C}
    (hlengths : node.dataStates.length = node.handlers.length)
    (now : Stamp) (i : Nat) :
    (node.checkDataAge now).1.handlers[i]? =
      (node.handlers[i]?).map fun q => (checkPerception node.forgetTime now q).1 := by
  unfold SensorsNode.checkDataAge
  rw [if_neg (not_not.mpr hlengths)]
  dsimp only
  rw [List.map_map, List.getElem?_map]
  rfl

theorem checkDataAge_lengths {node : SensorsNode C}
    (hlengths : node.dataStates.length = node.handlers.length)
    (now : Stamp) : (node.checkDataAge now).1.dataStates.length =
      (node.checkDataAge now).1.handlers.length := by
  unfold SensorsNode.checkDataAge
  rw [if_neg (not_not.mpr hlengths)]
  dsimp only
  rw [List.length_map, List.length_map, List.length_map, List.length_map]

theorem checkDataAge_aging (h : Aging past s) (now : Stamp)
    (hnew : LeavesOldData s (.checkDataAge now)) :
    Aging ((s, .checkDataAge now) :: past) (step s (.checkDataAge now)) := by
  unfold step
  dsimp only
  split
  · rename_i hcycling
    have hfrom : ∀ (i : Nat) p, (s.node.checkDataAge now).1.handlers[i]? = some p →
        ∃ q, s.node.handlers[i]? = some q ∧ (checkPerception s.node.forgetTime now q).1 = p := by
      intro i p hp
      rw [checkDataAge_handler h.lengths, Option.map_eq_some_iff] at hp
      exact hp
    constructor
    · exact checkDataAge_lengths h.lengths now
    · intro i p hp hpending
      obtain ⟨q, hq, rfl⟩ := hfrom i p hp
      rw [checkPerception_pending] at hpending
      have hphase := h.pending i q hq hpending
      rw [hcycling] at hphase
      contradiction
    · intro i hphase
      contradiction
    · intro i p hp haged
      obtain ⟨q, hq, rfl⟩ := hfrom i p hp
      rcases haged with ⟨-, q', hq', htooOld⟩ | haged
      · obtain rfl := Option.some.inj (hq.symm.trans hq')
        rw [checkPerception_of_tooOld htooOld]
        exact ⟨rfl, hnew hcycling q (List.mem_of_getElem? hq) htooOld⟩
      · obtain ⟨hvalid, hdata⟩ := h.agedOut i q hq haged
        rcases checkPerception_cases with heq | ⟨-, heq⟩
        · rw [heq]
          exact ⟨hvalid, hdata⟩
        · rw [heq]
          exact ⟨rfl, hdata⟩
  · rename_i hphase
    refine h.of_agedOut fun i haged => haged.resolve_left ?_
    rintro ⟨hcycling, -⟩
    exact hphase hcycling

theorem fuse_aging (h : Aging past s) (sensor : Nat) (canTransform : String → Stamp → Bool)
    (hold : LeavesOldData s (.fuse sensor canTransform)) :
    Aging ((s, .fuse sensor canTransform) :: past) (step s (.fuse sensor canTransform)) := by
  constructor
  · exact h.lengths.trans length_modify.symm
  · intro i p hp hpending
    obtain ⟨q, hq, rfl⟩ := of_getElem?_modify hp
    split at hpending
    · exact absurd (q.integratePendingPerceptions_pending canTransform) hpending
    · exact h.pending i q hq hpending
  · exact fun i hphase haged => h.receiving i hphase haged
  · intro i p hp haged
    obtain ⟨q, hq, rfl⟩ := of_getElem?_modify hp
    obtain ⟨hvalid, hdata⟩ := h.agedOut i q hq haged
    split
    · rename_i hsensor
      have hpending : q.pending = none := by
        by_contra hpending
        exact h.receiving i (h.pending i q hq hpending) haged
      have hempty : q.bufferPending.size = 0 := by
        rw [q.bufferPending_of_none hpending]
        exact hold q (hsensor ▸ hq) hvalid hpending
      rw [q.integratePendingPerceptions_of_empty canTransform hempty]
      exact ⟨hvalid, hdata⟩
    · exact ⟨hvalid, hdata⟩

theorem step_aging (h : Aging past s) (e : Event C) (he : LeavesOldData s e) :
    Aging ((s, e) :: past) (step s e) := by
  cases e with
  | setPendingCloud sensor cloud frame stamp => exact setPendingCloud_aging h _ _ _ _
  | integrate canTransform => exact integrate_aging h canTransform
  | cycleHandlers => exact cycleHandlers_aging h
  | checkDataAge now => exact checkDataAge_aging h now he
  | fuse sensor canTransform => exact fuse_aging h sensor canTransform he

end Steps

/-- Data found too old stays invalid, and is not reported as new, until a message of its
sensor is received. -/
theorem expired_stays_unused {s : Sensing C} {past : List (Sensing C × Event C)}
    (hrun : Run step IsInitial s past) (hold : ∀ q ∈ past, LeavesOldData q.1 q.2) {i : Nat}
    {p : PointPerception C} (hp : s.node.handlers[i]? = some p) (haged : AgedOut i past) :
    p.valid = false ∧ p.cycleRt.2 = false := by
  have h : Aging past s := hrun.history_invariant (motive := fun s past => Aging past s)
    LeavesOldData (fun _ => initial_aging) (fun _ e _ hs he => step_aging hs e he) hold
  exact h.agedOut i p hp haged

/-- Right after the handlers' cycles, without a fuse in between, nothing is new. -/
theorem leavesOldData_of_cycleHandlers (s : Sensing C) (now : Stamp) (hidle : s.phase = .idle) :
    LeavesOldData (step s .cycleHandlers) (.checkDataAge now) := by
  unfold step
  rw [hidle]
  intro _ p hp _
  obtain ⟨q, -, rfl⟩ := List.mem_map.mp hp
  rfl

def laser : Sensing Nat :=
  { phase := .idle, node := SensorsNode.configure 1 0 (.fin 1) .ros }

def atSeconds (seconds : Time) : Stamp :=
  { nanoseconds := seconds * 1000000000, clockType := .ros }

def agedScan : List (Event Nat) :=
  [.setPendingCloud 0 1 "laser" 1000000000, .integrate fun _ _ => true, .cycleHandlers,
    .checkDataAge (atSeconds 1), .cycleHandlers, .checkDataAge (atSeconds 3)]

theorem agedScan_run :
    Run step IsInitial (agedScan.foldl step laser) (history step laser agedScan []) :=
  (Run.init ⟨1, 0, .fin 1, .ros, rfl⟩).foldl agedScan

theorem agedScan_agedOut : AgedOut 0 (history step laser agedScan []) := by
  refine Or.inl ⟨rfl, _, rfl, ?_⟩
  unfold TooOld
  decide +kernel

theorem agedScan_leavesOldData :
    ∀ q ∈ history step laser agedScan [], LeavesOldData q.1 q.2 := by
  unfold agedScan
  simp only [history, List.forall_mem_cons]
  refine ⟨leavesOldData_of_cycleHandlers _ _ rfl, trivial,
    leavesOldData_of_cycleHandlers _ _ rfl, trivial, trivial, trivial, ?_⟩
  exact fun q hq => absurd hq List.not_mem_nil

theorem expired_stays_unused_silent :
    ∃ p, (agedScan.foldl step laser).node.handlers[0]? = some p ∧ p.valid = false ∧
      p.cycleRt.2 = false := by
  exact ⟨_, rfl, expired_stays_unused (i := 0) agedScan_run agedScan_leavesOldData rfl
    agedScan_agedOut⟩

/-- A fuse takes up the scan that the perception still keeps. -/
theorem valid_again_after_fuse :
    ∃ (past : List (Sensing Nat × Event Nat)) (p : PointPerception Nat),
      Run step IsInitial
          (step (agedScan.foldl step laser) (.fuse 0 fun _ _ => true)) past ∧
        AgedOut 0 past ∧
        (step (agedScan.foldl step laser) (.fuse 0 fun _ _ => true)).node.handlers[0]? =
          some p ∧ p.valid = true ∧ p.cycleRt.2 = true := by
  refine ⟨_, _, agedScan_run.next _, agedScan_agedOut, rfl, ?_, ?_⟩
  · decide +kernel
  · decide +kernel

end EasyNav.SensorExpiry
