import EasyNav.SensorReconfiguration

namespace EasyNav.RemovedSensors

open EasyNav.DoubleArithmetic
open EasyNav.Lifecycle
open EasyNav.PointPerceptions
open EasyNav.Runs
open EasyNav.SensorExpiry (TooOld checkPerception checkPerception_cases checkPerception_of_tooOld
  expired)
open EasyNav.SensorReconfiguration
open EasyNav.TypedStores

universe u

variable {C : Type u}

def owned (node : SensorsNode C) : List Nat := node.handlers.map Handler.perception

section Blackboard

variable {nav : NavState} {key : String} {entry : Entry} {a : Nat}

theorem reaches_iff : nav.Reaches a ↔ ∃ key, nav.getPtr key = some a := by
  constructor
  · intro h
    cases h with
    | byKey key h => exact ⟨key, h⟩
    | byGroup groupKey perceptions h hmem =>
        obtain ⟨keys, -, rfl⟩ := Option.map_eq_some_iff.mp h
        obtain ⟨key, -, hkey⟩ := List.mem_filterMap.mp hmem
        exact ⟨key, hkey⟩
    | byType key entry h htype hperception =>
        refine ⟨key, ?_⟩
        unfold NavState.getPtr
        rw [h, Option.bind_some, if_pos htype]
        exact hperception
  · rintro ⟨key, h⟩
    exact .byKey key h

theorem getPtr_of_type_ne (hne : entry.type ≠ .pointPerception)
    (hentry : ∀ stored, nav.values key = some stored → stored.type = entry.type) :
    nav.getPtr key = none := by
  unfold NavState.getPtr
  cases hstored : nav.values key with
  | none => rfl
  | some stored =>
      rw [Option.bind_some, if_neg]
      rw [hentry stored hstored]
      exact hne

/-- A key leads where it led before, or to the point perception that is stored. -/
theorem getPtr_set (other : String) :
    (nav.set key entry).1.getPtr other = nav.getPtr other ∨
      (entry.type = .pointPerception ∧
        (nav.set key entry).1.getPtr other = entry.perception) := by
  unfold NavState.set
  rcases Store.fits_or_mismatch nav.values Entry.type key entry with hfits | ⟨stored, hstored, hne⟩
  · rw [Store.set_of_fits hfits]
    by_cases hother : other = key
    · subst hother
      have hself : NavState.getPtr
          { nav with values := Function.update nav.values other (some entry) } other =
            if entry.type = .pointPerception then entry.perception else none := by
        unfold NavState.getPtr
        dsimp only
        rw [Function.update_self, Option.bind_some]
      by_cases htype : entry.type = .pointPerception
      · exact Or.inr ⟨htype, hself.trans (if_pos htype)⟩
      · left
        rw [getPtr_of_type_ne htype hfits]
        exact hself.trans (if_neg htype)
    · left
      unfold NavState.getPtr
      dsimp only
      rw [Function.update_of_ne hother]
  · left
    unfold NavState.getPtr
    dsimp only
    rw [(Store.set_of_mismatch hstored hne).1]

theorem reaches_of_set (h : (nav.set key entry).1.Reaches a) :
    nav.Reaches a ∨ entry.perception = some a := by
  obtain ⟨other, hother⟩ := reaches_iff.mp h
  rcases getPtr_set other with heq | ⟨-, heq⟩
  · exact Or.inl (reaches_iff.mpr ⟨other, heq.symm.trans hother⟩)
  · exact Or.inr (heq.symm.trans hother)

theorem set_reaches_iff (hne : entry.type ≠ .pointPerception) :
    (nav.set key entry).1.Reaches a ↔ nav.Reaches a := by
  have heq : ∀ other, (nav.set key entry).1.getPtr other = nav.getPtr other :=
    fun other => (getPtr_set other).resolve_right fun h => hne h.1
  simp only [reaches_iff, heq]

theorem setGroup_reaches_iff {groupKeys : List String} :
    (nav.setGroup key groupKeys).1.Reaches a ↔ nav.Reaches a := by
  have hgroups : NavState.Reaches
      { nav with groups := Function.update nav.groups key (some groupKeys) } a ↔
        nav.Reaches a := by
    rw [reaches_iff, reaches_iff]
    exact Iff.rfl
  exact (set_reaches_iff (by decide)).trans hgroups

theorem addToGroup_reaches_iff {groupKey : String} :
    (nav.addToGroup groupKey key).1.Reaches a ↔ nav.Reaches a := by
  unfold NavState.addToGroup
  split
  · exact Iff.rfl
  · exact setGroup_reaches_iff

end Blackboard

section Check

variable {forgetTime : Double} {now : Stamp} {p : PointPerception C}

theorem expired_checkPerception :
    expired forgetTime now (checkPerception forgetTime now p).1 = expired forgetTime now p := by
  rcases checkPerception_cases with heq | ⟨-, heq⟩
  · rw [heq]
  · rw [heq]
    rfl

theorem not_expired_of_checked (h : (checkPerception forgetTime now p).1.valid = true) :
    expired forgetTime now p = false := by
  by_contra hexpired
  have htooOld : TooOld forgetTime now p := by
    refine ⟨?_, Bool.eq_true_of_not_eq_false hexpired⟩
    rintro ⟨hstamp, hvalid⟩
    unfold checkPerception at h
    rw [if_pos ⟨hstamp, hvalid⟩, hvalid] at h
    contradiction
  rw [checkPerception_of_tooOld htooOld] at h
  contradiction

theorem checkPerception_twice :
    (checkPerception forgetTime now (checkPerception forgetTime now p).1).1 =
      (checkPerception forgetTime now p).1 := by
  have hcases : (checkPerception forgetTime now p).1 = p ∨ TooOld forgetTime now p ∧
      (checkPerception forgetTime now p).1 = { p with valid := false } := checkPerception_cases
  rcases hcases with heq | ⟨-, heq⟩
  · rw [heq, heq]
  · rw [heq]
    rcases checkPerception_cases (p := { p with valid := false }) with hagain | ⟨-, hagain⟩
    · exact hagain
    · exact hagain

theorem checkHandlers_perceptions (handlers : List Handler)
    (perceptions : Nat → PointPerception C) (a : Nat) :
    (Shared.checkHandlers forgetTime now handlers perceptions).1 a =
      if a ∈ handlers.map Handler.perception then
        (checkPerception forgetTime now (perceptions a)).1
      else perceptions a := by
  induction handlers generalizing perceptions with
  | nil => rfl
  | cons handler handlers ih =>
      rw [Shared.checkHandlers]
      dsimp only
      rw [ih, List.map_cons]
      by_cases ha : a = handler.perception
      · subst ha
        rw [Function.update_self, checkPerception_twice, ite_self,
          if_pos List.mem_cons_self]
      · rw [Function.update_of_ne ha]
        simp only [List.mem_cons, ha, false_or]

end Check

section Transitions

/-- What a transition may leave: handlers from before, and handlers with perceptions that
were allocated since. -/
structure Reconfigured (before node : SensorsNode C) : Prop where
  allocated : before.allocated ≤ node.allocated
  handlers : ∀ handler ∈ node.handlers, handler ∈ before.handlers ∨
    (before.allocated ≤ handler.perception ∧ handler.perception < node.allocated)
  perceptions : ∀ a < before.allocated, node.perceptions a = before.perceptions a

variable {before node : SensorsNode C}

theorem Reconfigured.refl (node : SensorsNode C) : Reconfigured node node where
  allocated := le_rfl
  handlers _ hmem := Or.inl hmem
  perceptions _ _ := rfl

theorem Reconfigured.releaseHandlers (h : Reconfigured before node) :
    Reconfigured before node.releaseHandlers where
  allocated := h.allocated
  handlers _ hmem := absurd hmem List.not_mem_nil
  perceptions := h.perceptions

variable [Inhabited C]

theorem Reconfigured.addHandler (h : Reconfigured before node) (sensor : SensorParameters)
    (kind : SensorKind) : Reconfigured before (node.addHandler sensor kind) where
  allocated := h.allocated.trans (Nat.le_succ _)
  handlers handler hmem := by
    rcases List.mem_append.mp hmem with hmem | hmem
    · refine (h.handlers handler hmem).imp_right fun hfresh => ?_
      exact ⟨hfresh.1, hfresh.2.trans (Nat.lt_succ_self _)⟩
    · rw [List.mem_singleton.mp hmem]
      exact Or.inr ⟨h.allocated, Nat.lt_succ_self _⟩
  perceptions a ha := by
    rw [← h.perceptions a ha]
    exact Function.update_of_ne (ha.trans_le h.allocated).ne _ _

theorem Reconfigured.loadHandlers (h : Reconfigured before node)
    (createSharedInstance : String → Option SensorKind) (sensors : List SensorParameters) :
    Reconfigured before (SensorsNode.loadHandlers createSharedInstance sensors node).1 := by
  induction sensors generalizing node with
  | nil => exact h
  | cons sensor sensors ih =>
      rw [SensorsNode.loadHandlers]
      split
      · exact h
      · split
        · exact h
        · split
          · exact ih (h.addHandler sensor _)
          · exact h

theorem Reconfigured.onConfigure (h : Reconfigured before node) (params : Parameters)
    (createSharedInstance : String → Option SensorKind) :
    Reconfigured before (node.onConfigure params createSharedInstance).1 := by
  have hread : Reconfigured before { node with forgetTime := params.forgetTime } :=
    ⟨h.allocated, h.handlers, h.perceptions⟩
  unfold SensorsNode.onConfigure
  dsimp only
  split
  · exact hread
  · have hloaded := hread.loadHandlers createSharedInstance params.sensors
    split
    · rename_i heq
      rw [heq] at hloaded
      exact ⟨hloaded.allocated, hloaded.handlers, hloaded.perceptions⟩
    · rename_i heq
      rw [heq] at hloaded
      exact hloaded

theorem trigger_reconfigured (node : Managed (SensorsNode C)) (transition : Transition)
    (params : Parameters) (createSharedInstance : String → Option SensorKind) :
    Reconfigured node.data
      (node.trigger (SensorsNode.callbacks params createSharedInstance) transition).data := by
  apply Managed.trigger_data node
  · intro data h
    cases transition with
    | configure => exact h.onConfigure params createSharedInstance
    | cleanup => exact h.releaseHandlers
    | activate => exact h
    | deactivate => exact h
    | shutdown => exact h.releaseHandlers
  · exact fun data h => h.releaseHandlers
  · exact Reconfigured.refl _

end Transitions

section Cycles

/-- The same sensors, and no perceptions on the blackboard but theirs and those before, of
which others are left as they are. -/
structure Follows (before s : Shared C) : Prop where
  handlers : s.node.handlers = before.node.handlers
  allocated : s.node.allocated = before.node.allocated
  reached : ∀ a, s.nav.Reaches a → before.nav.Reaches a ∨ a ∈ owned before.node
  perceptions : ∀ a ∉ owned before.node, s.node.perceptions a = before.node.perceptions a

variable {before s : Shared C}

theorem Follows.refl (s : Shared C) : Follows s s where
  handlers := rfl
  allocated := rfl
  reached _ h := Or.inl h
  perceptions _ _ := rfl

theorem Follows.setGroup (h : Follows before s) (key : String) (groupKeys : List String) :
    Follows before (s.onNav (s.nav.setGroup key groupKeys)).1 where
  handlers := h.handlers
  allocated := h.allocated
  reached a ha := h.reached a (setGroup_reaches_iff.mp ha)
  perceptions := h.perceptions

theorem Follows.cycleHandler (h : Follows before s) {handler : Handler}
    (hmem : handler ∈ before.node.handlers) : Follows before (s.cycleHandler handler).1 := by
  have hset : Follows before (s.onNav (s.nav.set handler.key handler.entry)).1 := by
    refine ⟨h.handlers, h.allocated, fun a ha => ?_, h.perceptions⟩
    rcases reaches_of_set ha with ha | hentry
    · exact h.reached a ha
    · right
      change (if handler.kind = .odometry then none else some handler.perception) = some a at hentry
      split at hentry
      · contradiction
      · obtain rfl := Option.some.inj hentry
        exact List.mem_map_of_mem hmem
  refine Attempt.andThen_state hset fun _ =>
    ⟨hset.handlers, hset.allocated, hset.reached, fun a ha => ?_⟩
  have hne : a ≠ handler.perception := by
    rintro rfl
    exact ha (List.mem_map_of_mem hmem)
  exact (Function.update_of_ne hne _ _).trans (hset.perceptions a ha)

theorem Follows.cycleHandlers (h : Follows before s) {handlers : List Handler}
    (hsub : handlers ⊆ before.node.handlers) (trigger : Bool) :
    Follows before (s.cycleHandlers handlers trigger).1 := by
  induction handlers generalizing trigger s with
  | nil => exact h
  | cons handler handlers ih =>
      have hcycled := h.cycleHandler (hsub List.mem_cons_self)
      exact Attempt.andThen_state hcycled fun _ => ih hcycled (List.subset_of_cons_subset hsub) _

theorem Follows.setGroups (h : Follows before s) (groups : List (String × List String)) :
    Follows before (s.setGroups groups).1 := by
  induction groups generalizing s with
  | nil => exact h
  | cons group groups ih =>
      have hset := h.setGroup group.1 group.2
      exact Attempt.andThen_state hset fun _ => ih hset

theorem cycle_follows : Follows s s.cycle.1 := by
  unfold Shared.cycle
  split
  · exact Follows.refl s
  · have hgroups := (Follows.refl s).setGroups s.node.groups
    exact Attempt.andThen_state hgroups fun _ =>
      ⟨hgroups.handlers, hgroups.allocated, hgroups.reached, hgroups.perceptions⟩

theorem reportDataAge_node :
    s.reportDataAge.1.node = { s.node with dataAgeReported := true } := by
  unfold Shared.reportDataAge
  dsimp only
  exact Attempt.andThen_state
    (motive := fun s' : Shared C => s'.node = { s.node with dataAgeReported := true }) rfl
    fun _ => rfl

theorem reportDataAge_reaches_iff {a : Nat} :
    s.reportDataAge.1.nav.Reaches a ↔ s.nav.Reaches a := by
  unfold Shared.reportDataAge
  have hset : (s.nav.set "diagnostics.sensors" { type := .diagnosticStatus }).1.Reaches a ↔
      s.nav.Reaches a := set_reaches_iff (by decide)
  exact Attempt.andThen_state
    (motive := fun s' : Shared C => s'.nav.Reaches a ↔ s.nav.Reaches a) hset
    fun _ => addToGroup_reaches_iff.trans hset

theorem checkDataAge_reaches_iff {now : Time} {a : Nat} :
    (s.checkDataAge now).1.nav.Reaches a ↔ s.nav.Reaches a := by
  unfold Shared.checkDataAge
  split
  · exact Iff.rfl
  · dsimp only
    split
    · exact reportDataAge_reaches_iff
    · exact Iff.rfl

theorem checkDataAge_node (s : Shared C) (now : Time) :
    ∃ states reported, (s.checkDataAge now).1.node = { s.node with
      perceptions := if s.isChecked then (s.checkedData now).1 else s.node.perceptions
      dataStates := states
      dataAgeReported := reported } := by
  unfold Shared.checkDataAge
  split
  · rename_i hunchecked
    rw [Bool.not_eq_true'] at hunchecked
    rw [hunchecked]
    exact ⟨_, _, rfl⟩
  · rename_i hchecked
    rw [Bool.not_eq_true', Bool.not_eq_false] at hchecked
    rw [hchecked]
    dsimp only
    split
    · exact ⟨_, _, reportDataAge_node⟩
    · exact ⟨_, _, rfl⟩

/-- The point perception may still be used, and is older than `forget_time`. -/
def HoldsOldData (node : SensorsNode C) (now : Time) (a : Nat) : Prop :=
  (node.perceptions a).valid = true ∧
    expired node.forgetTime ⟨now, node.clockType⟩ (node.perceptions a) = true

theorem checkDataAge_holdsOldData_iff {now : Time} {a : Nat} :
    HoldsOldData (s.checkDataAge now).1.node now a ↔
      HoldsOldData s.node now a ∧ (a ∉ owned s.node ∨ s.isChecked = false) := by
  obtain ⟨states, reported, hnode⟩ := checkDataAge_node s now
  unfold HoldsOldData
  rw [hnode]
  dsimp only
  cases hchecked : s.isChecked with
  | false =>
      rw [if_neg Bool.false_ne_true]
      exact (and_iff_left (Or.inr rfl)).symm
  | true =>
      have hperceptions : (s.checkedData now).1 a = if a ∈ owned s.node then
          (checkPerception s.node.forgetTime ⟨now, s.node.clockType⟩ (s.node.perceptions a)).1
          else s.node.perceptions a := checkHandlers_perceptions _ _ _
      rw [if_pos rfl, or_iff_left Bool.noConfusion, hperceptions]
      by_cases howned : a ∈ owned s.node
      · -- the node has checked it
        rw [if_pos howned, expired_checkPerception]
        refine iff_of_false ?_ fun h => h.2 howned
        rintro ⟨hvalid, hexpired⟩
        have hrecent := not_expired_of_checked hvalid
        exact Bool.false_ne_true (hrecent.symm.trans hexpired)
      · rw [if_neg howned]
        exact (and_iff_left howned).symm

theorem checkDataAge_follows {now : Time} : Follows s (s.checkDataAge now).1 := by
  obtain ⟨states, reported, hnode⟩ := checkDataAge_node s now
  refine ⟨?_, ?_, fun a ha => Or.inl (checkDataAge_reaches_iff.mp ha), ?_⟩
  · rw [hnode]
  · rw [hnode]
  · intro a ha
    rw [hnode]
    dsimp only
    split
    · exact (checkHandlers_perceptions _ _ _).trans (if_neg ha)
    · rfl

end Cycles

abbrev History (C : Type u) := List (Sensing C × Event C)

section Removal

variable [Inhabited C]

/-- The step removes the sensor of the perception. -/
def Removes (p : Sensing C × Event C) (a : Nat) : Prop :=
  a ∈ owned p.1.node.data ∧ a ∉ owned (p.1.step p.2).node.data

def Removed (a : Nat) (past : History C) : Prop := ∃ p ∈ past, Removes p a

/-- Every point perception on the blackboard is that of a sensor, or of one that was
removed. -/
structure Accounted (past : History C) (s : Sensing C) : Prop where
  allocated : ∀ a ∈ owned s.node.data, a < s.node.data.allocated
  removed : ∀ a, Removed a past → a < s.node.data.allocated ∧ a ∉ owned s.node.data
  reached : ∀ a, s.nav.Reaches a → a ∈ owned s.node.data ∨ Removed a past

variable {past : History C} {s : Sensing C}

theorem initial_accounted (h : IsInitial s) : Accounted [] s := by
  obtain ⟨clockType, rfl⟩ := h
  refine ⟨?_, ?_, ?_⟩
  · exact fun a ha => absurd ha List.not_mem_nil
  · rintro a ⟨p, hp, -⟩
    exact absurd hp List.not_mem_nil
  · intro a ha
    obtain ⟨key, hkey⟩ := reaches_iff.mp ha
    contradiction

theorem removed_cons {e : Event C} {a : Nat} (h : Removed a past) : Removed a ((s, e) :: past) := by
  obtain ⟨p, hp, hremoved⟩ := h
  exact ⟨p, List.mem_cons_of_mem _ hp, hremoved⟩

theorem trigger_accounted (h : Accounted past s) {e : Event C}
    (hnode : Reconfigured s.node.data (s.step e).node.data) (hnav : (s.step e).nav = s.nav) :
    Accounted ((s, e) :: past) (s.step e) where
  allocated a ha := by
    obtain ⟨handler, hmem, rfl⟩ := List.mem_map.mp ha
    rcases hnode.handlers handler hmem with hmem | ⟨-, hlt⟩
    · exact (h.allocated _ (List.mem_map_of_mem hmem)).trans_le hnode.allocated
    · exact hlt
  removed := by
    rintro a ⟨p, hp, hbefore, hafter⟩
    rcases List.mem_cons.mp hp with rfl | hp
    · exact ⟨(h.allocated a hbefore).trans_le hnode.allocated, hafter⟩
    · obtain ⟨hlt, hnot⟩ := h.removed a ⟨p, hp, hbefore, hafter⟩
      refine ⟨hlt.trans_le hnode.allocated, fun howned => ?_⟩
      obtain ⟨handler, hmem, rfl⟩ := List.mem_map.mp howned
      rcases hnode.handlers handler hmem with hmem | ⟨hge, -⟩
      · exact hnot (List.mem_map_of_mem hmem)
      · omega
  reached a ha := by
    rw [hnav] at ha
    rcases h.reached a ha with hmem | hremoved
    · by_cases hafter : a ∈ owned (s.step e).node.data
      · exact Or.inl hafter
      · exact Or.inr ⟨_, List.mem_cons_self, hmem, hafter⟩
    · exact Or.inr (removed_cons hremoved)

/-- A step that leaves the sensors alone, and stores no perceptions but theirs. -/
theorem same_accounted (h : Accounted past s) {e : Event C}
    (howned : owned (s.step e).node.data = owned s.node.data)
    (hallocated : (s.step e).node.data.allocated = s.node.data.allocated)
    (hreached : ∀ a, (s.step e).nav.Reaches a → s.nav.Reaches a ∨ a ∈ owned s.node.data) :
    Accounted ((s, e) :: past) (s.step e) := by
  refine ⟨?_, ?_, ?_⟩
  · rw [howned, hallocated]
    exact h.allocated
  · rintro a ⟨p, hp, hbefore, hafter⟩
    rw [howned, hallocated]
    rcases List.mem_cons.mp hp with rfl | hp
    · rw [howned] at hafter
      exact absurd hbefore hafter
    · exact h.removed a ⟨p, hp, hbefore, hafter⟩
  · intro a ha
    rw [howned]
    rcases hreached a ha with ha | hmem
    · exact (h.reached a ha).imp_right removed_cons
    · exact Or.inl hmem

theorem step_trigger (s : Sensing C) (transition : Transition) (params : Parameters)
    (createSharedInstance : String → Option SensorKind) :
    Reconfigured s.node.data (s.step (.trigger transition params createSharedInstance)).node.data ∧
      (s.step (.trigger transition params createSharedInstance)).nav = s.nav := by
  unfold Sensing.step Sensing.attempt
  dsimp only
  split
  · exact ⟨Reconfigured.refl _, rfl⟩
  · exact ⟨trigger_reconfigured _ _ _ _, rfl⟩

theorem receive_follows {handler : Nat} {data : C} {frame : String} {stamp : Time} {decodes : Bool}
    {canTransform : String → Stamp → Bool} :
    Follows s.shared
      (s.step (.receive handler data frame stamp decodes canTransform)).shared := by
  unfold Sensing.step Sensing.attempt
  dsimp only
  split
  · exact Follows.refl _
  · rename_i handler hhandler
    split
    · exact Follows.refl _
    · refine ⟨rfl, rfl, fun a ha => Or.inl ha, fun a ha => Function.update_of_ne ?_ _ _⟩
      rintro rfl
      exact ha (List.mem_map_of_mem (List.mem_of_getElem? hhandler))

theorem step_cycleHandlers_follows : Follows s.shared (s.step .cycleHandlers).shared := by
  unfold Sensing.step Sensing.attempt
  dsimp only
  split
  · exact Follows.refl _
  · exact (Follows.refl s.shared).cycleHandlers (List.Subset.refl _) false

theorem step_checkDataAge_follows {now : Time} :
    Follows s.shared (s.step (.checkDataAge now)).shared := by
  unfold Sensing.step Sensing.attempt
  dsimp only
  split
  · exact checkDataAge_follows
  · exact Follows.refl _

/-- A step is a transition, or leaves alone what is not of the sensors, or fuses. -/
theorem step_cases (s : Sensing C) (e : Event C) :
    (Reconfigured s.node.data (s.step e).node.data ∧ (s.step e).nav = s.nav) ∨
      Follows s.shared (s.step e).shared ∨
      ∃ perception canTransform, e = .fuse perception canTransform := by
  cases e with
  | trigger transition params createSharedInstance =>
      exact Or.inl (step_trigger s transition params createSharedInstance)
  | receive handler data frame stamp decodes canTransform =>
      exact Or.inr (Or.inl receive_follows)
  | cycleHandlers => exact Or.inr (Or.inl step_cycleHandlers_follows)
  | checkDataAge now => exact Or.inr (Or.inl step_checkDataAge_follows)
  | cycle => exact Or.inr (Or.inl cycle_follows)
  | fuse perception canTransform => exact Or.inr (Or.inr ⟨perception, canTransform, rfl⟩)
  | set key type =>
      refine Or.inr (Or.inl ⟨rfl, rfl, fun a ha => ?_, fun _ _ => rfl⟩)
      exact Or.inl ((reaches_of_set ha).resolve_right fun hnone => by cases hnone)
  | addToGroup groupKey key =>
      refine Or.inr (Or.inl ⟨rfl, rfl, fun a ha => ?_, fun _ _ => rfl⟩)
      exact Or.inl (addToGroup_reaches_iff.mp ha)

theorem step_accounted (h : Accounted past s) (e : Event C) :
    Accounted ((s, e) :: past) (s.step e) := by
  rcases step_cases s e with ⟨hnode, hnav⟩ | hfollows | ⟨perception, canTransform, rfl⟩
  · exact trigger_accounted h hnode hnav
  · exact same_accounted h (congrArg (List.map Handler.perception) hfollows.handlers)
      hfollows.allocated hfollows.reached
  · exact same_accounted h rfl rfl fun a ha => Or.inl ha

theorem run_accounted (hrun : Run Sensing.step IsInitial s past) : Accounted past s :=
  hrun.history_invariant (motive := fun s past => Accounted past s) (fun _ _ => True)
    (fun _ => initial_accounted) (fun _ e _ h _ => step_accounted h e) (fun _ _ => trivial)

end Removal

section Leftovers

variable [Inhabited C] {past : History C} {s : Sensing C} {e : Event C} {a : Nat} {stamp : Stamp}

/-- The perception kept a cloud with this stamp when its sensor was removed. -/
def KeptAtRemoval (a : Nat) (stamp : Stamp) (past : History C) : Prop :=
  ∃ p ∈ past, Removes p a ∧
    ∃ item ∈ (p.1.node.data.perceptions a).bufferPending.toList, item.stamp = stamp

/-- The perception of a sensor that was removed showed this stamp then, or kept it and has
been fused since. -/
def MayShow (a : Nat) (stamp : Stamp) : History C → Prop
  | [] => False
  | (s, e) :: past =>
      (Removes (s, e) a ∧ (s.node.data.perceptions a).valid = true ∧
        (s.node.data.perceptions a).stamp = stamp) ∨
      ((∃ canTransform, e = .fuse a canTransform) ∧ KeptAtRemoval a stamp past) ∨
      MayShow a stamp past

theorem KeptAtRemoval.cons (h : KeptAtRemoval a stamp past) :
    KeptAtRemoval a stamp ((s, e) :: past) := by
  obtain ⟨p, hp, hkept⟩ := h
  exact ⟨p, List.mem_cons_of_mem _ hp, hkept⟩

theorem MayShow.cons (h : MayShow a stamp past) : MayShow a stamp ((s, e) :: past) :=
  Or.inr (Or.inr h)

/-- What the perceptions of removed sensors show and keep, they had then. -/
structure LeftAlone (past : History C) (s : Sensing C) : Prop where
  shown : ∀ a, Removed a past → (s.node.data.perceptions a).valid = true →
    MayShow a (s.node.data.perceptions a).stamp past
  kept : ∀ a, Removed a past →
    ∀ item ∈ (s.node.data.perceptions a).bufferPending.toList, KeptAtRemoval a item.stamp past

theorem unchanged_leftAlone (h : LeftAlone past s)
    (hsame : ∀ a, Removed a ((s, e) :: past) →
      (s.step e).node.data.perceptions a = s.node.data.perceptions a) :
    LeftAlone ((s, e) :: past) (s.step e) where
  shown a hremoved hvalid := by
    rw [hsame a hremoved] at hvalid ⊢
    obtain ⟨p, hp, hremoves⟩ := hremoved
    rcases List.mem_cons.mp hp with rfl | hp
    · exact Or.inl ⟨hremoves, hvalid, rfl⟩
    · exact (h.shown a ⟨p, hp, hremoves⟩ hvalid).cons
  kept a hremoved item hitem := by
    rw [hsame a hremoved] at hitem
    obtain ⟨p, hp, hremoves⟩ := hremoved
    rcases List.mem_cons.mp hp with rfl | hp
    · exact ⟨_, hp, hremoves, item, hitem, rfl⟩
    · exact (h.kept a ⟨p, hp, hremoves⟩ item hitem).cons

/-- A fuse may show again what a perception has kept. -/
theorem fuse_leftAlone (h : LeftAlone past s) (perception : Nat)
    (canTransform : String → Stamp → Bool) :
    LeftAlone ((s, .fuse perception canTransform) :: past)
      (s.step (.fuse perception canTransform)) := by
  have hbefore : ∀ a, Removed a ((s, .fuse perception canTransform) :: past) →
      Removed a past := by
    rintro a ⟨p, hp, hremoves⟩
    rcases List.mem_cons.mp hp with rfl | hp
    · exact absurd hremoves.1 hremoves.2
    · exact ⟨p, hp, hremoves⟩
  have hother : ∀ a, a ≠ perception →
      (s.step (.fuse perception canTransform)).node.data.perceptions a =
        s.node.data.perceptions a := fun a hne => Function.update_of_ne hne _ _
  have hself : (s.step (.fuse perception canTransform)).node.data.perceptions perception =
      (s.node.data.perceptions perception).integratePendingPerceptions canTransform :=
    Function.update_self _ _ _
  constructor
  · intro a hremoved hvalid
    by_cases ha : a = perception
    · subst ha
      rw [hself] at hvalid ⊢
      rcases PointPerception.integratePendingPerceptions_stamp _ _ hvalid with
        ⟨hvalid, heq⟩ | ⟨item, hitem, heq⟩
      · rw [heq]
        exact (h.shown a (hbefore a hremoved) hvalid).cons
      · rw [heq]
        exact Or.inr (Or.inl ⟨⟨canTransform, rfl⟩, h.kept a (hbefore a hremoved) item hitem⟩)
    · rw [hother a ha] at hvalid ⊢
      exact (h.shown a (hbefore a hremoved) hvalid).cons
  · intro a hremoved item hitem
    by_cases ha : a = perception
    · subst ha
      rw [hself] at hitem
      exact (h.kept a (hbefore a hremoved) item
        (PointPerception.mem_of_integratePendingPerceptions _ _ hitem)).cons
    · rw [hother a ha] at hitem
      exact (h.kept a (hbefore a hremoved) item hitem).cons

theorem step_leftAlone (haccounted : Accounted past s) (h : LeftAlone past s) (e : Event C) :
    LeftAlone ((s, e) :: past) (s.step e) := by
  have hafter := step_accounted haccounted e
  rcases step_cases s e with ⟨hnode, -⟩ | hfollows | ⟨perception, canTransform, rfl⟩
  · apply unchanged_leftAlone h
    rintro a ⟨p, hp, hremoves⟩
    apply hnode.perceptions
    rcases List.mem_cons.mp hp with rfl | hp
    · exact haccounted.allocated a hremoves.1
    · exact (haccounted.removed a ⟨p, hp, hremoves⟩).1
  · apply unchanged_leftAlone h
    intro a hremoved
    apply hfollows.perceptions
    have hnot := (hafter.removed a hremoved).2
    rwa [owned, show (s.step e).node.data.handlers = s.node.data.handlers from
      hfollows.handlers] at hnot
  · exact fuse_leftAlone h perception canTransform

theorem run_leftAlone (hrun : Run Sensing.step IsInitial s past) : LeftAlone past s := by
  induction hrun with
  | init h =>
      constructor
      · rintro a ⟨p, hp, -⟩
        exact absurd hp List.not_mem_nil
      · rintro a ⟨p, hp, -⟩
        exact absurd hp List.not_mem_nil
  | next hrun e ih => exact step_leftAlone (run_accounted hrun) ih e

end Leftovers

section Ages

variable [Inhabited C] {past : History C} {s : Sensing C}

/-- After an RT cycle, no old data on the blackboard is used. -/
def ForgetsOldData (s : Sensing C) : Event C → Prop
  | .checkDataAge now =>
      s.cycling = true → ∀ a, (s.step (.checkDataAge now)).nav.Reaches a →
        ¬ HoldsOldData (s.step (.checkDataAge now)).node.data now a
  | _ => True

/-- Every RT cycle comes in time for what removed sensors have left on the blackboard, and
finds as many data states as handlers. -/
def InTime : History C → Prop
  | [] => True
  | (s, .checkDataAge now) :: past =>
      (s.cycling = true → s.shared.isChecked = true ∧
        ∀ a, s.nav.Reaches a → ∀ stamp, MayShow a stamp past →
          expired s.node.data.forgetTime ⟨now, s.node.data.clockType⟩
            { s.node.data.perceptions a with stamp := stamp } = false) ∧ InTime past
  | _ :: past => InTime past

theorem forgetsOldData_iff (h : Accounted past s) (now : Time) :
    ForgetsOldData s (.checkDataAge now) ↔
      (s.cycling = true → ∀ a, s.nav.Reaches a → Removed a past ∨ s.shared.isChecked = false →
        ¬ HoldsOldData s.node.data now a) := by
  refine forall_congr' fun hcycling => forall_congr' fun a => ?_
  have hshared : (s.step (.checkDataAge now)).shared = (s.shared.checkDataAge now).1 := by
    unfold Sensing.step Sensing.attempt
    dsimp only
    rw [if_pos hcycling]
    rfl
  change ((s.step (.checkDataAge now)).shared.nav.Reaches a → ¬ HoldsOldData
    (s.step (.checkDataAge now)).shared.node now a) ↔ _
  rw [hshared, checkDataAge_reaches_iff, checkDataAge_holdsOldData_iff]
  refine forall_congr' fun ha => ?_
  constructor
  · rintro hforgets hleft hold
    refine hforgets ⟨hold, hleft.imp_left fun hremoved => (h.removed a hremoved).2⟩
  · rintro hleaves ⟨hold, hnot⟩
    refine hleaves (hnot.imp_left fun hnot => ?_) hold
    exact (h.reached a ha).resolve_left hnot

theorem checkDataAge_forgets (hrun : Run Sensing.step IsInitial s past) {now : Time}
    (htime : s.cycling = true → s.shared.isChecked = true ∧
      ∀ a, s.nav.Reaches a → ∀ stamp, MayShow a stamp past →
        expired s.node.data.forgetTime ⟨now, s.node.data.clockType⟩
          { s.node.data.perceptions a with stamp := stamp } = false) :
    ForgetsOldData s (.checkDataAge now) := by
  rw [forgetsOldData_iff (run_accounted hrun)]
  rintro hcycling a ha hleft ⟨hvalid, hexpired⟩
  obtain ⟨hchecked, htime⟩ := htime hcycling
  have hremoved : Removed a past := by
    refine hleft.resolve_right fun hunchecked => ?_
    rw [hchecked] at hunchecked
    contradiction
  have hrecent := htime a ha _ ((run_leftAlone hrun).shown a hremoved hvalid)
  exact Bool.false_ne_true (hrecent.symm.trans hexpired)

end Ages

/-- While every RT cycle comes in time for what removed sensors have left, none leaves a point
perception on the blackboard that is valid and too old. -/
theorem removed_data_forgotten [Inhabited C] {s : Sensing C} {past : History C}
    (hrun : Run Sensing.step IsInitial s past) (htime : InTime past) :
    ∀ p ∈ past, ForgetsOldData p.1 p.2 := by
  induction hrun with
  | init h => exact fun p hp => absurd hp List.not_mem_nil
  | @next s past hrun e ih =>
      rw [List.forall_mem_cons]
      cases e with
      | checkDataAge now => exact ⟨checkDataAge_forgets hrun htime.1, ih htime.2⟩
      | trigger transition params createSharedInstance => exact ⟨trivial, ih htime⟩
      | receive handler data frame stamp decodes canTransform => exact ⟨trivial, ih htime⟩
      | cycleHandlers => exact ⟨trivial, ih htime⟩
      | cycle => exact ⟨trivial, ih htime⟩
      | fuse perception canTransform => exact ⟨trivial, ih htime⟩
      | set key type => exact ⟨trivial, ih htime⟩
      | addToGroup groupKey key => exact ⟨trivial, ih htime⟩

def trigger (transition : Transition) (sensors : List SensorParameters) : Event Nat :=
  .trigger transition { sensors := sensors } packagePlugins

def laserRemoved : List (Event Nat) :=
  [trigger .configure [{ id := "laser", type := "sensor_msgs/msg/LaserScan" }],
    trigger .activate [], .receive 0 1 "laser" 1000000000 true fun _ _ => true, .cycleHandlers,
    .checkDataAge 1000000000, trigger .deactivate [], trigger .cleanup [],
    trigger .configure [], trigger .activate [], .cycleHandlers]

theorem laserRemoved_run :
    Run Sensing.step IsInitial (laserRemoved.foldl Sensing.step (.create .ros))
      (history Sensing.step (.create .ros) laserRemoved []) :=
  (Run.init ⟨.ros, rfl⟩).foldl laserRemoved

theorem MayShow.exists_removal {a : Nat} {stamp : Stamp} {past : History Nat}
    (h : MayShow a stamp past) : ∃ p ∈ past, a ∈ owned p.1.node.data ∧
      ((p.1.node.data.perceptions a).valid = true ∧ (p.1.node.data.perceptions a).stamp = stamp ∨
        ∃ item ∈ (p.1.node.data.perceptions a).bufferPending.toList, item.stamp = stamp) := by
  induction past with
  | nil => exact h.elim
  | cons p past ih =>
      rcases h with ⟨hremoves, hshown⟩ | ⟨-, q, hq, hremoves, hkept⟩ | h
      · exact ⟨p, List.mem_cons_self, hremoves.1, Or.inl hshown⟩
      · exact ⟨q, List.mem_cons_of_mem _ hq, hremoves.1, Or.inr hkept⟩
      · obtain ⟨q, hq, hshown⟩ := ih h
        exact ⟨q, List.mem_cons_of_mem _ hq, hshown⟩

/-- Half a second after the scan of a laser that was removed, it may still be used. -/
theorem removed_data_forgotten_laser :
    ∃ past : History Nat,
      past = history Sensing.step (.create .ros)
        (laserRemoved ++ [Event.checkDataAge 1500000000]) [] ∧
      ∀ p ∈ past, ForgetsOldData p.1 p.2 := by
  have hstamps : ∀ p ∈ history Sensing.step (.create .ros) laserRemoved [],
      ∀ a ∈ owned p.1.node.data,
        ((p.1.node.data.perceptions a).valid = true →
          (p.1.node.data.perceptions a).stamp.nanoseconds = 1000000000) ∧
        ∀ item ∈ (p.1.node.data.perceptions a).bufferPending.toList,
          item.stamp.nanoseconds = 1000000000 := by
    decide +kernel
  have hshown : ∀ past : History Nat,
      past ⊆ history Sensing.step (.create .ros) laserRemoved [] → ∀ a stamp,
        MayShow a stamp past → stamp.nanoseconds = 1000000000 := by
    intro past hpast a stamp h
    obtain ⟨p, hp, howned, ⟨hvalid, rfl⟩ | ⟨item, hitem, rfl⟩⟩ := h.exists_removal
    · exact (hstamps p (hpast hp) a howned).1 hvalid
    · exact (hstamps p (hpast hp) a howned).2 item hitem
  have hhistory : history Sensing.step (.create .ros)
      (laserRemoved ++ [Event.checkDataAge 1500000000]) [] =
        (laserRemoved.foldl Sensing.step (.create .ros), .checkDataAge 1500000000) ::
          history Sensing.step (.create .ros) laserRemoved [] := rfl
  have hrun : Run Sensing.step IsInitial _ (history Sensing.step (.create .ros)
      (laserRemoved ++ [Event.checkDataAge 1500000000]) []) :=
    (Run.init ⟨.ros, rfl⟩).foldl (laserRemoved ++ [Event.checkDataAge 1500000000])
  refine ⟨_, rfl, removed_data_forgotten hrun ?_⟩
  rw [hhistory]
  refine ⟨fun _ => ⟨by decide +kernel, fun a _ stamp h => ?_⟩,
    fun _ => ⟨by decide +kernel, fun a _ stamp h => ?_⟩, trivial⟩
  · have hstamp := hshown _ (List.Subset.refl _) a stamp h
    rw [expired, Bool.and_eq_false_iff, hstamp]
    exact Or.inr (by decide +kernel)
  · have hstamp := hshown _ (List.drop_subset 6 _) a stamp h
    rw [expired, Bool.and_eq_false_iff, hstamp]
    exact Or.inr (by decide +kernel)

/-- Two seconds after its scan, that of a laser that was removed is still valid. -/
theorem removed_laser_used :
    ∃ (s : Sensing Nat) (past : History Nat), Run Sensing.step IsInitial s past ∧
      s.node.state = .active ∧ s.node.data.handlers.length = 0 ∧
      ¬ ForgetsOldData s (.checkDataAge 3000000000) := by
  refine ⟨_, _, laserRemoved_run, by decide +kernel, by decide +kernel, fun h => ?_⟩
  refine h (by decide +kernel) 0 (.byKey "laser" (by decide +kernel)) ⟨?_, ?_⟩
  · decide +kernel
  · decide +kernel

end EasyNav.RemovedSensors
