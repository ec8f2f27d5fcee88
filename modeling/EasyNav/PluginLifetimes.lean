import EasyNav.Runs
import EasyNav.SharedOwnership

namespace EasyNav.PluginLifetimes

open EasyNav.Runs
open EasyNav.SharedOwnership
open EasyNav.SharedOwnership.Ownership (Sound sound_empty)

/-- Where the thread of the transitions is, with the instances that its own variables hold. -/
inductive Activity where
  | idle
  /-- In `configure`, with what is loaded so far and the instance that is being initialised. -/
  | configuring (loaded : List Nat) (item : Option Nat)
  /-- In `release_items` -/
  | releasing (items : List Nat)
  deriving DecidableEq

def Activity.owned : Activity → List Nat
  | .idle => []
  | .configuring loaded item => loaded ++ item.toList
  | .releasing items => items

/-- Instances are named in the order of their creation. -/
structure PluginSwitcher where
  created : Nat := 0
  instances : Ownership Nat := .empty
  plugins : List Nat := []
  activity : Activity := .idle
  /-- The copies of each cycle in progress. -/
  cycles : List (List Nat) := []

namespace PluginSwitcher

variable (switcher : PluginSwitcher)

def create (loaded : List Nat) : PluginSwitcher :=
  { switcher with
    created := switcher.created + 1
    instances := switcher.instances.acquire switcher.created
    activity := .configuring loaded (some switcher.created) }

/-- All plugins are loaded: they replace those that were. -/
def install (loaded : List Nat) : PluginSwitcher :=
  { switcher with
    instances := switcher.instances.dropAll switcher.plugins
    plugins := loaded
    activity := .idle }

def release : PluginSwitcher :=
  { switcher with plugins := [], activity := .releasing switcher.plugins }

def handOut (copies : List Nat) : PluginSwitcher :=
  { switcher with
    instances := switcher.instances.acquireAll copies
    cycles := switcher.cycles ++ [copies] }

def dropCopy (cycle : Nat) : PluginSwitcher :=
  match switcher.cycles[cycle]? with
  | some (copy :: copies) =>
      { switcher with
        instances := switcher.instances.drop copy
        cycles := switcher.cycles.set cycle copies }
  | some [] | none => switcher

end PluginSwitcher

inductive Event where
  | configure
  | create
  | initialised
  /-- A plugin fails, before or after its instance was created. -/
  | fail
  | install
  | release
  | dropItem
  | get
  | getAll
  | dropCopy (cycle : Nat)
  deriving DecidableEq

def step (switcher : PluginSwitcher) (e : Event) : PluginSwitcher :=
  match e, switcher.activity with
  | .configure, .idle => { switcher with activity := .configuring [] none }
  | .create, .configuring loaded none => switcher.create loaded
  | .initialised, .configuring loaded (some item) =>
      { switcher with activity := .configuring (loaded ++ [item]) none }
  | .fail, .configuring loaded item =>
      { switcher with activity := .releasing (item.toList ++ loaded) }
  | .install, .configuring loaded none => switcher.install loaded
  | .release, .idle => switcher.release
  | .dropItem, .releasing (item :: items) =>
      { switcher with
        instances := switcher.instances.drop item
        activity := .releasing items }
  | .dropItem, .releasing [] => { switcher with activity := .idle }
  | .get, _ => switcher.handOut switcher.plugins.head?.toList
  | .getAll, _ => switcher.handOut switcher.plugins
  | .dropCopy cycle, _ => switcher.dropCopy cycle
  | _, _ => switcher

def Start (switcher : PluginSwitcher) : Prop := switcher = {}

/-- All that holds an instance. -/
def held (switcher : PluginSwitcher) : List Nat :=
  switcher.plugins ++ switcher.activity.owned ++ switcher.cycles.flatten

def Counted (switcher : PluginSwitcher) : Prop :=
  Sound (fun item => item < switcher.created) (held switcher) switcher.instances

section Steps

open PluginSwitcher

variable {switcher : PluginSwitcher}

theorem flatten_set_perm {copy : Nat} {copies : List Nat} {cycles : List (List Nat)} {cycle : Nat}
    (h : cycles[cycle]? = some (copy :: copies)) :
    cycles.flatten.Perm (copy :: (cycles.set cycle copies).flatten) := by
  induction cycles generalizing cycle with
  | nil => cases h
  | cons first cycles ih =>
      cases cycle with
      | zero =>
          obtain rfl := Option.some.inj h
          exact .refl _
      | succ cycle =>
          rw [List.flatten_cons, List.set_cons_succ, List.flatten_cons]
          exact ((ih h).append_left first).trans List.perm_middle

theorem Counted.of_perm {switcher' : PluginSwitcher} (h : Counted switcher)
    (hcreated : switcher'.created = switcher.created)
    (hinstances : switcher'.instances = switcher.instances)
    (hheld : (held switcher').Perm (held switcher)) : Counted switcher' := by
  rw [Counted, hcreated, hinstances, Multiset.coe_eq_coe.mpr hheld]
  exact h

theorem create_counted (h : Counted switcher) {loaded : List Nat}
    (hactivity : switcher.activity = .configuring loaded none) :
    Counted (switcher.create loaded) := by
  have hnew := h.new (lt_irrefl switcher.created)
  refine hnew.congr (fun item => ?_) (Multiset.coe_eq_coe.mpr ?_)
  · change item < switcher.created + 1 ↔ _
    omega
  · rw [List.perm_iff_count]
    intro item
    simp only [held, hactivity, create, Activity.owned, Option.toList, List.count_append,
      List.count_cons, List.count_nil]
    omega

theorem install_counted (h : Counted switcher) {loaded : List Nat}
    (hactivity : switcher.activity = .configuring loaded none) :
    Counted (switcher.install loaded) := by
  have hreplaced : (switcher.plugins : Multiset Nat) + (held (switcher.install loaded) : List Nat) =
      (held switcher : List Nat) := by
    rw [Multiset.coe_add, Multiset.coe_eq_coe, List.perm_iff_count]
    intro item
    simp only [held, hactivity, install, Activity.owned, Option.toList, List.count_append,
      List.count_nil]
    omega
  exact Sound.dropAll (h.congr (fun _ => Iff.rfl) hreplaced)

theorem handOut_counted (h : Counted switcher) {copies : List Nat}
    (hcopies : ∀ item ∈ copies, item ∈ switcher.plugins) : Counted (switcher.handOut copies) := by
  have hmem : ∀ item ∈ copies, item ∈ ((held switcher : List Nat) : Multiset Nat) := by
    intro item hitem
    rw [Multiset.mem_coe, held, List.append_assoc]
    exact List.mem_append_left _ (hcopies item hitem)
  refine (h.copyAll hmem).congr (fun _ => Iff.rfl) ?_
  rw [Multiset.coe_add, Multiset.coe_eq_coe, List.perm_iff_count]
  intro item
  simp only [held, handOut, List.count_append, List.flatten_append, List.flatten_cons,
    List.flatten_nil, List.append_nil]
  omega

theorem dropCopy_counted (h : Counted switcher) (cycle : Nat) :
    Counted (switcher.dropCopy cycle) := by
  rw [dropCopy]
  split
  · rename_i copy copies hcopies
    refine Sound.drop (h.congr (fun _ => Iff.rfl) ?_)
    rw [Multiset.cons_coe, Multiset.coe_eq_coe]
    have hperm := (flatten_set_perm hcopies).append_left
      (switcher.plugins ++ switcher.activity.owned)
    exact (hperm.trans List.perm_middle).symm
  · exact h
  · exact h

theorem dropItem_counted (h : Counted switcher) {item : Nat} {items : List Nat}
    (hactivity : switcher.activity = .releasing (item :: items)) :
    Counted { switcher with
      instances := switcher.instances.drop item
      activity := .releasing items } := by
  refine Sound.drop (h.congr (fun _ => Iff.rfl) ?_)
  rw [Multiset.cons_coe, Multiset.coe_eq_coe, List.perm_iff_count]
  intro other
  simp only [held, hactivity, Activity.owned, List.count_append, List.count_cons]
  omega

theorem fail_counted (h : Counted switcher) {loaded : List Nat} {item : Option Nat}
    (hactivity : switcher.activity = .configuring loaded item) :
    Counted { switcher with activity := .releasing (item.toList ++ loaded) } := by
  refine h.of_perm rfl rfl ?_
  rw [List.perm_iff_count]
  intro other
  simp only [held, hactivity, Activity.owned, List.count_append]
  omega

theorem release_counted (h : Counted switcher) (hactivity : switcher.activity = .idle) :
    Counted switcher.release := by
  refine h.of_perm rfl rfl ?_
  rw [held, held, hactivity, PluginSwitcher.release, Activity.owned, Activity.owned,
    List.nil_append, List.append_nil]

theorem step_counted (h : Counted switcher) (e : Event) : Counted (step switcher e) := by
  unfold step
  split
  · rename_i hactivity
    refine h.of_perm rfl rfl ?_
    rw [held, held, hactivity]
    exact .refl _
  · rename_i hactivity
    exact create_counted h hactivity
  · rename_i hactivity
    refine h.of_perm rfl rfl ?_
    rw [held, held, hactivity, Activity.owned, Activity.owned, Option.toList_none, List.append_nil]
    exact .refl _
  · rename_i hactivity
    exact fail_counted h hactivity
  · rename_i hactivity
    exact install_counted h hactivity
  · rename_i hactivity
    exact release_counted h hactivity
  · rename_i hactivity
    exact dropItem_counted h hactivity
  · rename_i hactivity
    refine h.of_perm rfl rfl ?_
    rw [held, held, hactivity]
    exact .refl _
  · refine handOut_counted h fun item hitem => ?_
    rw [Option.mem_toList] at hitem
    exact List.mem_of_mem_head? hitem
  · exact handOut_counted h fun item hitem => hitem
  · exact dropCopy_counted h _
  · exact h

end Steps

/-- Nothing that is loaded or in use was destroyed, nothing is destroyed twice, and what
nothing holds any more was destroyed. -/
structure Safe (switcher : PluginSwitcher) : Prop where
  inUse : ∀ copies ∈ switcher.cycles, ∀ item ∈ copies, item ∉ switcher.instances.destroyed
  loaded : ∀ item ∈ switcher.plugins, item ∉ switcher.instances.destroyed
  once : switcher.instances.destroyed.Nodup
  destroyed_iff : ∀ item, item ∈ switcher.instances.destroyed ↔
    item < switcher.created ∧ item ∉ switcher.plugins ∧ item ∉ switcher.activity.owned ∧
      ∀ copies ∈ switcher.cycles, item ∉ copies

theorem Counted.safe {switcher : PluginSwitcher} (h : Counted switcher) : Safe switcher where
  inUse copies hcopies item hitem := by
    apply h.alive
    rw [Multiset.mem_coe, held]
    exact List.mem_append_right _ (List.mem_flatten.mpr ⟨copies, hcopies, hitem⟩)
  loaded item hitem := by
    apply h.alive
    rw [Multiset.mem_coe, held, List.append_assoc]
    exact List.mem_append_left _ hitem
  once := h.once
  destroyed_iff item := by
    rw [h.destroyed_iff, Multiset.mem_coe, held, List.mem_append, List.mem_append,
      List.mem_flatten, not_or, not_or, and_assoc]
    simp

theorem run_counted {switcher : PluginSwitcher} {past : List (PluginSwitcher × Event)}
    (hrun : Run step Start switcher past) : Counted switcher := by
  apply hrun.invariant_of_all
  · rintro switcher rfl
    exact sound_empty.congr (fun item => by simp) rfl
  · exact fun switcher e h => step_counted h e

/-- Whenever the plugins are released, and however cycles overlap with it, no cycle ever uses an
instance that was destroyed, and each is destroyed once nothing uses it. -/
theorem instances_safe {switcher : PluginSwitcher} {past : List (PluginSwitcher × Event)}
    (hrun : Run step Start switcher past) : Safe switcher :=
  (run_counted hrun).safe

def exampleReleased : List Event :=
  [.configure, .create, .initialised, .install, .get, .release, .dropItem, .dropItem]

/-- It lives as long as the cycle. -/
theorem instances_safe_released :
    let released := exampleReleased.foldl step {}
    released.plugins = [] ∧ released.instances.destroyed = [] ∧ Safe released ∧
      (step released (.dropCopy 0)).instances.destroyed = [0] := by
  have hrun : Run step Start ({} : PluginSwitcher) [] := .init rfl
  exact ⟨by decide, by decide, instances_safe (hrun.foldl exampleReleased), by decide⟩

end EasyNav.PluginLifetimes
