/-!
Reports of changes. A check shows what it finds when that differs from what it reported
last, and at first only if it does not go without saying. What is shown stays until the
next report, also when the check forgets what it reported.
-/

namespace EasyNav.ChangeReports

universe u v

variable {α : Type u} {δ : Type v}

/-- What was reported last, as far as the check remembers, and what is shown. -/
structure Board (α : Type u) (δ : Type v) where
  last : Option α
  shown : Option δ

structure Reporting (α : Type u) (δ : Type v) where
  same : α → α → Prop
  quiet : α → Prop
  renders : α → δ → Prop
  renders_of_same : ∀ {a b d}, same a b → renders a d → renders b d

namespace Reporting

variable (reporting : Reporting α δ)

def News (board : Board α δ) (found : α) : Prop :=
  match board.last with
  | none => ¬ reporting.quiet found
  | some last => ¬ reporting.same last found

def Tells (board : Board α δ) (found : α) : Prop :=
  match board.shown with
  | none => reporting.quiet found
  | some shown => reporting.renders found shown

def Faithful (board : Board α δ) : Prop :=
  ∀ last ∈ board.last, ∃ shown ∈ board.shown, reporting.renders last shown

structure Checked (found : α) (board board' : Board α δ) : Prop where
  report : reporting.News board found →
    board'.last = some found ∧ ∃ shown ∈ board'.shown, reporting.renders found shown
  keep : ¬ reporting.News board found → board' = board

variable {reporting} {found : α} {board board' : Board α δ}

theorem not_news_iff : ¬ reporting.News board found ↔
    (∃ last ∈ board.last, reporting.same last found) ∨
      board.last = none ∧ reporting.quiet found := by
  rw [News]
  cases board.last with
  | none => simp
  | some last => simp

theorem Checked.of_old (h : ¬ reporting.News board found) :
    reporting.Checked found board board :=
  ⟨fun hnews => absurd hnews h, fun _ => rfl⟩

theorem Checked.of_news (h : reporting.News board found) {shown : δ}
    (hrenders : reporting.renders found shown) :
    reporting.Checked found board ⟨some found, some shown⟩ :=
  ⟨fun _ => ⟨rfl, shown, rfl, hrenders⟩, fun hold => absurd h hold⟩

theorem Tells.of_shown {shown : δ} (h : shown ∈ board.shown)
    (hrenders : reporting.renders found shown) :
    reporting.Tells board found := by
  rw [Tells, h]
  exact hrenders

theorem Checked.faithful (hchecked : reporting.Checked found board board')
    (h : reporting.Faithful board) : reporting.Faithful board' := by
  by_cases hnews : reporting.News board found
  · obtain ⟨hlast, hshown⟩ := hchecked.report hnews
    intro last hmem
    obtain rfl := Option.some.inj (hlast.symm.trans hmem)
    exact hshown
  · rw [hchecked.keep hnews]
    exact h

/-- A check that remembers what it reported tells what it finds. One that remembers nothing
leaves what was shown before, if the finding goes without saying. -/
theorem Checked.tells_iff (hchecked : reporting.Checked found board board')
    (h : reporting.Faithful board) :
    reporting.Tells board' found ↔
      (board.last = none → reporting.quiet found → reporting.Tells board found) := by
  by_cases hnews : reporting.News board found
  · obtain ⟨-, shown, hshown, hrenders⟩ := hchecked.report hnews
    refine iff_of_true (.of_shown hshown hrenders) fun hnone hquiet => ?_
    rw [News, hnone] at hnews
    exact absurd hquiet hnews
  · rw [hchecked.keep hnews]
    refine ⟨fun htells _ _ => htells, fun htells => ?_⟩
    rw [News] at hnews
    cases hlast : board.last with
    | none =>
        rw [hlast] at hnews
        exact htells hlast (Classical.not_not.mp hnews)
    | some last =>
        rw [hlast] at hnews
        obtain ⟨shown, hshown, hrenders⟩ := h last hlast
        exact .of_shown hshown (reporting.renders_of_same (Classical.not_not.mp hnews) hrenders)

theorem Checked.tells_of_unshown (hchecked : reporting.Checked found board board')
    (h : reporting.Faithful board) (hunshown : board.last = none → board.shown = none) :
    reporting.Tells board' found := by
  refine (hchecked.tells_iff h).mpr fun hnone hquiet => ?_
  rw [Tells, hunshown hnone]
  exact hquiet

theorem Checked.tells_of_loud (hchecked : reporting.Checked found board board')
    (h : reporting.Faithful board) (hloud : ¬ reporting.quiet found) :
    reporting.Tells board' found :=
  (hchecked.tells_iff h).mpr fun _ hquiet => absurd hquiet hloud

theorem Checked.unshown (hchecked : reporting.Checked found board board')
    (hunshown : board.last = none → board.shown = none) :
    board'.last = none → board'.shown = none := by
  by_cases hnews : reporting.News board found
  · intro hnone
    rw [(hchecked.report hnews).1] at hnone
    cases hnone
  · rw [hchecked.keep hnews]
    exact hunshown

def Checks (reporting : Reporting α δ) (found : Option α) (board board' : Board α δ) : Prop :=
  match found with
  | none => board' = board
  | some found => reporting.Checked found board board'

theorem Checks.keeps {found : Option α} (hchecks : reporting.Checks found board board')
    {motive : Board α δ → Prop}
    (hchecked : ∀ found, reporting.Checked found board board' → motive board')
    (h : motive board) : motive board' := by
  cases found with
  | none =>
      obtain rfl : board' = board := hchecks
      exact h
  | some found => exact hchecked found hchecks

end Reporting

end EasyNav.ChangeReports
