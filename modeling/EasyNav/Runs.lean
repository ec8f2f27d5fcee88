/-!
Runs of a deterministic machine whose inputs carry every choice of the
environment. A run is indexed by the state reached and by its history, newest
step first; a step is recorded as the state it started from and its input.
-/

namespace EasyNav.Runs

universe u v w

variable {σ : Type u} {ε : Type v}

inductive Run (step : σ → ε → σ) (start : σ → Prop) : σ → List (σ × ε) → Prop
  | init {s : σ} (h : start s) : Run step start s []
  | next {s : σ} {past : List (σ × ε)} (h : Run step start s past) (e : ε) :
      Run step start (step s e) ((s, e) :: past)

variable {step : σ → ε → σ} {start : σ → Prop}

/-- The invariant rule: what the start satisfies and every allowed step keeps,
every run of allowed steps satisfies. -/
theorem Run.invariant {motive : σ → Prop} (allowed : σ → ε → Prop)
    (hstart : ∀ s, start s → motive s)
    (hstep : ∀ s e, motive s → allowed s e → motive (step s e))
    {s : σ} {past : List (σ × ε)} (hrun : Run step start s past)
    (hallowed : ∀ p ∈ past, allowed p.1 p.2) : motive s := by
  induction hrun with
  | init h => exact hstart _ h
  | next hrun e ih =>
      have hlast := hallowed _ List.mem_cons_self
      exact hstep _ e (ih fun p hp => hallowed p (List.mem_cons_of_mem _ hp)) hlast

/-- The invariant rule when every step is allowed. -/
theorem Run.invariant_of_all {motive : σ → Prop}
    (hstart : ∀ s, start s → motive s) (hstep : ∀ s e, motive s → motive (step s e))
    {s : σ} {past : List (σ × ε)} (hrun : Run step start s past) : motive s :=
  hrun.invariant (fun _ _ => True) hstart
    (fun s e hs _ => hstep s e hs) (fun _ _ => trivial)

/-- The invariant rule for a property of the state and its history. -/
theorem Run.history_invariant {motive : σ → List (σ × ε) → Prop}
    (allowed : σ → ε → Prop)
    (hstart : ∀ s, start s → motive s [])
    (hstep : ∀ s e past, motive s past → allowed s e → motive (step s e) ((s, e) :: past))
    {s : σ} {past : List (σ × ε)} (hrun : Run step start s past)
    (hallowed : ∀ p ∈ past, allowed p.1 p.2) : motive s past := by
  induction hrun with
  | init h => exact hstart _ h
  | next hrun e ih =>
      have hlast := hallowed _ List.mem_cons_self
      exact hstep _ e _ (ih fun p hp => hallowed p (List.mem_cons_of_mem _ hp)) hlast

def reached (s : σ) (past : List (σ × ε)) : List σ := s :: past.map Prod.fst

/-- The rule for an exact condition: if a step from a good state leads to a good state
exactly when it is allowed, a run has reached good states only exactly when all its steps
were allowed. -/
theorem Run.forall_reached_iff (motive good : σ → Prop) (allowed : σ → ε → Prop)
    (hstart : ∀ s, start s → motive s ∧ good s)
    (hstep : ∀ s e, motive s → good s →
      (allowed s e → motive (step s e)) ∧ (good (step s e) ↔ allowed s e))
    {s : σ} {past : List (σ × ε)} (hrun : Run step start s past) :
    (∀ s' ∈ reached s past, good s') ↔ ∀ p ∈ past, allowed p.1 p.2 := by
  have h : ((∀ s' ∈ reached s past, good s') ↔ ∀ p ∈ past, allowed p.1 p.2) ∧
      ((∀ p ∈ past, allowed p.1 p.2) → motive s) := by
    induction hrun with
    | init h =>
        obtain ⟨hmotive, hgood⟩ := hstart _ h
        exact ⟨by simpa [reached] using hgood, fun _ => hmotive⟩
    | @next s past hrun e ih =>
        obtain ⟨hiff, hmotive⟩ := ih
        have hsplit : (∀ s' ∈ reached (step s e) ((s, e) :: past), good s') ↔
            good (step s e) ∧ ∀ s' ∈ reached s past, good s' := List.forall_mem_cons
        rw [hsplit, hiff, List.forall_mem_cons]
        refine ⟨and_congr_left fun hpast => ?_, fun hall => ?_⟩
        · exact (hstep s e (hmotive hpast) (hiff.mpr hpast s List.mem_cons_self)).2
        · exact (hstep s e (hmotive hall.2) (hiff.mpr hall.2 s List.mem_cons_self)).1 hall.1
  exact h.1

/-- The history of a run that goes on with these inputs. -/
def history (step : σ → ε → σ) : σ → List ε → List (σ × ε) → List (σ × ε)
  | _, [], past => past
  | s, e :: inputs, past => history step (step s e) inputs ((s, e) :: past)

theorem Run.foldl {s : σ} {past : List (σ × ε)} (hrun : Run step start s past)
    (inputs : List ε) : Run step start (inputs.foldl step s) (history step s inputs past) := by
  induction inputs generalizing s past with
  | nil => exact hrun
  | cons e inputs ih => exact ih (hrun.next e)

theorem Run.mono {start' : σ → Prop} (hstart : ∀ s, start s → start' s) {s : σ}
    {past : List (σ × ε)} (hrun : Run step start s past) : Run step start' s past := by
  induction hrun with
  | init h => exact .init (hstart _ h)
  | next _ e ih => exact ih.next e

theorem Run.append {s s' : σ} {past more : List (σ × ε)} (hrun : Run step start s past)
    (hmore : Run step (· = s) s' more) : Run step start s' (more ++ past) := by
  induction hmore with
  | init h =>
      rw [h]
      exact hrun
  | next _ e ih => exact ih.next e

theorem Run.before {s s' : σ} {e : ε} {newer older : List (σ × ε)}
    (hrun : Run step start s (newer ++ (s', e) :: older)) : Run step start s' older := by
  generalize hpast : newer ++ (s', e) :: older = past at hrun
  induction hrun generalizing newer with
  | init h => simp at hpast
  | next hrun e' ih =>
      cases newer with
      | nil =>
          obtain ⟨heq, rfl⟩ := List.cons.inj hpast
          obtain ⟨rfl, -⟩ := Prod.mk.inj heq
          exact hrun
      | cons p newer => exact ih (List.cons.inj hpast).2

theorem Run.last {s s' : σ} {e : ε} {past : List (σ × ε)}
    (hrun : Run step start s ((s', e) :: past)) :
    s = step s' e ∧ Run step start s' past := by
  cases hrun with
  | next h e => exact ⟨rfl, h⟩

section Counters

def total (count : σ → ε → Nat) : List (σ × ε) → Nat
  | [] => 0
  | (s, e) :: past => count s e + total count past

theorem add_ofNat_ne {a : UInt64} {n : Nat} (hpos : 0 < n) (hlt : n < UInt64.size) :
    a + UInt64.ofNat n ≠ a := by
  intro h
  rw [UInt64.size] at hlt
  have hnat := congrArg UInt64.toNat h
  have ha := a.toNat_lt
  rw [UInt64.toNat_add, UInt64.toNat_ofNat_of_lt' hlt] at hnat
  omega

variable {α : Type w} {counter : σ → UInt64} {view : σ → α} (count : σ → ε → Nat)

/-- How far the counter is from where it was in a state reached before. -/
theorem Run.counter_eq
    (hcounter : ∀ s e, counter (step s e) = counter s + UInt64.ofNat (count s e))
    (hview : ∀ s e, count s e = 0 → view (step s e) = view s) {s s' : σ}
    {past : List (σ × ε)} (hrun : Run step start s past) (hreached : s' ∈ reached s past) :
    ∃ n ≤ total count past, counter s = counter s' + UInt64.ofNat n ∧
      (n = 0 → view s = view s') := by
  induction hrun with
  | init h =>
      obtain rfl := List.mem_singleton.mp hreached
      exact ⟨0, Nat.zero_le _, (UInt64.add_zero _).symm, fun _ => rfl⟩
  | @next s past hrun e ih =>
      rcases List.mem_cons.mp hreached with rfl | hreached
      · exact ⟨0, Nat.zero_le _, (UInt64.add_zero _).symm, fun _ => rfl⟩
      · obtain ⟨n, hle, hn, hsame⟩ := ih hreached
        rw [total]
        refine ⟨n + count s e, by omega, ?_, fun hzero => ?_⟩
        · rw [hcounter, hn, UInt64.ofNat_add, UInt64.add_assoc]
        · rw [hview s e (by omega), hsame (by omega)]

theorem Run.newest_eq_of_counter_eq
    (hcounter : ∀ s e, counter (step s e) = counter s + UInt64.ofNat (count s e))
    (hview : ∀ s e, count s e = 0 → view (step s e) = view s) {s s' : σ}
    {past : List (σ × ε)} (hrun : Run step start s past) (hfew : total count past < UInt64.size)
    (hreached : s' ∈ reached s past) (heq : counter s = counter s') : view s = view s' := by
  obtain ⟨n, hle, hn, hsame⟩ := hrun.counter_eq count hcounter hview hreached
  rcases Nat.eq_zero_or_pos n with hzero | hpos
  · exact hsame hzero
  · exact absurd (hn.symm.trans heq) (add_ofNat_ne hpos (by omega))

/-- The rule for a counter that wraps: while less than all its values have been counted,
it tells apart any two states that differ in what is counted. -/
theorem Run.eq_of_counter_eq
    (hcounter : ∀ s e, counter (step s e) = counter s + UInt64.ofNat (count s e))
    (hview : ∀ s e, count s e = 0 → view (step s e) = view s) {s : σ}
    {past : List (σ × ε)} (hrun : Run step start s past) (hfew : total count past < UInt64.size) :
    ∀ a ∈ reached s past, ∀ b ∈ reached s past, counter a = counter b → view a = view b := by
  induction hrun with
  | init h =>
      intro a ha b hb _
      rw [List.mem_singleton.mp ha, List.mem_singleton.mp hb]
  | @next s past hrun e ih =>
      have hless : total count past < UInt64.size := by
        rw [total] at hfew
        omega
      intro a ha b hb heq
      rcases List.mem_cons.mp ha with rfl | ha'
      · exact (hrun.next e).newest_eq_of_counter_eq count hcounter hview hfew hb heq
      · rcases List.mem_cons.mp hb with rfl | hb'
        · symm
          exact (hrun.next e).newest_eq_of_counter_eq count hcounter hview hfew ha heq.symm
        · exact ih hless a ha' b hb' heq

end Counters

end EasyNav.Runs
