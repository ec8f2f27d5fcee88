import Mathlib.Logic.Function.Basic

namespace EasyNav.TypedStores

universe u v w x

/-- The state something leaves, and what it returns unless it throws. -/
abbrev Attempt (σ : Type u) (ε : Type v) (α : Type w) := σ × Except ε α

namespace Attempt

variable {σ : Type u} {ε : Type v} {α β : Type w}

def andThen (attempt : Attempt σ ε α) (next : σ → α → Attempt σ ε β) : Attempt σ ε β :=
  match attempt with
  | (s, .ok a) => next s a
  | (s, .error e) => (s, .error e)

def Throws (attempt : Attempt σ ε α) : Prop := ∃ e, attempt.2 = .error e

/-- It returns, and leaves such a state. -/
def Ensures (attempt : Attempt σ ε α) (post : σ → Prop) : Prop :=
  ¬ attempt.Throws ∧ post attempt.1

variable {post : σ → Prop} {s : σ} {a : α} {e : ε}

@[simp] theorem not_throws_ok : ¬ Throws (s, (.ok a : Except ε α)) := by
  rintro ⟨e, h⟩
  contradiction

@[simp] theorem throws_error : Throws (s, (.error e : Except ε α)) := ⟨e, rfl⟩

@[simp] theorem ensures_ok_iff : Ensures (s, (.ok a : Except ε α)) post ↔ post s :=
  and_iff_right not_throws_ok

@[simp] theorem not_ensures_error : ¬ Ensures (s, (.error e : Except ε α)) post :=
  fun h => h.1 throws_error

theorem andThen_state {motive : σ → Prop} {attempt : Attempt σ ε α}
    {next : σ → α → Attempt σ ε β} (h : motive attempt.1)
    (hnext : ∀ a, motive (next attempt.1 a).1) : motive (attempt.andThen next).1 := by
  rcases attempt with ⟨s, result⟩
  cases result with
  | ok a => exact hnext a
  | error e => exact h

theorem ensures_andThen_iff {attempt : Attempt σ ε α} {next : σ → α → Attempt σ ε β}
    (mid : σ → Prop) (asked : Prop)
    (hnext : ∀ a, (next attempt.1 a).Ensures post ↔ mid attempt.1 ∧ asked) :
    (attempt.andThen next).Ensures post ↔ attempt.Ensures mid ∧ asked := by
  rcases attempt with ⟨s, result⟩
  cases result with
  | ok a =>
      rw [ensures_ok_iff]
      exact hnext a
  | error e => exact iff_of_false not_ensures_error fun h => not_ensures_error h.1

end Attempt

section Stores

variable {κ : Type u} {τ : Type v} {ε : Type w}

abbrev Store (κ : Type u) (ε : Type w) := κ → Option ε

structure Mismatch (κ : Type u) (τ : Type v) where
  key : κ
  stored : τ
  provided : τ
  deriving DecidableEq

namespace Store

/-- All that is stored has the type of its key. -/
def Agrees (store : Store κ ε) (typeOf : ε → τ) (types : κ → τ) : Prop :=
  ∀ key entry, store key = some entry → types key = typeOf entry

variable {store : Store κ ε} {typeOf : ε → τ} {types : κ → τ} {key : κ} {entry : ε}

theorem exists_agrees [Inhabited τ] : ∃ types, Agrees store typeOf types := by
  refine ⟨fun key => ((store key).map typeOf).getD default, fun key entry h => ?_⟩
  change ((store key).map typeOf).getD default = _
  rw [h]
  rfl

theorem fits_or_mismatch (store : Store κ ε) (typeOf : ε → τ) (key : κ) (entry : ε) :
    (∀ stored, store key = some stored → typeOf stored = typeOf entry) ∨
      ∃ stored, store key = some stored ∧ typeOf stored ≠ typeOf entry := by
  by_cases h : ∃ stored, store key = some stored ∧ typeOf stored ≠ typeOf entry
  · exact Or.inr h
  · left
    intro stored hstored
    by_contra hne
    exact h ⟨stored, hstored, hne⟩

variable [DecidableEq κ]

theorem agrees_update_iff
    (hfits : ∀ stored, store key = some stored → typeOf stored = typeOf entry) :
    Agrees (Function.update store key (some entry)) typeOf types ↔
      Agrees store typeOf types ∧ types key = typeOf entry := by
  constructor
  · intro h
    have hkey : types key = typeOf entry := h key entry (Function.update_self ..)
    refine ⟨fun other stored hstored => ?_, hkey⟩
    by_cases heq : other = key
    · subst heq
      exact hkey.trans (hfits stored hstored).symm
    · exact h other stored ((Function.update_of_ne heq _ _).trans hstored)
  · rintro ⟨h, hkey⟩ other stored hstored
    by_cases heq : other = key
    · subst heq
      rw [Function.update_self] at hstored
      obtain rfl := Option.some.inj hstored
      exact hkey
    · rw [Function.update_of_ne heq] at hstored
      exact h other stored hstored

variable [DecidableEq τ]

def set (store : Store κ ε) (typeOf : ε → τ) (key : κ) (entry : ε) :
    Attempt (Store κ ε) (Mismatch κ τ) Unit :=
  match store key with
  | none => (Function.update store key (some entry), .ok ())
  | some stored =>
      if typeOf stored ≠ typeOf entry then
        (store, .error { key := key, stored := typeOf stored, provided := typeOf entry })
      else (Function.update store key (some entry), .ok ())

theorem set_of_fits
    (hfits : ∀ stored, store key = some stored → typeOf stored = typeOf entry) :
    store.set typeOf key entry = (Function.update store key (some entry), .ok ()) := by
  unfold set
  cases hstored : store key with
  | none => rfl
  | some stored => exact if_neg (not_not.mpr (hfits stored hstored))

theorem set_of_mismatch {stored : ε} (hstored : store key = some stored)
    (hne : typeOf stored ≠ typeOf entry) :
    (store.set typeOf key entry).1 = store ∧ (store.set typeOf key entry).Throws := by
  unfold set
  rw [hstored]
  dsimp only
  rw [if_pos hne]
  exact ⟨rfl, Attempt.throws_error⟩

/-- Storing a value throws nothing just when some typing fits it and the store. -/
theorem set_ensures_iff :
    (store.set typeOf key entry).Ensures (fun store' => Agrees store' typeOf types) ↔
      Agrees store typeOf types ∧ types key = typeOf entry := by
  rcases fits_or_mismatch store typeOf key entry with hfits | ⟨stored, hstored, hne⟩
  · rw [set_of_fits hfits, Attempt.ensures_ok_iff]
    exact agrees_update_iff hfits
  · refine iff_of_false (fun h => h.1 (set_of_mismatch hstored hne).2) ?_
    rintro ⟨h, hkey⟩
    exact hne ((h key stored hstored).symm.trans hkey)

theorem set_agrees_iff :
    Agrees (store.set typeOf key entry).1 typeOf types ↔
      Agrees store typeOf types ∧ (store key = none → types key = typeOf entry) := by
  rcases fits_or_mismatch store typeOf key entry with hfits | ⟨stored, hstored, hne⟩
  · rw [set_of_fits hfits, agrees_update_iff hfits]
    refine and_congr_right fun h => ⟨fun hkey _ => hkey, fun hkey => ?_⟩
    cases hstored : store key with
    | none => exact hkey hstored
    | some stored => exact (h key stored hstored).trans (hfits stored hstored)
  · rw [(set_of_mismatch hstored hne).1]
    refine (and_iff_left fun hnone => ?_).symm
    rw [hstored] at hnone
    contradiction

end Store

end Stores

end EasyNav.TypedStores
