import Mathlib.Data.List.Basic

namespace EasyNav.MessageChannels

universe u v

abbrev Channels (P : Type u) (M : Type v) := P → P → List M

namespace Channels

variable {P : Type u} {M : Type v} [DecidableEq P]

def Quiet (channels : Channels P M) : Prop := ∀ sender receiver, channels sender receiver = []

def broadcast (channels : Channels P M) (sender : P) (msgs : List M) : Channels P M :=
  fun a b => if a = sender then channels a b ++ msgs else channels a b

def consume (channels : Channels P M) (sender receiver : P) : Channels P M :=
  fun a b => if a = sender ∧ b = receiver then (channels a b).tail else channels a b

def Carries (channels : Channels P M) (p : P → P → M → Prop) : Prop :=
  ∀ sender receiver, ∀ msg ∈ channels sender receiver, p sender receiver msg

variable (channels : Channels P M) (sender receiver : P) (msgs : List M)

@[simp] theorem broadcast_self :
    channels.broadcast sender msgs sender receiver = channels sender receiver ++ msgs := by
  simp [broadcast]

theorem broadcast_of_ne {other : P} (h : other ≠ sender) :
    channels.broadcast sender msgs other receiver = channels other receiver := by
  simp [broadcast, h]

@[simp] theorem consume_self :
    channels.consume sender receiver sender receiver = (channels sender receiver).tail := by
  simp [consume]

theorem consume_of_sender_ne {other : P} (h : other ≠ sender) (b : P) :
    channels.consume sender receiver other b = channels other b := by
  simp [consume, h]

theorem consume_of_receiver_ne {other : P} (h : other ≠ receiver) (a : P) :
    channels.consume sender receiver a other = channels a other := by
  simp [consume, h]

variable {channels} {p : P → P → M → Prop}

theorem Carries.broadcast (h : channels.Carries p) {sender : P} {msgs : List M}
    (hmsgs : ∀ receiver, ∀ msg ∈ msgs, p sender receiver msg) :
    (channels.broadcast sender msgs).Carries p := by
  intro a b msg hmsg
  unfold Channels.broadcast at hmsg
  split at hmsg
  · rename_i hsender
    subst hsender
    rcases List.mem_append.mp hmsg with hmsg | hmsg
    · exact h a b msg hmsg
    · exact hmsgs b msg hmsg
  · exact h a b msg hmsg

theorem Carries.consume (h : channels.Carries p) (sender receiver : P) :
    (channels.consume sender receiver).Carries p := by
  intro a b msg hmsg
  unfold Channels.consume at hmsg
  split at hmsg
  · exact h a b msg (List.mem_of_mem_tail hmsg)
  · exact h a b msg hmsg

end Channels

end EasyNav.MessageChannels
