import Mathlib.Data.List.Basic

namespace EasyNav.DelimitedText

universe u v w

variable {σ : Type u} {α : Type v} {β : Type w}

def SelfDelimiting (format : α → List σ) : Prop :=
  ∀ a b r s, format a ++ r = format b ++ s → a = b ∧ r = s

def StartsWith (symbols : σ → Prop) (text : List σ) : Prop :=
  ∃ c rest, text = c :: rest ∧ symbols c

def DelimitedBy (stops : σ → Prop) (format : α → List σ) : Prop :=
  ∀ a b r s, StartsWith stops r → StartsWith stops s →
    format a ++ r = format b ++ s → a = b ∧ r = s

section Formats

variable {stops : σ → Prop} {format : α → List σ}

theorem StartsWith.append {text : List σ} (h : StartsWith stops text) (more : List σ) :
    StartsWith stops (text ++ more) := by
  obtain ⟨c, rest, rfl, hc⟩ := h
  exact ⟨c, rest ++ more, rfl, hc⟩

theorem SelfDelimiting.delimitedBy (h : SelfDelimiting format) : DelimitedBy stops format :=
  fun a b r s _ _ heq => h a b r s heq

theorem SelfDelimiting.of_read {read : List σ → Option (α × List σ)}
    (h : ∀ a r, read (format a ++ r) = some (a, r)) : SelfDelimiting format := by
  intro a b r s heq
  have hread : some (a, r) = some (b, s) := by rw [← h a r, ← h b s, heq]
  have hpair := Option.some.inj hread
  exact ⟨congrArg Prod.fst hpair, congrArg Prod.snd hpair⟩

/-- Two texts without a stop that end where the first one follows. -/
theorem append_inj_of_stops {x y r s : List σ} (hx : ∀ c ∈ x, ¬ stops c)
    (hy : ∀ c ∈ y, ¬ stops c) (hr : StartsWith stops r) (hs : StartsWith stops s)
    (heq : x ++ r = y ++ s) : x = y ∧ r = s := by
  induction x generalizing y with
  | nil =>
      cases y with
      | nil => exact ⟨rfl, heq⟩
      | cons c y =>
          obtain ⟨d, t, rfl, hd⟩ := hr
          obtain rfl := (List.cons.inj heq).1
          exact absurd hd (hy d List.mem_cons_self)
  | cons c x ih =>
      cases y with
      | nil =>
          obtain ⟨d, t, rfl, hd⟩ := hs
          obtain rfl := (List.cons.inj heq).1
          exact absurd hd (hx c List.mem_cons_self)
      | cons d y =>
          obtain ⟨rfl, htail⟩ := List.cons.inj heq
          obtain ⟨rfl, hrest⟩ := ih (fun e he => hx e (List.mem_cons_of_mem _ he))
            (fun e he => hy e (List.mem_cons_of_mem _ he)) htail
          exact ⟨rfl, hrest⟩

theorem DelimitedBy.of_injective (hinj : Function.Injective format)
    (hclean : ∀ a, ∀ c ∈ format a, ¬ stops c) : DelimitedBy stops format := by
  intro a b r s hr hs heq
  obtain ⟨hab, hrest⟩ := append_inj_of_stops (hclean a) (hclean b) hr hs heq
  exact ⟨hinj hab, hrest⟩

theorem DelimitedBy.terminated (h : DelimitedBy stops format) {ending : List σ}
    (hending : StartsWith stops ending) : SelfDelimiting fun a => format a ++ ending := by
  intro a b r s heq
  dsimp only at heq
  rw [List.append_assoc, List.append_assoc] at heq
  obtain ⟨hab, hrest⟩ := h a b _ _ (hending.append r) (hending.append s) heq
  exact ⟨hab, List.append_cancel_left hrest⟩

theorem SelfDelimiting.after (h : SelfDelimiting format) (opening : List σ) :
    SelfDelimiting fun a => opening ++ format a := by
  intro a b r s heq
  dsimp only at heq
  rw [List.append_assoc, List.append_assoc] at heq
  exact h a b r s (List.append_cancel_left heq)

theorem DelimitedBy.after (h : DelimitedBy stops format) (opening : List σ) :
    DelimitedBy stops fun a => opening ++ format a := by
  intro a b r s hr hs heq
  dsimp only at heq
  rw [List.append_assoc, List.append_assoc] at heq
  exact h a b r s hr hs (List.append_cancel_left heq)

theorem SelfDelimiting.tagged {kind : α → β} {tag : β → List σ} {body : α → List σ}
    (htag : SelfDelimiting tag)
    (hbody : ∀ a b r s, kind a = kind b → body a ++ r = body b ++ s → a = b ∧ r = s) :
    SelfDelimiting fun a => tag (kind a) ++ body a := by
  intro a b r s heq
  dsimp only at heq
  rw [List.append_assoc, List.append_assoc] at heq
  obtain ⟨hkind, hrest⟩ := htag _ _ _ _ heq
  exact hbody a b r s hkind hrest

theorem SelfDelimiting.pair {first : α → List σ} {second : β → List σ}
    (hfirst : SelfDelimiting first) (hsecond : SelfDelimiting second) :
    SelfDelimiting fun p : α × β => first p.1 ++ second p.2 := by
  apply SelfDelimiting.tagged hfirst
  intro p q r s hkind heq
  obtain ⟨hsnd, hrest⟩ := hsecond _ _ _ _ heq
  exact ⟨Prod.ext hkind hsnd, hrest⟩

end Formats

section Lists

variable {stops : σ → Prop} {format : α → List σ} {close : σ}

theorem SelfDelimiting.flatMap_injective (h : SelfDelimiting format)
    (hne : ∀ a, format a ≠ []) : Function.Injective fun xs : List α => xs.flatMap format := by
  intro xs
  induction xs with
  | nil =>
      intro ys heq
      cases ys with
      | nil => rfl
      | cons y ys =>
          have hnil := (List.append_eq_nil_iff.mp heq.symm).1
          exact absurd hnil (hne y)
  | cons x xs ih =>
      intro ys heq
      cases ys with
      | nil =>
          have hnil := (List.append_eq_nil_iff.mp heq).1
          exact absurd hnil (hne x)
      | cons y ys =>
          obtain ⟨rfl, hrest⟩ := h x y _ _ heq
          rw [ih hrest]

/-- Texts one after the other, up to the closing symbol. -/
def closed (format : α → List σ) (close : σ) (xs : List α) : List σ :=
  xs.flatMap format ++ [close]

theorem closed_cons (x : α) (xs : List α) :
    closed format close (x :: xs) = format x ++ closed format close xs := by
  rw [closed, closed, List.flatMap_cons, List.append_assoc]

theorem closed_startsWith (hclose : stops close)
    (hstart : ∀ a, StartsWith stops (format a)) (xs : List α) :
    StartsWith stops (closed format close xs) := by
  cases xs with
  | nil => exact ⟨close, [], rfl, hclose⟩
  | cons x xs =>
      rw [closed_cons]
      exact (hstart x).append _

/-- The closing symbol is told from the texts, none of which starts with it. -/
theorem DelimitedBy.closed (h : DelimitedBy stops format) (hclose : stops close)
    (hstart : ∀ a, StartsWith (fun c => stops c ∧ c ≠ close) (format a)) :
    SelfDelimiting (closed format close) := by
  have hstops : ∀ xs r, StartsWith stops (DelimitedText.closed format close xs ++ r) := by
    intro xs r
    refine (closed_startsWith hclose ?_ xs).append r
    intro a
    obtain ⟨c, rest, ha, hc, -⟩ := hstart a
    exact ⟨c, rest, ha, hc⟩
  intro xs
  induction xs with
  | nil =>
      intro ys r s heq
      cases ys with
      | nil => exact ⟨rfl, (List.cons.inj heq).2⟩
      | cons y ys =>
          obtain ⟨c, rest, hy, -, hne⟩ := hstart y
          rw [closed_cons, hy] at heq
          exact absurd (List.cons.inj heq).1.symm hne
  | cons x xs ih =>
      intro ys r s heq
      cases ys with
      | nil =>
          obtain ⟨c, rest, hx, -, hne⟩ := hstart x
          rw [closed_cons, hx] at heq
          exact absurd (List.cons.inj heq).1 hne
      | cons y ys =>
          rw [closed_cons, closed_cons, List.append_assoc, List.append_assoc] at heq
          obtain ⟨rfl, hrest⟩ := h x y _ _ (hstops xs r) (hstops ys s) heq
          obtain ⟨rfl, hrs⟩ := ih ys r s hrest
          exact ⟨rfl, hrs⟩

/-- The items with a separator between them, up to the closing symbol. -/
def separated (separator : List σ) (format : α → List σ) (close : σ) : List α → List σ
  | [] => [close]
  | x :: xs => format x ++ closed (fun y => separator ++ format y) close xs

theorem DelimitedBy.separated (h : DelimitedBy stops format) (hclose : stops close)
    {separator : List σ} (hseparator : StartsWith (fun c => stops c ∧ c ≠ close) separator)
    (hstart : ∀ a, StartsWith (fun c => c ≠ close) (format a)) :
    SelfDelimiting (separated separator format close) := by
  have hmore := (h.after separator).closed hclose fun a => hseparator.append (format a)
  have hstops : ∀ xs r, StartsWith stops
      (DelimitedText.closed (fun y => separator ++ format y) close xs ++ r) := by
    intro xs r
    refine (closed_startsWith hclose ?_ xs).append r
    intro a
    obtain ⟨c, rest, ha, hc, -⟩ := hseparator.append (format a)
    exact ⟨c, rest, ha, hc⟩
  intro xs ys r s heq
  cases xs with
  | nil =>
      cases ys with
      | nil => exact ⟨rfl, (List.cons.inj heq).2⟩
      | cons y ys =>
          obtain ⟨c, rest, hy, hne⟩ := hstart y
          rw [DelimitedText.separated, DelimitedText.separated, hy] at heq
          exact absurd (List.cons.inj heq).1.symm hne
  | cons x xs =>
      cases ys with
      | nil =>
          obtain ⟨c, rest, hx, hne⟩ := hstart x
          rw [DelimitedText.separated, DelimitedText.separated, hx] at heq
          exact absurd (List.cons.inj heq).1 hne
      | cons y ys =>
          rw [DelimitedText.separated, DelimitedText.separated, List.append_assoc,
            List.append_assoc] at heq
          obtain ⟨rfl, hrest⟩ := h x y _ _ (hstops xs r) (hstops ys s) heq
          obtain ⟨rfl, hrs⟩ := hmore xs ys r s hrest
          exact ⟨rfl, hrs⟩

end Lists

end EasyNav.DelimitedText
