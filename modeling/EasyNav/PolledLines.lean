import EasyNav.TimingLogs
import Mathlib.Algebra.Order.Monoid.Prod
import Mathlib.Algebra.Order.Group.Int
import Mathlib.Data.List.ReduceOption

/-!
What the reader gets of the lines of the log, whatever it has seen of each at its polls.
-/

namespace EasyNav.PolledLines

open EasyNav.TraceLines
open EasyNav.TimingLogs

section Fragments

/-- The texts that the reader takes for lines: `none` is a poll between two characters. -/
def fragments (fragment : List Char) : List (Option Char) → List (List Char)
  | [] => []
  | none :: history => fragment :: fragments [] history
  | some c :: history =>
      if c = '\n' then (fragment ++ [c]) :: fragments [] history
      else fragments (fragment ++ [c]) history

def read (history : List (Option Char)) : List LogMatch :=
  (fragments [] history).filterMap logRe

theorem fragments_append (fragment : List Char) (t t' : List (Option Char)) :
    fragments fragment (t ++ some '\n' :: t') =
      fragments fragment (t ++ [some '\n']) ++ fragments [] t' := by
  induction t generalizing fragment with
  | nil => rfl
  | cons c t ih =>
      rw [List.cons_append, List.cons_append]
      cases c with
      | none => rw [fragments, fragments, ih, List.cons_append]
      | some c =>
          rw [fragments, fragments]
          split
          · rw [ih, List.cons_append]
          · exact ih _

theorem flatten_fragments (fragment : List Char) (t : List (Option Char)) :
    (fragments fragment (t ++ [some '\n'])).flatten =
      fragment ++ (t.reduceOption ++ ['\n']) := by
  induction t generalizing fragment with
  | nil => simp [fragments, List.reduceOption]
  | cons c t ih =>
      rw [List.cons_append]
      cases c with
      | none =>
          rw [fragments, List.flatten_cons, ih, List.nil_append, List.reduceOption_cons_of_none]
      | some c =>
          rw [fragments, List.reduceOption_cons_of_some]
          split
          · rw [List.flatten_cons, ih]
            simp
          · rw [ih]
            simp

theorem read_of_reduceOption_eq_nil {history : List (Option Char)}
    (h : history.reduceOption = []) : read history = [] := by
  induction history with
  | nil => rfl
  | cons c history ih =>
      cases c with
      | none =>
          rw [List.reduceOption_cons_of_none] at h
          rw [read, fragments, List.filterMap_cons_none rfl]
          exact ih h
      | some c =>
          rw [List.reduceOption_cons_of_some] at h
          cases h

end Fragments

section Cuts

variable {line : TraceLine}

/-- Cut off after some digits of its end, a line has the execution time of these digits. -/
def cutAt (line : TraceLine) (digits : List Char) : LogMatch :=
  { name := line.name, start := line.start, stop := digits }

/-- A poll that sees this much of the line, but not all of it, sees a digit of its end, and the
digits that it sees give the execution time of the line. -/
def Harmless (line : TraceLine) (seen : List Char) : Prop :=
  ∃ digits, digits ≠ [] ∧ seen = line.header ++ digits ∧
    (ofMatch (cutAt line digits)).execNs = (ofMatch line.groups).execNs

theorem le_foldl_int (digits : List Char) (value : Nat) :
    value ≤ digits.foldl (fun value c => 10 * value + (c.toNat - 48)) value := by
  induction digits generalizing value with
  | nil => exact le_rfl
  | cons c digits ih =>
      have hle : value ≤ 10 * value + (c.toNat - 48) := by omega
      exact hle.trans (ih _)

theorem execNs_cutAt_le (line : TraceLine) (digits more : List Char) :
    (ofMatch (cutAt line digits)).execNs ≤ (ofMatch (cutAt line (digits ++ more))).execNs := by
  have hle : int digits ≤ int (digits ++ more) := by
    rw [int, int, List.foldl_append]
    exact le_foldl_int more _
  exact max_le_max_left 0 (Int.sub_le_sub_right (Int.ofNat_le.mpr hle) _)

theorem newline_not_mem_body (line : TraceLine) : '\n' ∉ line.body := by
  have hspace : isSpace '\n' = true := by decide
  have hword : ∀ {run : List Char}, IsRun (!isSpace ·) run → '\n' ∉ run := by
    intro run hrun hmem
    have hclass := hrun.all _ hmem
    rw [hspace] at hclass
    cases hclass
  have hname := hword line.name_run
  have hstart := hword line.start_run.of_isDigit
  have hstop := hword line.stop_run.of_isDigit
  simp [TraceLine.body, TraceLine.header, hname, hstart, hstop]

def weight (sample : Sample) : ℕ ×ₗ ℤ := toLex (sample.name.length, sample.execNs)

def weigh (samples : List Sample) : ℕ ×ₗ ℤ := (samples.map weight).sum

def samplesIn (found : List LogMatch) : List Sample := found.map ofMatch

theorem ofLex_weigh_fst (found : List LogMatch) :
    (ofLex (weigh (samplesIn found))).1 = (found.map fun m => m.name.length).sum := by
  induction found with
  | nil => rfl
  | cons m found ih =>
      rw [List.map_cons, List.sum_cons, ← ih]
      rfl

theorem weigh_append (samples samples' : List Sample) :
    weigh (samples ++ samples') = weigh samples + weigh samples' := by
  rw [weigh, List.map_append, List.sum_append]
  rfl

/-- What is left of a line after a poll that has seen some of it. -/
theorem read_of_cut {seen : List Char} {fragments : List (List Char)} {rest : List Char}
    (hseen : seen ≠ []) (hbody : line.body = seen ++ rest)
    (h : fragments.flatten = rest ++ ['\n']) :
    (∃ digits, digits ≠ [] ∧ seen = line.header ++ digits ∧ line.stop = digits ++ rest ∧
      (seen :: fragments).filterMap logRe = [cutAt line digits]) ∨
    (¬ Harmless line seen ∧
      (((seen :: fragments).filterMap logRe).map fun m => m.name.length).sum <
        line.name.length) := by
  have hlost : ∀ left, line.header = seen ++ left → rest = left ++ line.stop →
      ¬ Harmless line seen ∧
        (((seen :: fragments).filterMap logRe).map fun m => m.name.length).sum <
          line.name.length := by
    intro left hheader hrest
    constructor
    · rintro ⟨digits, hdigits, hcut, -⟩
      have hlength := congrArg List.length hheader
      rw [hcut, List.length_append, List.length_append] at hlength
      have hpos := List.length_pos_iff.mpr hdigits
      omega
    · refine TraceLine.read_of_cut_in_header hseen hheader ?_
      rw [h, hrest, List.append_assoc]
  rw [TraceLine.body] at hbody
  rcases List.append_eq_append_iff.mp hbody with ⟨digits, hcut, hstop⟩ | ⟨left, hheader, hrest⟩
  · by_cases hdigits : digits = []
    · subst hdigits
      refine Or.inr (hlost [] ?_ hstop.symm)
      rw [hcut, List.append_nil, List.append_nil]
    · subst hcut
      exact Or.inl ⟨digits, hdigits, rfl, hstop,
        TraceLine.read_of_cut_in_stop hdigits hstop h⟩
  · exact Or.inr (hlost left hheader hrest)

/-- Every poll in the middle of the line is harmless, where `seen` has been seen of it. -/
def AllHarmless (line : TraceLine) (seen : List Char) (t : List (Option Char)) : Prop :=
  ∀ a b, t = a ++ none :: b → seen ++ a.reduceOption ≠ [] →
    Harmless line (seen ++ a.reduceOption)

theorem allHarmless_nil (seen : List Char) : AllHarmless line seen [] := by
  intro a b h
  cases a <;> cases h

theorem allHarmless_cons_some (seen : List Char) (c : Char) (t : List (Option Char)) :
    AllHarmless line seen (some c :: t) ↔ AllHarmless line (seen ++ [c]) t := by
  constructor
  · intro h a b hsplit
    have hshift := h (some c :: a) b (by rw [hsplit, List.cons_append])
    rwa [List.reduceOption_cons_of_some, List.append_cons] at hshift
  · intro h a b hsplit
    cases a with
    | nil => cases hsplit
    | cons d a =>
        obtain ⟨rfl, rfl⟩ := List.cons.inj hsplit
        rw [List.reduceOption_cons_of_some, List.append_cons]
        exact h a b rfl

theorem allHarmless_cons_none (seen : List Char) (t : List (Option Char)) :
    AllHarmless line seen (none :: t) ↔
      (seen ≠ [] → Harmless line seen) ∧ AllHarmless line seen t := by
  constructor
  · intro h
    refine ⟨fun hne => ?_, fun a b hsplit => ?_⟩
    · have hfirst := h [] t rfl
      rw [List.reduceOption_nil, List.append_nil] at hfirst
      exact hfirst hne
    · have hshift := h (none :: a) b (by rw [hsplit, List.cons_append])
      rwa [List.reduceOption_cons_of_none] at hshift
  · rintro ⟨hfirst, hrest⟩ a b hsplit
    cases a with
    | nil =>
        rw [List.reduceOption_nil, List.append_nil]
        exact hfirst
    | cons d a =>
        obtain ⟨rfl, rfl⟩ := List.cons.inj hsplit
        rw [List.reduceOption_cons_of_none]
        exact hrest a b rfl

theorem allHarmless_of_harmless {seen : List Char} {t : List (Option Char)}
    (h : Harmless line seen) (hbody : line.body = seen ++ t.reduceOption) :
    AllHarmless line seen t := by
  obtain ⟨digits, hdigits, rfl, hexec⟩ := h
  rw [TraceLine.body, List.append_assoc] at hbody
  have hstop := List.append_cancel_left hbody
  rintro a b rfl -
  rw [List.reduceOption_append, ← List.append_assoc] at hstop
  refine ⟨digits ++ a.reduceOption, List.append_ne_nil_of_left_ne_nil hdigits _,
    List.append_assoc _ _ _, le_antisymm ?_ ?_⟩
  · have hle := execNs_cutAt_le line (digits ++ a.reduceOption)
      (none :: b).reduceOption
    rwa [← hstop] at hle
  · rw [← hexec]
    exact execNs_cutAt_le line digits a.reduceOption

theorem weigh_cutAt (digits : List Char) :
    weigh (samplesIn [cutAt line digits]) =
      toLex (line.name.length, (ofMatch (cutAt line digits)).execNs) := by
  rw [weigh, samplesIn, List.map_singleton, List.map_singleton, List.sum_singleton]
  rfl

theorem weigh_lt_of_names {found : List LogMatch}
    (h : (found.map fun m => m.name.length).sum < line.name.length) :
    weigh (samplesIn found) < weight (ofMatch line.groups) := by
  rw [Prod.Lex.lt_iff, ofLex_weigh_fst]
  exact Or.inl h

/-- Where a poll comes in the middle of a line, its sample is what it should be if the poll is
harmless, and weighs less if it is not. -/
theorem read_of_poll {seen : List Char} {t : List (Option Char)} (hseen : seen ≠ [])
    (h : seen ++ t.reduceOption = line.body) :
    (samplesIn ((seen :: fragments [] (t ++ [some '\n'])).filterMap logRe)).map
          Sample.observed = [(ofMatch line.groups).observed] ∧ Harmless line seen ∨
      weigh (samplesIn ((seen :: fragments [] (t ++ [some '\n'])).filterMap logRe)) <
          weight (ofMatch line.groups) ∧ ¬ Harmless line seen := by
  have hflatten := flatten_fragments [] t
  rw [List.nil_append] at hflatten
  rcases read_of_cut hseen h.symm hflatten with ⟨digits, hdigits, hcut, hstop, hread⟩ |
    ⟨hharm, hnames⟩
  · rw [hread]
    have hle : (ofMatch (cutAt line digits)).execNs ≤ (ofMatch line.groups).execNs := by
      have hmore := execNs_cutAt_le line digits t.reduceOption
      rwa [← hstop] at hmore
    rcases hle.eq_or_lt with heq | hlt
    · refine Or.inl ⟨?_, digits, hdigits, hcut, heq⟩
      rw [samplesIn, List.map_singleton, List.map_singleton, Sample.observed, heq]
      rfl
    · refine Or.inr ⟨?_, ?_⟩
      · rw [weigh_cutAt, weight, Prod.Lex.toLex_lt_toLex]
        exact Or.inr ⟨rfl, hlt⟩
      · rintro ⟨digits', -, hcut', heq⟩
        rw [hcut] at hcut'
        rw [List.append_cancel_left hcut'] at hlt
        exact hlt.ne heq
  · exact Or.inr ⟨weigh_lt_of_names hnames, hharm⟩

theorem read_line {seen : List Char} {t : List (Option Char)}
    (h : seen ++ t.reduceOption = line.body) :
    (samplesIn ((fragments seen (t ++ [some '\n'])).filterMap logRe)).map Sample.observed =
          [(ofMatch line.groups).observed] ∧ AllHarmless line seen t ∨
      weigh (samplesIn ((fragments seen (t ++ [some '\n'])).filterMap logRe)) <
          weight (ofMatch line.groups) ∧ ¬ AllHarmless line seen t := by
  induction t generalizing seen with
  | nil =>
      rw [List.reduceOption_nil, List.append_nil] at h
      have hread : (fragments seen ([] ++ [some '\n'])).filterMap logRe = [line.groups] := by
        rw [List.nil_append, fragments, if_pos rfl, h]
        exact List.filterMap_cons_some line.logRe_text
      rw [hread]
      exact Or.inl ⟨rfl, allHarmless_nil seen⟩
  | cons c t ih =>
      rw [List.cons_append]
      cases c with
      | some c =>
          rw [List.reduceOption_cons_of_some, List.append_cons] at h
          have hc : c ≠ '\n' := by
            rintro rfl
            refine newline_not_mem_body line ?_
            rw [← h]
            simp
          rw [fragments, if_neg hc, allHarmless_cons_some]
          exact ih h
      | none =>
          rw [List.reduceOption_cons_of_none] at h
          rw [fragments, allHarmless_cons_none]
          by_cases hseen : seen = []
          · subst hseen
            have hnone : ([] : List Char) ≠ [] → Harmless line [] := fun hne => absurd rfl hne
            rw [List.filterMap_cons_none rfl, and_iff_right hnone]
            exact ih h
          · rcases read_of_poll hseen h with ⟨hread, hharm⟩ | ⟨hread, hharm⟩
            · exact Or.inl ⟨hread, fun _ => hharm, allHarmless_of_harmless hharm h.symm⟩
            · exact Or.inr ⟨hread, fun hall => hharm (hall.1 hseen)⟩

end Cuts

section Logs

def textOf (lines : List TraceLine) : List Char := lines.flatMap TraceLine.text

def samplesOfLines (lines : List TraceLine) : List Sample :=
  lines.map fun line => ofMatch line.groups

def HistoryHarmless (lines : List TraceLine) (history : List (Option Char)) : Prop :=
  ∀ a b, history = a ++ none :: b →
    ∀ before line after seen rest, lines = before ++ line :: after →
      line.text = seen ++ rest → seen ≠ [] → rest ≠ [] →
      a.reduceOption = textOf before ++ seen → Harmless line seen

variable {line : TraceLine} {lines : List TraceLine} {t t' : List (Option Char)}

theorem HistoryHarmless.head (hbody : t.reduceOption = line.body)
    (h : HistoryHarmless (line :: lines) (t ++ some '\n' :: t')) : AllHarmless line [] t := by
  rintro a b rfl hne
  rw [List.nil_append] at hne ⊢
  refine h a (b ++ some '\n' :: t') ?_ [] line lines a.reduceOption
    (b.reduceOption ++ ['\n']) rfl ?_ hne ?_ rfl
  · rw [List.append_assoc, List.cons_append]
  · rw [TraceLine.text, ← hbody, List.reduceOption_append, List.reduceOption_cons_of_none,
      List.append_assoc]
  · exact List.append_ne_nil_of_right_ne_nil _ (List.cons_ne_nil _ _)

theorem HistoryHarmless.tail (hbody : t.reduceOption = line.body)
    (h : HistoryHarmless (line :: lines) (t ++ some '\n' :: t')) : HistoryHarmless lines t' := by
  rintro a b rfl before line' after seen rest rfl htext hseen hrest hreduce
  refine h (t ++ some '\n' :: a) b ?_ (line :: before) line' after seen rest rfl htext hseen
    hrest ?_
  · rw [List.append_assoc, List.cons_append]
  · rw [List.reduceOption_append, List.reduceOption_cons_of_some, hbody, hreduce, textOf, textOf,
      List.flatMap_cons, TraceLine.text, List.append_assoc, List.append_assoc,
      List.singleton_append]

theorem poll_cases {a b : List (Option Char)} (h : t ++ some '\n' :: t' = a ++ none :: b) :
    (∃ b', t = a ++ none :: b') ∨
      ∃ a', a = t ++ some '\n' :: a' ∧ t' = a' ++ none :: b := by
  rcases List.append_eq_append_iff.mp h with ⟨x, rfl, hx⟩ | ⟨x, rfl, hx⟩
  · cases x with
    | nil => cases hx
    | cons c a' =>
        obtain ⟨rfl, ht'⟩ := List.cons.inj hx
        exact Or.inr ⟨a', rfl, ht'⟩
  · cases x with
    | nil => cases hx
    | cons c b' =>
        obtain ⟨rfl, -⟩ := List.cons.inj hx
        exact Or.inl ⟨b', rfl⟩

theorem HistoryHarmless.cons (hbody : t.reduceOption = line.body) (hline : AllHarmless line [] t)
    (h : HistoryHarmless lines t') :
    HistoryHarmless (line :: lines) (t ++ some '\n' :: t') := by
  intro a b hsplit before line' after seen rest hlines htext hseen hrest hreduce
  rcases poll_cases hsplit with ⟨b', rfl⟩ | ⟨a', rfl, rfl⟩
  · cases before with
    | nil =>
        obtain ⟨rfl, rfl⟩ := List.cons.inj hlines
        have hseen' : a.reduceOption = seen := hreduce
        have hharm := hline a b' rfl
        rw [List.nil_append, hseen'] at hharm
        exact hharm hseen
    | cons first before =>
        -- The poll would come after the first line.
        obtain ⟨rfl, rfl⟩ := List.cons.inj hlines
        have hlength := congrArg List.length hbody
        rw [List.reduceOption_append, hreduce, textOf, List.flatMap_cons, TraceLine.text]
          at hlength
        simp only [List.length_append, List.length_singleton] at hlength
        omega
  · have hwhole : (t ++ some '\n' :: a').reduceOption = line.text ++ a'.reduceOption := by
      rw [List.reduceOption_append, List.reduceOption_cons_of_some, hbody, TraceLine.text,
        List.append_assoc, List.singleton_append]
    rw [hwhole] at hreduce
    cases before with
    | nil =>
        -- The poll would come in the first line.
        obtain ⟨rfl, rfl⟩ := List.cons.inj hlines
        have hseen' : line.text ++ a'.reduceOption = seen := hreduce
        have hlength := congrArg List.length htext
        rw [← hseen', List.length_append, List.length_append] at hlength
        have hpos := List.length_pos_iff.mpr hrest
        omega
    | cons first before =>
        obtain ⟨rfl, rfl⟩ := List.cons.inj hlines
        rw [textOf, List.flatMap_cons, List.append_assoc] at hreduce
        exact h a' b rfl before line' after seen rest rfl htext hseen hrest
          (List.append_cancel_left hreduce)

theorem exists_first_line (h : t.reduceOption = textOf (line :: lines)) :
    ∃ u u', t = u ++ some '\n' :: u' ∧ u.reduceOption = line.body ∧
      u'.reduceOption = textOf lines := by
  rw [textOf, List.flatMap_cons, TraceLine.text, List.append_assoc, List.singleton_append,
    List.reduceOption, List.filterMap_eq_append_iff] at h
  obtain ⟨u, v, rfl, hbody, hrest⟩ := h
  obtain ⟨polls, c, u', rfl, hpolls, hc, hlines⟩ := List.filterMap_eq_cons_iff.mp hrest
  refine ⟨u ++ polls, u', ?_, ?_, hlines⟩
  · rw [List.append_assoc, ← hc]
    rfl
  · have hu : u.reduceOption = line.body := hbody
    have hnone : polls.reduceOption = [] := List.filterMap_eq_nil_iff.mpr hpolls
    rw [List.reduceOption_append, hu, hnone, List.append_nil]

theorem historyHarmless_nil (history : List (Option Char)) : HistoryHarmless [] history :=
  fun _ _ _ _ _ _ _ _ h => absurd h.symm (List.append_ne_nil_of_right_ne_nil _
    (List.cons_ne_nil _ _))

theorem samplesIn_append (found found' : List LogMatch) :
    samplesIn (found ++ found') = samplesIn found ++ samplesIn found' := List.map_append

theorem weigh_congr {samples samples' : List Sample}
    (h : samples.map Sample.observed = samples'.map Sample.observed) :
    weigh samples = weigh samples' := by
  have hweight : ∀ l : List Sample, l.map weight =
      (l.map Sample.observed).map fun o => toLex (o.1.length, o.2.2) := by
    intro l
    rw [List.map_map]
    rfl
  rw [weigh, weigh, hweight, hweight, h]

/-- Either every poll in the middle of a line is harmless and the samples are those of the log, or
they weigh less. -/
theorem read_lines {history : List (Option Char)} (h : history.reduceOption = textOf lines) :
    (samplesIn (read history)).map Sample.observed =
          (samplesOfLines lines).map Sample.observed ∧ HistoryHarmless lines history ∨
      weigh (samplesIn (read history)) < weigh (samplesOfLines lines) ∧
        ¬ HistoryHarmless lines history := by
  induction lines generalizing history with
  | nil =>
      rw [read_of_reduceOption_eq_nil h]
      exact Or.inl ⟨rfl, historyHarmless_nil history⟩
  | cons line lines ih =>
      obtain ⟨t, t', rfl, hbody, hrest⟩ := exists_first_line h
      have hread : read (t ++ some '\n' :: t') =
          (fragments [] (t ++ [some '\n'])).filterMap logRe ++ read t' := by
        rw [read, fragments_append, List.filterMap_append]
        rfl
      have hsamples : samplesOfLines (line :: lines) =
          [ofMatch line.groups] ++ samplesOfLines lines := rfl
      have hweigh : weigh [ofMatch line.groups] = weight (ofMatch line.groups) :=
        List.sum_singleton
      rw [hread, samplesIn_append, hsamples]
      have hbody' : [] ++ t.reduceOption = line.body := hbody
      rcases read_line hbody' with ⟨hline, hall⟩ | ⟨hline, hall⟩
      · have hline' : weigh _ = weigh [ofMatch line.groups] := weigh_congr hline
        rcases ih hrest with ⟨hlines, hharm⟩ | ⟨hlines, hharm⟩
        · refine Or.inl ⟨?_, hharm.cons hbody hall⟩
          rw [List.map_append, List.map_append, hline, hlines]
          rfl
        · refine Or.inr ⟨?_, fun hboth => hharm (hboth.tail hbody)⟩
          rw [weigh_append, weigh_append, hline']
          exact add_lt_add_right hlines _
      · refine Or.inr ⟨?_, fun hboth => hall (hboth.head hbody)⟩
        have hle : weigh (samplesIn (read t')) ≤ weigh (samplesOfLines lines) := by
          rcases ih hrest with ⟨hlines, -⟩ | ⟨hlines, -⟩
          · exact (weigh_congr hlines).le
          · exact hlines.le
        rw [weigh_append, weigh_append, hweigh]
        exact add_lt_add_of_lt_of_le hline hle

end Logs

end EasyNav.PolledLines
