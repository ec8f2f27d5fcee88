import Mathlib.Data.List.Infix
import Mathlib.Data.List.TakeDrop
import Mathlib.Data.List.TakeWhile
import Mathlib.Algebra.BigOperators.Group.List.Basic
import Mathlib.Algebra.Ring.Nat

namespace EasyNav.TraceLines

def isSpace (c : Char) : Bool :=
  c == ' ' || (decide (9 ≤ c.toNat) && decide (c.toNat ≤ 13)) ||
    (decide (28 ≤ c.toNat) && decide (c.toNat ≤ 31))

def isDigit (c : Char) : Bool := decide (48 ≤ c.toNat) && decide (c.toNat ≤ 57)

def int (digits : List Char) : Nat :=
  digits.foldl (fun value c => 10 * value + (c.toNat - 48)) 0

structure LogMatch where
  name : List Char
  start : List Char
  stop : List Char
  deriving DecidableEq

/-- `_LOG_RE`: what each part of it takes leaves no choice to the next one. -/
def logRe (line : List Char) : Option LogMatch :=
  let name := line.takeWhile (!isSpace ·)
  let line := line.dropWhile (!isSpace ·)
  let gap := line.takeWhile isSpace
  let line := line.dropWhile isSpace
  let start := line.takeWhile isDigit
  let line := line.dropWhile isDigit
  let gap' := line.takeWhile isSpace
  let line := line.dropWhile isSpace
  let stop := line.takeWhile isDigit
  let line := line.dropWhile isDigit
  if name ≠ [] ∧ gap ≠ [] ∧ start ≠ [] ∧ gap' ≠ [] ∧ stop ≠ [] ∧ line.all isSpace then
    some { name := name, start := start, stop := stop }
  else none

/-- Not empty, and of one class of characters. -/
structure IsRun (p : Char → Bool) (text : List Char) : Prop where
  ne_nil : text ≠ []
  all : ∀ c ∈ text, p c = true

/-- The regular expression `^(\S+)\s+(\d+)\s+(\d+)\s*$`. -/
def Matches (line : List Char) (m : LogMatch) : Prop :=
  ∃ gap gap' tail,
    line = m.name ++ (gap ++ (m.start ++ (gap' ++ (m.stop ++ tail)))) ∧
      IsRun (!isSpace ·) m.name ∧ IsRun isSpace gap ∧ IsRun isDigit m.start ∧
      IsRun isSpace gap' ∧ IsRun isDigit m.stop ∧ ∀ c ∈ tail, isSpace c = true

section Expression

variable {p : Char → Bool} {run rest line : List Char} {m : LogMatch}

theorem isSpace_of_isDigit {c : Char} (h : isDigit c = true) : isSpace c = false := by
  have hspace : c ≠ ' ' := by
    rintro rfl
    cases h
  rw [isDigit, Bool.and_eq_true, decide_eq_true_eq, decide_eq_true_eq] at h
  simp only [isSpace, Bool.or_eq_false_iff, beq_eq_false_iff_ne, Bool.and_eq_false_iff,
    decide_eq_false_iff_not]
  exact ⟨⟨hspace, Or.inr (by omega)⟩, Or.inr (by omega)⟩

theorem isDigit_of_isSpace {c : Char} (h : isSpace c = true) : isDigit c = false := by
  by_contra hdigit
  rw [Bool.not_eq_false] at hdigit
  rw [isSpace_of_isDigit hdigit] at h
  cases h

/-- A run is taken as a whole, and nothing of what starts with another character. -/
theorem span_run (hrun : ∀ c ∈ run, p c = true) (hrest : ∀ c ∈ rest.head?, p c = false) :
    (run ++ rest).takeWhile p = run ∧ (run ++ rest).dropWhile p = rest := by
  rw [List.takeWhile_append_of_pos hrun, List.dropWhile_append_of_pos hrun]
  cases rest with
  | nil => exact ⟨List.append_nil _, rfl⟩
  | cons c rest =>
      have hc : ¬ p c = true := by
        rw [hrest c rfl]
        exact Bool.false_ne_true
      rw [List.takeWhile_cons_of_neg hc, List.dropWhile_cons_of_neg hc]
      exact ⟨List.append_nil _, rfl⟩

theorem IsRun.head? {q : Char → Bool} (h : IsRun p run) (rest : List Char)
    (hpq : ∀ c, p c = true → q c = false) : ∀ c ∈ (run ++ rest).head?, q c = false := by
  obtain ⟨a, run, rfl⟩ := List.exists_cons_of_ne_nil h.ne_nil
  intro c hc
  obtain rfl := Option.some.inj hc
  exact hpq a (h.all a List.mem_cons_self)

theorem isRun_takeWhile {text : List Char} (h : text.takeWhile p ≠ []) :
    IsRun p (text.takeWhile p) := ⟨h, fun _ hc => List.mem_takeWhile_imp hc⟩

theorem logRe_of_matches (h : Matches line m) : logRe line = some m := by
  obtain ⟨gap, gap', tail, rfl, hname, hgap, hstart, hgap', hstop, htail⟩ := h
  have hspace : ∀ c, isSpace c = true → (!isSpace c) = false := fun c hc => by rw [hc]; rfl
  have htail' : ∀ c ∈ tail.head?, isDigit c = false :=
    fun c hc => isDigit_of_isSpace (htail c (List.mem_of_mem_head? hc))
  have h₁ := span_run hname.all
    (hgap.head? (m.start ++ (gap' ++ (m.stop ++ tail))) hspace)
  have h₂ := span_run hgap.all
    (hstart.head? (gap' ++ (m.stop ++ tail)) fun _ => isSpace_of_isDigit)
  have h₃ := span_run hstart.all
    (hgap'.head? (m.stop ++ tail) fun _ => isDigit_of_isSpace)
  have h₄ := span_run hgap'.all (hstop.head? tail fun _ => isSpace_of_isDigit)
  have h₅ := span_run hstop.all htail'
  simp only [logRe, h₁.1, h₁.2, h₂.1, h₂.2, h₃.1, h₃.2, h₄.1, h₄.2, h₅.1, h₅.2]
  exact if_pos ⟨hname.ne_nil, hgap.ne_nil, hstart.ne_nil, hgap'.ne_nil, hstop.ne_nil,
    List.all_eq_true.mpr htail⟩

theorem matches_of_logRe (h : logRe line = some m) : Matches line m := by
  simp only [logRe] at h
  split at h
  · rename_i hruns
    obtain ⟨hname, hgap, hstart, hgap', hstop, htail⟩ := hruns
    cases h
    refine ⟨_, _, _, ?_, isRun_takeWhile hname, isRun_takeWhile hgap, isRun_takeWhile hstart,
      isRun_takeWhile hgap', isRun_takeWhile hstop, List.all_eq_true.mp htail⟩
    simp only [List.takeWhile_append_dropWhile]
  · cases h

/-- The function finds the match of the regular expression, if there is one. -/
theorem logRe_eq_some_iff : logRe line = some m ↔ Matches line m :=
  ⟨matches_of_logRe, logRe_of_matches⟩

theorem logRe_name (h : logRe line = some m) : m.name = line.takeWhile (!isSpace ·) := by
  simp only [logRe] at h
  split at h
  · cases h
    rfl
  · cases h

end Expression

section Words

/-- How many words start in a text, where one may start at its front only if `fresh`. -/
def words : Bool → List Char → Nat
  | _, [] => 0
  | fresh, c :: text => (if fresh && !isSpace c then 1 else 0) + words (isSpace c) text

theorem words_append (fresh : Bool) (a b : List Char) :
    words fresh (a ++ b) =
      words fresh a + words (a.foldl (fun _ c => isSpace c) fresh) b := by
  induction a generalizing fresh with
  | nil => exact (Nat.zero_add _).symm
  | cons c a ih => rw [List.cons_append, words, words, ih, Nat.add_assoc, List.foldl_cons]

theorem words_le_append_left (fresh : Bool) (a b : List Char) :
    words fresh a ≤ words fresh (a ++ b) := by
  rw [words_append]
  exact Nat.le_add_right _ _

/-- Only a word that goes on from the text before it is new in the rest of a text. -/
theorem words_le_append_right (a b : List Char) :
    words true b ≤ words true (a ++ b) ∧ words true b ≤ words false (a ++ b) + 1 := by
  induction a with
  | nil =>
      refine ⟨le_rfl, ?_⟩
      cases b with
      | nil => exact Nat.zero_le _
      | cons c b =>
          rw [List.nil_append, words, words]
          split <;> simp; omega
  | cons c a ih =>
      rw [List.cons_append, words, words]
      cases hc : isSpace c with
      | true => simpa using ⟨ih.1, ih.1.trans (Nat.le_succ _)⟩
      | false =>
          simp
          omega

theorem words_le_of_part {a b : List Char} (h : a <:+: b) : words true a ≤ words true b := by
  obtain ⟨l, r, rfl⟩ := h
  rw [List.append_assoc]
  exact (words_le_append_left true a r).trans (words_le_append_right l (a ++ r)).1

theorem words_false_run {run : List Char} (h : ∀ c ∈ run, isSpace c = false)
    (rest : List Char) : words false (run ++ rest) = words false rest := by
  induction run with
  | nil => rfl
  | cons c run ih =>
      rw [List.cons_append, words, h c List.mem_cons_self,
        ih fun d hd => h d (List.mem_cons_of_mem _ hd)]
      exact Nat.zero_add _

theorem words_run {run : List Char} (h : IsRun (!isSpace ·) run) (rest : List Char) :
    words true (run ++ rest) = 1 + words false rest := by
  obtain ⟨c, run, rfl⟩ := List.exists_cons_of_ne_nil h.ne_nil
  have hword : ∀ d ∈ c :: run, isSpace d = false := fun d hd => by simpa using h.all d hd
  rw [List.cons_append, words, hword c List.mem_cons_self,
    words_false_run fun d hd => hword d (List.mem_cons_of_mem _ hd)]
  rfl

theorem words_gap {gap : List Char} (h : IsRun isSpace gap) (fresh : Bool) (rest : List Char) :
    words fresh (gap ++ rest) = words true rest := by
  obtain ⟨hne, hall⟩ := h
  induction gap generalizing fresh with
  | nil => exact absurd rfl hne
  | cons c gap ih =>
      rw [List.cons_append, words, hall c List.mem_cons_self, Bool.not_true, Bool.and_false]
      by_cases hgap : gap = []
      · rw [hgap]
        exact Nat.zero_add _
      · rw [ih true hgap fun d hd => hall d (List.mem_cons_of_mem _ hd)]
        exact Nat.zero_add _

theorem IsRun.of_isDigit {run : List Char} (h : IsRun isDigit run) : IsRun (!isSpace ·) run :=
  ⟨h.ne_nil, fun c hc => by rw [isSpace_of_isDigit (h.all c hc)]; rfl⟩

theorem three_le_words {line : List Char} {m : LogMatch} (h : logRe line = some m) :
    3 ≤ words true line := by
  obtain ⟨gap, gap', tail, rfl, hname, hgap, hstart, hgap', hstop, -⟩ := matches_of_logRe h
  rw [words_run hname, words_gap hgap, words_run hstart.of_isDigit, words_gap hgap',
    words_run hstop.of_isDigit]
  omega

theorem filterMap_logRe_of_words {fragments : List (List Char)}
    (h : words true fragments.flatten ≤ 2) : fragments.filterMap logRe = [] := by
  rw [List.filterMap_eq_nil_iff]
  intro fragment hmem
  have hle := words_le_of_part (List.infix_of_mem_flatten hmem)
  by_contra hne
  obtain ⟨m, hm⟩ := Option.ne_none_iff_exists'.mp hne
  have hthree := three_le_words hm
  omega

end Words

structure TraceLine where
  name : List Char
  start : List Char
  stop : List Char
  name_run : IsRun (!isSpace ·) name
  name_ascii : ∀ c ∈ name, c.toNat < 128
  start_run : IsRun isDigit start
  stop_run : IsRun isDigit stop

namespace TraceLine

def header (line : TraceLine) : List Char := line.name ++ ' ' :: (line.start ++ [' '])

def body (line : TraceLine) : List Char := line.header ++ line.stop

def text (line : TraceLine) : List Char := line.body ++ ['\n']

def groups (line : TraceLine) : LogMatch :=
  { name := line.name, start := line.start, stop := line.stop }

def times (line : TraceLine) : List Char :=
  ' ' :: (line.start ++ ' ' :: (line.stop ++ ['\n']))

variable (line : TraceLine)

theorem isRun_of_all {p : Char → Bool} {c : Char} {text : List Char}
    (h : (c :: text).all p = true) : IsRun p (c :: text) :=
  ⟨List.cons_ne_nil _ _, List.all_eq_true.mp h⟩

theorem isRun_space : IsRun isSpace [' '] := isRun_of_all rfl

theorem isRun_newline : IsRun isSpace ['\n'] := isRun_of_all rfl

theorem words_header : words true line.header = 2 := by
  have hgap := isRun_space
  rw [header, words_run line.name_run, ← List.singleton_append, words_gap hgap,
    words_run line.start_run.of_isDigit]
  rfl

theorem words_times : words true line.times = 2 := by
  rw [times, ← List.singleton_append, words_gap isRun_space,
    words_run line.start_run.of_isDigit, ← List.singleton_append, words_gap isRun_space,
    words_run line.stop_run.of_isDigit]
  rfl

/-- The times are read as soon as there is a digit of the end. -/
theorem logRe_header_append {stop tail : List Char} (hstop : IsRun isDigit stop)
    (htail : ∀ c ∈ tail, isSpace c = true) :
    logRe (line.header ++ (stop ++ tail)) =
      some { name := line.name, start := line.start, stop := stop } := by
  refine logRe_of_matches ⟨[' '], [' '], tail, ?_, line.name_run, isRun_space, line.start_run,
    isRun_space, hstop, htail⟩
  simp [header]

theorem logRe_text : logRe line.text = some line.groups := by
  rw [text, body, List.append_assoc]
  exact line.logRe_header_append line.stop_run isRun_newline.all

theorem filterMap_logRe_of_suffix {fragments : List (List Char)}
    (h : fragments.flatten <:+ line.times) : fragments.filterMap logRe = [] :=
  filterMap_logRe_of_words ((words_le_of_part h.isInfix).trans line.words_times.le)

variable {line}

theorem logRe_of_infix_header {fragment : List Char} (h : fragment <:+: line.header) :
    logRe fragment = none := by
  have hwords : words true [fragment].flatten ≤ 2 := by
    rw [List.flatten_singleton]
    exact (words_le_of_part h).trans line.words_header.le
  exact List.filterMap_eq_nil_iff.mp (filterMap_logRe_of_words hwords) _ List.mem_cons_self

theorem logRe_of_word {fragment : List Char} (h : ∀ c ∈ fragment, isSpace c = false) :
    logRe fragment = none := by
  have hwords : words true [fragment].flatten ≤ 2 := by
    have hle := (words_le_append_right [] fragment).2
    rw [List.nil_append, ← List.append_nil fragment, words_false_run h, List.append_nil] at hle
    rw [List.flatten_singleton]
    exact hle.trans (Nat.le_succ 1)
  exact List.filterMap_eq_nil_iff.mp (filterMap_logRe_of_words hwords) _ List.mem_cons_self

/-- The names read from the fragments of the end of a line come from the end of its name. -/
theorem names_le_of_suffix {fragments : List (List Char)} {name : List Char}
    (hname : ∀ c ∈ name, isSpace c = false)
    (h : fragments.flatten = name ++ line.times) :
    ((fragments.filterMap logRe).map fun m => m.name.length).sum ≤ name.length := by
  induction fragments generalizing name with
  | nil => exact Nat.zero_le _
  | cons fragment fragments ih =>
      rw [List.flatten_cons] at h
      rcases List.append_eq_append_iff.mp h with ⟨rest, hcut, hrest⟩ | ⟨seen, hcut, hseen⟩
      · -- The cut is in the name, and the fragment has nothing else.
        subst hcut
        have hword : ∀ c ∈ fragment, isSpace c = false :=
          fun c hc => hname c (List.mem_append_left _ hc)
        rw [List.filterMap_cons_none (logRe_of_word hword), List.length_append]
        exact (ih (fun c hc => hname c (List.mem_append_right _ hc)) hrest).trans
          (Nat.le_add_left _ _)
      · -- The fragment has all that is left of the name, and the others nothing to read.
        have hnil : fragments.filterMap logRe = [] :=
          filterMap_logRe_of_suffix line ⟨seen, hseen.symm⟩
        cases hm : logRe fragment with
        | none =>
            rw [List.filterMap_cons_none hm, hnil]
            exact Nat.zero_le _
        | some m =>
            have hseen' : ∀ c ∈ seen.head?, (!isSpace c) = false := by
              intro c hc
              cases seen with
              | nil => cases hc
              | cons d seen =>
                  obtain rfl := Option.some.inj hc
                  rw [times] at hseen
                  obtain rfl := (List.cons.inj hseen).1
                  rfl
            have htaken := (span_run (fun c hc => by rw [hname c hc]; rfl) hseen').1
            rw [List.filterMap_cons_some hm, hnil, List.map_singleton, List.sum_singleton,
              logRe_name hm, hcut, htaken]

theorem read_of_cut_in_stop {seen rest : List Char} {fragments : List (List Char)}
    (hseen : seen ≠ []) (hstop : line.stop = seen ++ rest)
    (h : fragments.flatten = rest ++ ['\n']) :
    ((line.header ++ seen) :: fragments).filterMap logRe =
      [{ name := line.name, start := line.start, stop := seen }] := by
  have hrun : IsRun isDigit seen :=
    ⟨hseen, fun c hc => line.stop_run.all c (hstop ▸ List.mem_append_left rest hc)⟩
  have hfirst := line.logRe_header_append hrun (List.forall_mem_nil fun c => isSpace c = true)
  rw [List.append_nil] at hfirst
  have hnil : fragments.filterMap logRe = [] := by
    refine filterMap_logRe_of_suffix line ⟨' ' :: (line.start ++ ' ' :: seen), ?_⟩
    rw [h, times, hstop]
    simp
  rw [List.filterMap_cons_some hfirst, hnil]

/-- A line cut earlier loses its name, or the beginning of it. -/
theorem read_of_cut_in_header {fragment rest : List Char} {fragments : List (List Char)}
    (hne : fragment ≠ []) (hheader : line.header = fragment ++ rest)
    (h : fragments.flatten = rest ++ (line.stop ++ ['\n'])) :
    (((fragment :: fragments).filterMap logRe).map fun m => m.name.length).sum <
      line.name.length := by
  have hnone : logRe fragment = none :=
    logRe_of_infix_header (hheader ▸ (List.prefix_append fragment rest).isInfix)
  rw [List.filterMap_cons_none hnone]
  rw [header] at hheader
  rcases List.append_eq_append_iff.mp hheader with ⟨seen, hcut, hseen⟩ | ⟨left, hcut, hleft⟩
  · -- The whole name is gone.
    have hnil : fragments.filterMap logRe = [] := by
      refine filterMap_logRe_of_suffix line ⟨seen, ?_⟩
      rw [h, ← List.append_assoc, ← hseen, times]
      simp
    rw [hnil]
    exact List.length_pos_iff.mpr line.name_run.ne_nil
  · have hword : ∀ c ∈ left, isSpace c = false := by
      intro c hc
      have hrun := line.name_run.all c (hcut ▸ List.mem_append_right fragment hc)
      simpa using hrun
    have htimes : fragments.flatten = left ++ line.times := by
      rw [h, hleft, times]
      simp
    have hle := names_le_of_suffix hword htimes
    rw [hcut, List.length_append]
    have hpos := List.length_pos_iff.mpr hne
    omega

end TraceLine

end EasyNav.TraceLines
