import EasyNav.PolledLines

namespace EasyNav.PollingTimes

open EasyNav.SampleStatistics
open EasyNav.TraceLines
open EasyNav.TimingLogs
open EasyNav.PolledLines

section Histories

def written : Event → List Char
  | .append chunk => chunk
  | .poll => []

def contents (events : List Event) : List Char := events.flatMap written

def bytes : Event → List (Option Char)
  | .append chunk => chunk.map some
  | .poll => [none]

/-- The characters of the log, with the polls between them. -/
def history (events : List Event) : List (Option Char) := events.flatMap bytes

theorem reduceOption_map_some (text : List Char) : (text.map some).reduceOption = text := by
  rw [List.reduceOption, List.filterMap_map]
  exact List.filterMap_some

theorem reduceOption_history (events : List Event) :
    (history events).reduceOption = contents events := by
  induction events with
  | nil => rfl
  | cons event events ih =>
      rw [history, List.flatMap_cons, List.reduceOption_append, contents, List.flatMap_cons]
      refine congrArg₂ _ ?_ ih
      cases event with
      | append chunk => exact reduceOption_map_some chunk
      | poll => rfl

theorem exists_of_map_some_append {text : List Char} {t a b : List (Option Char)}
    (h : text.map some ++ t = a ++ none :: b) :
    ∃ a', a = text.map some ++ a' ∧ t = a' ++ none :: b := by
  induction text generalizing a with
  | nil => exact ⟨a, rfl, h⟩
  | cons c text ih =>
      cases a with
      | nil => cases h
      | cons d a =>
          obtain ⟨rfl, hrest⟩ := List.cons.inj h
          obtain ⟨a', rfl, ht⟩ := ih hrest
          exact ⟨a', rfl, ht⟩

theorem exists_poll {events : List Event} {a b : List (Option Char)}
    (h : history events = a ++ none :: b) :
    ∃ earlier later, events = earlier ++ .poll :: later ∧ history earlier = a := by
  induction events generalizing a with
  | nil => exact absurd h.symm (List.append_ne_nil_of_right_ne_nil _ (List.cons_ne_nil _ _))
  | cons event events ih =>
      rw [history, List.flatMap_cons] at h
      cases event with
      | poll =>
          cases a with
          | nil => exact ⟨[], events, rfl, rfl⟩
          | cons c a =>
              obtain ⟨rfl, hrest⟩ := List.cons.inj h
              obtain ⟨earlier, later, rfl, rfl⟩ := ih hrest
              exact ⟨.poll :: earlier, later, rfl, rfl⟩
      | append chunk =>
          obtain ⟨a', rfl, hrest⟩ := exists_of_map_some_append h
          obtain ⟨earlier, later, rfl, rfl⟩ := ih hrest
          exact ⟨.append chunk :: earlier, later, rfl, rfl⟩

end Histories

section Runs

/-- The reader has the file of the log, if any, and has read no more than there is in it. -/
structure Follows (inode : Nat) (file : LogFile) (reader : LogReader) : Prop where
  inode_eq : file.inode = inode
  logPos_le : reader.logPos ≤ file.contents.length
  opened : reader.logInode = some inode ∨ reader.logInode = none ∧ reader.logPos = 0

def Tailing (inode : Nat) (monitor : Monitor) : Prop :=
  match monitor.file with
  | none => monitor.reader.logInode = none ∧ monitor.reader.logPos = 0
  | some file => Follows inode file monitor.reader

def unread (monitor : Monitor) : List Char :=
  match monitor.file with
  | none => []
  | some file => file.contents.drop monitor.reader.logPos

variable {inode : Nat} (sqrt : ℚ → ℚ)

theorem openLogIfNeeded_of_follows {file : LogFile} {reader : LogReader}
    (h : Follows inode file reader) :
    reader.openLogIfNeeded (some file) = { reader with logInode := some inode } := by
  obtain ⟨rfl, hle, hopened⟩ := h
  rw [LogReader.openLogIfNeeded]
  rcases hopened with hinode | ⟨hinode, hpos⟩
  · rw [hinode]
    dsimp only
    rw [if_neg, ← hinode]
    rintro (hne | hlt)
    · exact hne rfl
    · omega
  · rw [hinode, ← hpos]

theorem step_append {monitor : Monitor} (h : Tailing inode monitor) (chunk : List Char) :
    Tailing inode (step sqrt inode monitor (.append chunk)) ∧
      unread (step sqrt inode monitor (.append chunk)) = unread monitor ++ chunk ∧
      (step sqrt inode monitor (.append chunk)).reader = monitor.reader := by
  obtain ⟨file, reader⟩ := monitor
  cases file with
  | none =>
      obtain ⟨hinode, hpos⟩ := h
      refine ⟨⟨rfl, ?_, Or.inr ⟨hinode, hpos⟩⟩, ?_, rfl⟩
      · exact le_of_eq_of_le hpos (Nat.zero_le _)
      · exact congrArg (chunk.drop ·) hpos
  | some file =>
      obtain ⟨hinode, hle, hopened⟩ := h
      refine ⟨⟨hinode, ?_, hopened⟩, List.drop_append_of_le_length hle, rfl⟩
      exact hle.trans (by simp)

theorem step_poll {monitor : Monitor} (h : Tailing inode monitor) :
    Tailing inode (step sqrt inode monitor .poll) ∧
      unread (step sqrt inode monitor .poll) = [] ∧
      (step sqrt inode monitor .poll).reader.tsStats =
        (linesFrom [] (unread monitor)).foldl readLine monitor.reader.tsStats := by
  obtain ⟨file, reader⟩ := monitor
  cases file with
  | none => exact ⟨⟨rfl, rfl⟩, rfl, rfl⟩
  | some file =>
      have hfollows : Follows inode file reader := h
      rw [step, LogReader.pollTimeStatsLog, openLogIfNeeded_of_follows hfollows]
      exact ⟨⟨hfollows.inode_eq, le_rfl, Or.inl rfl⟩, List.drop_length, rfl⟩

theorem foldl_readLine (texts : List (List Char)) (stats : TsStats) :
    texts.foldl readLine stats =
      (samplesIn (texts.filterMap logRe)).foldl accumSample stats := by
  induction texts generalizing stats with
  | nil => rfl
  | cons text texts ih =>
      rw [List.foldl_cons, ih, readLine]
      cases hm : logRe text with
      | none => rw [List.filterMap_cons_none hm]
      | some m =>
          rw [List.filterMap_cons_some hm]
          rfl

theorem filterMap_fragments_append (fragment text : List Char) (t : List (Option Char)) :
    (fragments fragment (text.map some ++ none :: t)).filterMap logRe =
      (linesFrom fragment text).filterMap logRe ++ read t := by
  induction text generalizing fragment with
  | nil =>
      rw [List.map_nil, List.nil_append, fragments, linesFrom]
      split
      · rename_i hnil
        rw [hnil, List.filterMap_cons_none rfl]
        rfl
      · rw [← List.singleton_append, List.filterMap_append]
        rfl
  | cons c text ih =>
      rw [List.map_cons, List.cons_append, fragments, linesFrom]
      split
      · rw [List.filterMap_cons, List.filterMap_cons, ih]
        cases logRe (fragment ++ [c]) <;> rfl
      · exact ih _

theorem samplesIn_read_poll (text : List Char) (t : List (Option Char)) :
    samplesIn (read (text.map some ++ none :: t)) =
      samplesIn ((linesFrom [] text).filterMap logRe) ++ samplesIn (read t) := by
  rw [← samplesIn_append]
  exact congrArg samplesIn (filterMap_fragments_append [] text t)

theorem run_tsStats (events : List Event) {monitor : Monitor} (h : Tailing inode monitor) :
    (run sqrt inode (events ++ [.poll]) monitor).reader.tsStats =
      (samplesIn (read ((unread monitor).map some ++ (history events ++ [none])))).foldl
        accumSample monitor.reader.tsStats := by
  induction events generalizing monitor with
  | nil =>
      have hpoll := (samplesIn_read_poll (unread monitor) []).trans (List.append_nil _)
      rw [List.nil_append, run, List.foldl_cons, List.foldl_nil, (step_poll sqrt h).2.2,
        foldl_readLine, ← hpoll]
      rfl
  | cons event events ih =>
      rw [List.cons_append, run, List.foldl_cons, ← run, history, List.flatMap_cons,
        ← history]
      cases event with
      | append chunk =>
          obtain ⟨htailing, hunread, hreader⟩ := step_append sqrt h chunk
          rw [ih htailing, hunread, hreader, List.map_append, List.append_assoc,
            List.append_assoc]
          rfl
      | poll =>
          obtain ⟨htailing, hunread, hstats⟩ := step_poll sqrt h
          have hpoll := samplesIn_read_poll (unread monitor) (history events ++ [none])
          rw [ih htailing, hunread, hstats, foldl_readLine, ← List.foldl_append]
          exact congrArg (List.foldl accumSample _) hpoll.symm

end Runs

section Statistics

variable {samples samples' : List Sample} {name : List Char}

theorem sum_execTimes (samples : List Sample) :
    (execTimes samples).sum = toMs (samples.map Sample.execNs).sum := by
  induction samples with
  | nil => exact (zero_div _).symm
  | cons sample samples ih =>
      rw [execTimes, List.map_cons, List.sum_cons, ← execTimes, ih, List.map_cons, List.sum_cons,
        toMs, toMs, toMs, Int.cast_add, add_div]

theorem toMs_injective : Function.Injective toMs := by
  intro a b h
  have hne : (1000000 : ℚ) ≠ 0 := by norm_num
  exact_mod_cast (div_left_inj' hne).mp h

/-- How many samples there are and what they take together can be told from the textbook. -/
theorem totals_of_textbook (h : textbook samples name = textbook samples' name) :
    (samplesOf samples name).length = (samplesOf samples' name).length ∧
      ((samplesOf samples name).map Sample.execNs).sum =
        ((samplesOf samples' name).map Sample.execNs).sum := by
  rw [textbook, textbook] at h
  split_ifs at h with hnil hnil' hnil'
  · rw [hnil, hnil']
    exact ⟨rfl, rfl⟩
  · have hexec := congrArg NameStatistics.exec (Option.some.inj h)
    have hlength : (samplesOf samples name).length = (samplesOf samples' name).length := by
      have hn := congrArg Summary.n hexec
      simpa [Summary.of, execTimes] using hn
    refine ⟨hlength, toMs_injective ?_⟩
    rw [← sum_execTimes, ← sum_execTimes, ← mean_mul_length, ← mean_mul_length]
    exact congrArg₂ _ (congrArg Summary.mean hexec) (congrArg _ (congrArg Summary.n hexec))

theorem weigh_of_name (h : ∀ sample ∈ samples, sample.name = name) :
    weigh samples =
      toLex (samples.length * name.length, (samples.map Sample.execNs).sum) := by
  induction samples with
  | nil =>
      rw [List.length_nil, Nat.zero_mul]
      rfl
  | cons sample samples ih =>
      have hrest := ih fun s hs => h s (List.mem_cons_of_mem _ hs)
      rw [← List.singleton_append, weigh_append, hrest, weigh, List.map_singleton,
        List.sum_singleton, weight, h sample List.mem_cons_self, ← toLex_add, Prod.mk_add_mk,
        List.length_append, List.length_singleton, Nat.add_mul, Nat.one_mul, List.map_append,
        List.sum_append, List.map_singleton, List.sum_singleton]

/-- The samples of a name weigh as much as the name each, and the times that they take. -/
theorem weigh_samplesOf (samples : List Sample) (name : List Char) :
    weigh (samplesOf samples name) =
      toLex ((samplesOf samples name).length * name.length,
        ((samplesOf samples name).map Sample.execNs).sum) :=
  weigh_of_name fun _ hs => of_decide_eq_true (List.mem_filter.mp hs).2

theorem weigh_eq_of_textbook (h : ∀ name, textbook samples name = textbook samples' name) :
    weigh samples = weigh samples' := by
  refine sum_map_eq_of_keys Sample.name weight fun name => ?_
  have hsamples := weigh_samplesOf samples name
  obtain ⟨hlength, hsum⟩ := totals_of_textbook (h name)
  rw [hlength, hsum, ← weigh_samplesOf] at hsamples
  exact hsamples

end Statistics

section Polls

/-- Each poll that sees the beginning of a line, but not all of it, sees at least one digit of its
end, and these digits give the execution time of the line. -/
def PollsHarmless (lines : List TraceLine) (events : List Event) : Prop :=
  ∀ earlier later, events = earlier ++ .poll :: later →
    ∀ before line after seen rest, lines = before ++ line :: after →
      line.text = seen ++ rest → seen ≠ [] → rest ≠ [] →
      contents earlier = textOf before ++ seen → Harmless line seen

variable {lines : List TraceLine} {events : List Event}

theorem historyHarmless_iff (h : contents events = textOf lines) :
    HistoryHarmless lines (history events ++ [none]) ↔ PollsHarmless lines events := by
  constructor
  · rintro hharm earlier later rfl before line after seen rest hlines htext hseen hrest hcontents
    refine hharm (history earlier) (history later ++ [none]) ?_ before line after seen rest hlines
      htext hseen hrest ?_
    · rw [history, List.flatMap_append, List.flatMap_cons]
      simp [history, bytes]
    · rw [reduceOption_history, hcontents]
  · intro hharm a b hsplit before line after seen rest hlines htext hseen hrest hreduce
    have hnotAll : ∀ x, a ≠ history events ++ x := by
      rintro x rfl
      have hlength := congrArg List.length hreduce
      have htextLength := congrArg List.length htext
      have hpos := List.length_pos_iff.mpr hrest
      rw [List.reduceOption_append, reduceOption_history, h, hlines, textOf, textOf,
        List.flatMap_append, List.flatMap_cons] at hlength
      simp only [List.length_append] at hlength htextLength
      omega
    rcases List.append_eq_append_iff.mp hsplit with ⟨x, hx, -⟩ | ⟨x, hx, hx'⟩
    · exact absurd hx (hnotAll x)
    · cases x with
      | nil =>
          have hall : a = history events ++ [] := by rw [List.append_nil, hx, List.append_nil]
          exact absurd hall (hnotAll [])
      | cons c x =>
          obtain ⟨rfl, -⟩ := List.cons.inj hx'
          obtain ⟨earlier, later, rfl, rfl⟩ := exists_poll hx
          rw [reduceOption_history] at hreduce
          exact hharm earlier later rfl before line after seen rest hlines htext hseen hrest
            hreduce

/-- The samples that the reader has got after the events and one more poll. -/
def polled (events : List Event) : List Sample := samplesIn (read (history events ++ [none]))

theorem run_start (sqrt : ℚ → ℚ) (inode : Nat) (events : List Event) :
    (run sqrt inode (events ++ [.poll]) {}).reader.tsStats =
      (polled events).foldl accumSample [] := by
  have htailing : Tailing inode {} := ⟨rfl, rfl⟩
  exact run_tsStats sqrt events htailing

theorem statistics_run (sqrt : ℚ → ℚ) (inode : Nat) (events : List Event) (name : List Char) :
    statistics (run sqrt inode (events ++ [.poll]) {}).reader.tsStats name =
      textbook (polled events) name := by
  rw [run_start, statistics_foldl_accumSample]

theorem polled_cases (h : contents events = textOf lines) :
    (polled events).map Sample.observed = (samplesOfLines lines).map Sample.observed ∧
        PollsHarmless lines events ∨
      weigh (polled events) < weigh (samplesOfLines lines) ∧ ¬ PollsHarmless lines events := by
  have hhistory : (history events ++ [none]).reduceOption = textOf lines := by
    rw [List.reduceOption_append, reduceOption_history, h]
    exact List.append_nil _
  rw [← historyHarmless_iff h]
  exact read_lines hhistory

theorem textbook_congr {samples samples' : List Sample}
    (h : samples.map Sample.observed = samples'.map Sample.observed) (name : List Char) :
    textbook samples name = textbook samples' name := by
  rw [← statistics_foldl_accumSample, ← statistics_foldl_accumSample,
    foldl_accumSample_congr h]

theorem statistics_once (sqrt : ℚ → ℚ) (inode : Nat) (lines : List TraceLine)
    (name : List Char) :
    statistics (run sqrt inode [.append (textOf lines), .poll] {}).reader.tsStats name =
      textbook (samplesOfLines lines) name := by
  have hcontents : contents [.append (textOf lines)] = textOf lines := List.append_nil _
  have hrun := statistics_run sqrt inode [.append (textOf lines)] name
  refine hrun.trans ?_
  rcases polled_cases hcontents with ⟨hobserved, -⟩ | ⟨-, hharm⟩
  · exact textbook_congr hobserved name
  · refine absurd (fun earlier later hevents => ?_) hharm
    cases earlier with
    | nil => cases hevents
    | cons event earlier =>
        exact absurd (List.cons.inj hevents).2.symm
          (List.append_ne_nil_of_right_ne_nil _ (List.cons_ne_nil _ _))

/-- The statistics are those of a reader that polls once at the end, which are those of the
textbook, exactly if no poll sees a line whose name, start or execution time is cut. -/
theorem statistics_polled_iff (sqrt : ℚ → ℚ) (inode : Nat) (lines : List TraceLine)
    (events : List Event) (h : contents events = textOf lines) :
    (∀ name, statistics (run sqrt inode [.append (textOf lines), .poll] {}).reader.tsStats name =
      textbook (samplesOfLines lines) name) ∧
    ((∀ name, statistics (run sqrt inode (events ++ [.poll]) {}).reader.tsStats name =
      statistics (run sqrt inode [.append (textOf lines), .poll] {}).reader.tsStats name) ↔
      PollsHarmless lines events) := by
  refine ⟨statistics_once sqrt inode lines, ?_⟩
  simp only [statistics_once, statistics_run]
  rcases polled_cases h with ⟨hobserved, hharm⟩ | ⟨hlt, hharm⟩
  · exact ⟨fun _ => hharm, fun _ => textbook_congr hobserved⟩
  · constructor
    · intro hstatistics
      exact absurd (weigh_eq_of_textbook hstatistics) hlt.ne
    · intro hall
      exact absurd hall hharm

end Polls

section Traces

def squareRoot (q : ℚ) : ℚ := (Nat.sqrt q.num.toNat : ℚ) / (Nat.sqrt q.den : ℚ)

def traced : TraceLine where
  name := ['f']
  start := ['1', '0']
  stop := ['2', '0']
  name_run := TraceLine.isRun_of_all rfl
  name_ascii := List.forall_mem_singleton.mpr (by decide)
  start_run := TraceLine.isRun_of_all rfl
  stop_run := TraceLine.isRun_of_all rfl

def cutTrace (first second : List Char) : List Event :=
  [.append first, .poll, .append second]

theorem statistics_polled_iff_traced :
    PollsHarmless [traced] (cutTrace ['f', ' ', '1', '0', ' ', '2', '0'] ['\n']) ∧
      ¬ PollsHarmless [traced] (cutTrace ['f', ' ', '1', '0', ' ', '2'] ['0', '\n']) := by
  constructor
  · refine (statistics_polled_iff squareRoot 1 [traced] _ (by decide)).2.mp fun name => ?_
    exact congrArg (statistics · name) (by decide +kernel)
  · intro hall
    have hf := (statistics_polled_iff squareRoot 1 [traced] _ (by decide)).2.mpr hall ['f']
    revert hf
    decide +kernel

/-- Polled after `f 10 2`, the call takes no time; polled after `f 1`, it is lost. -/
theorem statistics_of_cut_traces :
    (contents (cutTrace ['f', ' ', '1', '0', ' ', '2'] ['0', '\n']) = textOf [traced] ∧
      ¬ ∀ name, statistics (run squareRoot 1
          (cutTrace ['f', ' ', '1', '0', ' ', '2'] ['0', '\n'] ++ [.poll]) {}).reader.tsStats name =
        statistics (run squareRoot 1 [.append (textOf [traced]), .poll] {}).reader.tsStats
          name) ∧
    contents (cutTrace ['f', ' ', '1'] ['0', ' ', '2', '0', '\n']) = textOf [traced] ∧
      statistics (run squareRoot 1
        (cutTrace ['f', ' ', '1'] ['0', ' ', '2', '0', '\n'] ++ [.poll]) {}).reader.tsStats
          ['f'] = none ∧
      (statistics (run squareRoot 1 [.append (textOf [traced]), .poll] {}).reader.tsStats
        ['f']).isSome = true := by
  refine ⟨⟨by decide, fun h => ?_⟩, by decide, by decide +kernel, by decide +kernel⟩
  have hf := h ['f']
  revert hf
  decide +kernel

end Traces

end EasyNav.PollingTimes
