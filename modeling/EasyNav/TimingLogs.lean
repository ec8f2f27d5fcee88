import EasyNav.SampleStatistics
import EasyNav.TraceLines
import Mathlib.Algebra.Order.Ring.Rat
import Mathlib.Data.List.Induction

namespace EasyNav.TimingLogs

open EasyNav.SampleStatistics
open EasyNav.TraceLines

/-- Welford's accumulators. -/
structure RunningStats where
  n : Nat := 0
  mean : ℚ := 0
  m2 : ℚ := 0
  deriving DecidableEq

namespace RunningStats

def update (stats : RunningStats) (x : ℚ) : RunningStats :=
  let n := stats.n + 1
  let delta := x - stats.mean
  let mean := stats.mean + delta / (n : ℚ)
  let delta2 := x - mean
  { n := n, mean := mean, m2 := stats.m2 + delta * delta2 }

/-- What `as_tuple` takes the square root of. -/
def variance (stats : RunningStats) : ℚ :=
  if stats.n < 2 then 0 else stats.m2 / ((stats.n : ℚ) - 1)

def asTuple (sqrt : ℚ → ℚ) (stats : RunningStats) : ℚ × ℚ :=
  if stats.n < 2 then (stats.mean, 0) else (stats.mean, sqrt (stats.m2 / ((stats.n : ℚ) - 1)))

end RunningStats

/-- The statistics of a name: execution and elapsed times in ms, frequencies in Hz. -/
structure TimeStats where
  exec : RunningStats := {}
  elapsed : RunningStats := {}
  freq : RunningStats := {}
  lastStart : Option Nat := none
  deriving DecidableEq

structure Sample where
  name : List Char
  startNs : Nat
  endNs : Nat
  deriving DecidableEq

def Sample.execNs (sample : Sample) : Int := max 0 ((sample.endNs : Int) - sample.startNs)

def TimeStats.accum (d : TimeStats) (sample : Sample) : TimeStats :=
  let execNs := sample.execNs
  let d' := { d with
    exec := d.exec.update ((execNs : ℚ) / 1000000)
    lastStart := some sample.startNs }
  match d.lastStart with
  | none => d'
  | some lastStart =>
      let elapsedNs : Int := max 0 ((sample.startNs : Int) - lastStart)
      let d' := { d' with elapsed := d'.elapsed.update ((elapsedNs : ℚ) / 1000000) }
      if 0 < elapsedNs then { d' with freq := d'.freq.update (1000000000 / (elapsedNs : ℚ)) }
      else d'

/-- The dictionary of the names, in the order in which they came. -/
abbrev TsStats := List (List Char × TimeStats)

def setItem (name : List Char) (d : TimeStats) : TsStats → TsStats
  | [] => [(name, d)]
  | item :: items =>
      if item.1 = name then (name, d) :: items else item :: setItem name d items

def accumSample (stats : TsStats) (sample : Sample) : TsStats :=
  setItem sample.name (((stats.lookup sample.name).getD {}).accum sample) stats

/-- The lines of a text, after what has been read of the first one. -/
def linesFrom (line : List Char) : List Char → List (List Char)
  | [] => if line = [] then [] else [line]
  | c :: text =>
      if c = '\n' then (line ++ [c]) :: linesFrom [] text else linesFrom (line ++ [c]) text

def ofMatch (m : LogMatch) : Sample :=
  { name := m.name, startNs := int m.start, endNs := int m.stop }

def readLine (stats : TsStats) (line : List Char) : TsStats :=
  match logRe line with
  | none => stats
  | some m => accumSample stats (ofMatch m)

section Rows

def shortenName (full : List Char) : List Char :=
  if "easynav::".toList.isPrefixOf full then full.drop "easynav::".length else full

def lastPart (part : List Char) : List Char → List Char
  | ':' :: ':' :: text => lastPart [] text
  | c :: text => lastPart (part ++ [c]) text
  | [] => part

def sortKeySuffix (full : List Char) : List Char × List Char :=
  (lastPart [] (shortenName full), shortenName full)

def keyLe (a b : List Char × List Char) : Bool :=
  decide (a.1 < b.1) || (a.1 == b.1 && !decide (b.2 < a.2))

structure Row where
  short : List Char
  exec : ℚ × ℚ
  elapsed : ℚ × ℚ
  freq : ℚ × ℚ

def rows (sqrt : ℚ → ℚ) (stats : TsStats) : List Row :=
  (stats.mergeSort fun a b => keyLe (sortKeySuffix a.1) (sortKeySuffix b.1)).map fun item =>
    { short := shortenName item.1
      exec := item.2.exec.asTuple sqrt
      elapsed := item.2.elapsed.asTuple sqrt
      freq := item.2.freq.asTuple sqrt }

end Rows

/-- The log on the disk. A log has no carriage return, and each character is a byte. -/
structure LogFile where
  inode : Nat
  contents : List Char

/-- The reader of the log at its path; the file it has open is known by its inode. -/
structure LogReader where
  logInode : Option Nat := none
  logPos : Nat := 0
  tsStats : TsStats := []

namespace LogReader

def openLogIfNeeded (reader : LogReader) (file : Option LogFile) : LogReader :=
  match file with
  | none => { reader with logInode := none, logPos := 0 }
  | some file =>
      match reader.logInode with
      | none => { reader with logInode := some file.inode, logPos := 0 }
      | some inode =>
          if inode ≠ file.inode ∨ file.contents.length < reader.logPos then
            { reader with logInode := some file.inode, logPos := 0 }
          else reader

/-- The reader after a poll, and the rows of the table. -/
def pollTimeStatsLog (sqrt : ℚ → ℚ) (reader : LogReader) (file : Option LogFile) :
    LogReader × Option (List Row) :=
  let reader := reader.openLogIfNeeded file
  match file with
  | none => (reader, none)
  | some file =>
      let stats := (linesFrom [] (file.contents.drop reader.logPos)).foldl readLine reader.tsStats
      ({ reader with logPos := file.contents.length, tsStats := stats }, some (rows sqrt stats))

end LogReader

inductive Event where
  | append (chunk : List Char)
  | poll

structure Monitor where
  file : Option LogFile := none
  reader : LogReader := {}

/-- The tracer creates the log as it writes to it for the first time. -/
def step (sqrt : ℚ → ℚ) (inode : Nat) (monitor : Monitor) : Event → Monitor
  | .append chunk =>
      match monitor.file with
      | none => { monitor with file := some { inode := inode, contents := chunk } }
      | some file => { monitor with file := some { file with contents := file.contents ++ chunk } }
  | .poll => { monitor with reader := (monitor.reader.pollTimeStatsLog sqrt monitor.file).1 }

def run (sqrt : ℚ → ℚ) (inode : Nat) (events : List Event) (monitor : Monitor) : Monitor :=
  events.foldl (step sqrt inode) monitor

section Textbook

/-- How many samples there are, their mean and their sample variance. -/
structure Summary where
  n : Nat
  mean : ℚ
  variance : ℚ
  deriving DecidableEq

def Summary.of (samples : List ℚ) : Summary :=
  { n := samples.length, mean := SampleStatistics.mean samples,
    variance := sampleVariance samples }

structure NameStatistics where
  exec : Summary
  elapsed : Summary
  freq : Summary
  deriving DecidableEq

/-- The times between consecutive starts, in ns. -/
def periods (starts : List Nat) : List Int :=
  List.zipWith (fun (last start : Nat) => max 0 ((start : Int) - last)) starts starts.tail

def toMs (ns : Int) : ℚ := (ns : ℚ) / 1000000

def toHz (ns : Int) : ℚ := 1000000000 / (ns : ℚ)

def execTimes (samples : List Sample) : List ℚ :=
  samples.map fun sample => toMs sample.execNs

def elapsedTimes (samples : List Sample) : List ℚ :=
  (periods (samples.map Sample.startNs)).map toMs

def frequencies (samples : List Sample) : List ℚ :=
  ((periods (samples.map Sample.startNs)).filter (0 < ·)).map toHz

def samplesOf (samples : List Sample) (name : List Char) : List Sample :=
  samples.filter fun sample => sample.name = name

def textbook (samples : List Sample) (name : List Char) : Option NameStatistics :=
  let own := samplesOf samples name
  if own = [] then none
  else
    some
      { exec := Summary.of (execTimes own)
        elapsed := Summary.of (elapsedTimes own)
        freq := Summary.of (frequencies own) }

def RunningStats.summary (stats : RunningStats) : Summary :=
  { n := stats.n, mean := stats.mean, variance := stats.variance }

def TimeStats.statistics (d : TimeStats) : NameStatistics :=
  { exec := d.exec.summary, elapsed := d.elapsed.summary, freq := d.freq.summary }

def statistics (stats : TsStats) (name : List Char) : Option NameStatistics :=
  (stats.lookup name).map TimeStats.statistics

end Textbook

section Accumulation

def RunningStats.of (samples : List ℚ) : RunningStats := samples.foldl RunningStats.update {}

theorem RunningStats.of_eq (samples : List ℚ) :
    RunningStats.of samples =
      { n := samples.length, mean := SampleStatistics.mean samples,
        m2 := squaredDeviations samples } := by
  induction samples using List.reverseRecOn with
  | nil =>
      simp [RunningStats.of, SampleStatistics.mean, squaredDeviations]
  | append_singleton samples x ih =>
      rw [RunningStats.of, List.foldl_append, ← RunningStats.of, ih, List.foldl_cons,
        List.foldl_nil, RunningStats.update, squaredDeviations_append_singleton,
        mean_append_singleton, List.length_append, List.length_singleton]

theorem RunningStats.summary_of (samples : List ℚ) :
    (RunningStats.of samples).summary = Summary.of samples := by
  rw [RunningStats.of_eq]
  rfl

theorem lookup_cons_eq (item : List Char × TimeStats) (stats : TsStats) (name : List Char) :
    List.lookup name (item :: stats) =
      if name = item.1 then some item.2 else stats.lookup name := by
  rw [List.lookup_cons]
  by_cases h : name = item.1
  · rw [if_pos h, beq_iff_eq.mpr h]
  · rw [if_neg h, beq_eq_false_iff_ne.mpr h]

theorem lookup_setItem (name name' : List Char) (d : TimeStats) (stats : TsStats) :
    (setItem name d stats).lookup name' = if name' = name then some d else stats.lookup name' := by
  induction stats with
  | nil => exact lookup_cons_eq (name, d) [] name'
  | cons item stats ih =>
      rw [setItem]
      split
      · rename_i h
        rw [lookup_cons_eq, lookup_cons_eq, h]
        split <;> rfl
      · rename_i h
        rw [lookup_cons_eq, lookup_cons_eq, ih]
        split
        · rename_i h'
          rw [if_neg (h' ▸ h)]
        · rfl

theorem lookup_foldl_accumSample (samples : List Sample) (stats : TsStats) (name : List Char) :
    (samples.foldl accumSample stats).lookup name =
      if samplesOf samples name = [] then stats.lookup name
      else some ((samplesOf samples name).foldl TimeStats.accum
        ((stats.lookup name).getD {})) := by
  induction samples generalizing stats with
  | nil => rfl
  | cons sample samples ih =>
      rw [List.foldl_cons, ih, accumSample, lookup_setItem]
      by_cases h : sample.name = name
      · have hcons : samplesOf (sample :: samples) name = sample :: samplesOf samples name :=
          List.filter_cons_of_pos (decide_eq_true h)
        rw [hcons, if_pos h.symm, if_neg (List.cons_ne_nil _ _), Option.getD_some, h,
          List.foldl_cons]
        split
        · rename_i hnil
          rw [hnil]
          rfl
        · rfl
      · have hcons : samplesOf (sample :: samples) name = samplesOf samples name :=
          List.filter_cons_of_neg (by simpa using h)
        rw [hcons, if_neg (Ne.symm h)]

def periodsFrom (last : Option Nat) (starts : List Nat) : List Int :=
  periods (last.toList ++ starts)

theorem periodsFrom_nil (last : Option Nat) : periodsFrom last [] = [] := by
  cases last <;> rfl

theorem periodsFrom_cons (last : Option Nat) (start : Nat) (starts : List Nat) :
    periodsFrom last (start :: starts) =
      periodsFrom last [start] ++ periodsFrom (some start) starts := by
  cases last <;> rfl

namespace TimeStats

theorem accum_eq (d : TimeStats) (sample : Sample) :
    d.accum sample =
      { exec := d.exec.update (toMs sample.execNs)
        elapsed := ((periodsFrom d.lastStart [sample.startNs]).map toMs).foldl
          RunningStats.update d.elapsed
        freq := (((periodsFrom d.lastStart [sample.startNs]).filter (0 < ·)).map toHz).foldl
          RunningStats.update d.freq
        lastStart := some sample.startNs } := by
  rw [accum]
  cases d.lastStart with
  | none => rfl
  | some last =>
      have hone : periodsFrom (some last) [sample.startNs] =
          [max 0 ((sample.startNs : Int) - last)] := rfl
      rw [hone, List.filter_cons, List.filter_nil]
      simp only [decide_eq_true_eq]
      split <;> rfl

theorem foldl_accum_exec (samples : List Sample) (d : TimeStats) :
    (samples.foldl accum d).exec = (execTimes samples).foldl RunningStats.update d.exec := by
  induction samples generalizing d with
  | nil => rfl
  | cons sample samples ih => rw [List.foldl_cons, ih, accum_eq]; rfl

theorem foldl_accum_elapsed (samples : List Sample) (d : TimeStats) :
    (samples.foldl accum d).elapsed =
      ((periodsFrom d.lastStart (samples.map Sample.startNs)).map toMs).foldl
        RunningStats.update d.elapsed := by
  induction samples generalizing d with
  | nil => rw [List.map_nil, periodsFrom_nil]; rfl
  | cons sample samples ih =>
      rw [List.foldl_cons, ih, accum_eq, List.map_cons,
        periodsFrom_cons d.lastStart _ (samples.map Sample.startNs), List.map_append,
        List.foldl_append]

theorem foldl_accum_freq (samples : List Sample) (d : TimeStats) :
    (samples.foldl accum d).freq =
      (((periodsFrom d.lastStart (samples.map Sample.startNs)).filter (0 < ·)).map toHz).foldl
        RunningStats.update d.freq := by
  induction samples generalizing d with
  | nil => rw [List.map_nil, periodsFrom_nil]; rfl
  | cons sample samples ih =>
      rw [List.foldl_cons, ih, accum_eq, List.map_cons,
        periodsFrom_cons d.lastStart _ (samples.map Sample.startNs), List.filter_append,
        List.map_append, List.foldl_append]

theorem statistics_foldl_accum (samples : List Sample) :
    (samples.foldl accum {}).statistics =
      { exec := Summary.of (execTimes samples)
        elapsed := Summary.of (elapsedTimes samples)
        freq := Summary.of (frequencies samples) } := by
  rw [statistics, foldl_accum_exec, foldl_accum_elapsed, foldl_accum_freq]
  change NameStatistics.mk (RunningStats.of _).summary (RunningStats.of _).summary
    (RunningStats.of _).summary = _
  rw [RunningStats.summary_of, RunningStats.summary_of, RunningStats.summary_of]
  rfl

end TimeStats

/-- The accumulated statistics are those of the textbook. -/
theorem statistics_foldl_accumSample (samples : List Sample) (name : List Char) :
    statistics (samples.foldl accumSample []) name = textbook samples name := by
  rw [statistics, lookup_foldl_accumSample, textbook]
  split
  · rfl
  · exact congrArg some (TimeStats.statistics_foldl_accum _)

def Sample.observed (sample : Sample) : List Char × Nat × Int :=
  (sample.name, sample.startNs, sample.execNs)

theorem accumSample_congr {sample sample' : Sample} (h : sample.observed = sample'.observed)
    (stats : TsStats) : accumSample stats sample = accumSample stats sample' := by
  obtain ⟨hname, htimes⟩ := Prod.mk.inj h
  obtain ⟨hstart, hexec⟩ := Prod.mk.inj htimes
  have haccum : ∀ d : TimeStats, d.accum sample = d.accum sample' := by
    intro d
    rw [TimeStats.accum, TimeStats.accum, hstart, hexec]
  rw [accumSample, accumSample, hname, haccum]

theorem foldl_accumSample_congr {samples samples' : List Sample}
    (h : samples.map Sample.observed = samples'.map Sample.observed) (stats : TsStats) :
    samples.foldl accumSample stats = samples'.foldl accumSample stats := by
  induction samples generalizing samples' stats with
  | nil => rw [List.map_eq_nil_iff.mp h.symm]
  | cons sample samples ih =>
      obtain ⟨sample', rest, rfl, hfirst, hrest⟩ := List.map_eq_cons_iff.mp h.symm
      rw [List.foldl_cons, List.foldl_cons, accumSample_congr hfirst.symm, ih hrest.symm]

end Accumulation

end EasyNav.TimingLogs
