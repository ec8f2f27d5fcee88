import Mathlib.Data.List.TakeDrop
import Mathlib.Logic.Function.Basic

namespace EasyNav.SavedDumps

abbrev Bytes := List UInt8

abbrev Files := String → Option Bytes

structure IoError where
  message : String
  message_ne : message ≠ ""

/-- How the operations on the file system end. -/
structure Outcomes where
  existsFails : Bool := false
  directories : Option IoError := none
  opens : Bool := true
  /-- How many bytes of the dump reach the file before it is closed. -/
  reached : Nat := 0
  inserts : Bool := true
  /-- How many more reach it when it is closed. -/
  flushed : Nat
  renames : Bool := true
  removes : Bool := true

section Streams

def append (files : Files) (name : String) (bytes : Bytes) : Files :=
  Function.update files name ((files name).map (· ++ bytes))

structure Stream where
  name : String
  buffered : Bytes := []
  good : Bool

/-- What was in the file is lost. -/
def openStream (files : Files) (name : String) (io : Outcomes) : Files × Stream :=
  if io.opens then (Function.update files name (some []), { name := name, good := true })
  else (files, { name := name, good := false })

def Stream.insert (file : Stream) (files : Files) (dump : Bytes) (io : Outcomes) :
    Files × Stream :=
  if file.good then
    (append files file.name (dump.take io.reached),
      { file with buffered := dump.drop io.reached, good := io.inserts })
  else (files, file)

/-- The destructor, which ignores what fails. -/
def Stream.close (file : Stream) (files : Files) (io : Outcomes) : Files :=
  append files file.name (file.buffered.take io.flushed)

def rename (files : Files) (source target : String) : Files :=
  Function.update (Function.update files target (files source)) source none

def remove (files : Files) (name : String) : Files := Function.update files name none

end Streams

/-- The files afterwards, and why the dump could not be saved, or the empty string. -/
def saveDump (dump : Bytes) (path : String) (files : Files) (io : Outcomes) : Files × String :=
  -- Same hash: same contents.
  if (files path).isSome && !io.existsFails then (files, "")
  else
    match io.directories with
    | some error => (files, error.message)
    | none =>
        let tmp := path ++ ".tmp"
        let (files, file) := openStream files tmp io
        let (files, file) := file.insert files dump io
        let files := file.close files io
        if !file.good then (files, "unable to write " ++ tmp)
        else if io.renames then (rename files tmp path, "")
        else (if io.removes then remove files tmp else files, "unable to write " ++ path)

/-- The dump is whole or absent, and reported as saved only if it is there. -/
def Whole (dump : Bytes) (path : String) (saved : Files × String) : Prop :=
  (saved.1 path = none ∨ saved.1 path = some dump) ∧
    (saved.2 = "" → saved.1 path = some dump)

instance (dump : Bytes) (path : String) (saved : Files × String) :
    Decidable (Whole dump path saved) := inferInstanceAs (Decidable (_ ∧ _))

/-- Closing the file loses bytes, and nothing else fails. -/
def Cut (dump : Bytes) (path : String) (files : Files) (io : Outcomes) : Prop :=
  (files path = none ∨ io.existsFails = true) ∧ io.directories = none ∧ io.opens = true ∧
    io.inserts = true ∧ io.renames = true ∧ io.reached + io.flushed < dump.length

section Saving

variable (dump : Bytes) (path : String) (files : Files) (io : Outcomes)

theorem path_ne_tmp : path ≠ path ++ ".tmp" := by
  intro h
  have hlength := congrArg String.length h
  rw [String.length_append] at hlength
  have htmp : (".tmp" : String).length = 4 := rfl
  omega

theorem append_of_ne {name other : String} (bytes : Bytes) (h : other ≠ name) :
    append files name bytes other = files other :=
  Function.update_of_ne h ..

/-- The files, and the stream, when the file written aside has been closed. -/
def writtenAside : Files × Stream :=
  let (files, file) := openStream files (path ++ ".tmp") io
  let (files, file) := file.insert files dump io
  (file.close files io, file)

theorem writtenAside_path : (writtenAside dump path files io).1 path = files path := by
  have hne := path_ne_tmp path
  rw [writtenAside, openStream]
  by_cases hopens : io.opens = true
  · rw [if_pos hopens]
    dsimp only [Stream.insert, Stream.close]
    rw [if_pos rfl, append_of_ne _ _ hne]
    exact (append_of_ne _ _ hne).trans (Function.update_of_ne hne ..)
  · rw [if_neg hopens]
    dsimp only [Stream.insert, Stream.close]
    rw [if_neg Bool.false_ne_true, append_of_ne _ _ hne]

theorem writtenAside_good :
    (writtenAside dump path files io).2.good = (io.opens && io.inserts) := by
  rw [writtenAside, openStream]
  cases io.opens with
  | true => rfl
  | false => rfl

theorem writtenAside_tmp (h : io.opens = true) :
    (writtenAside dump path files io).1 (path ++ ".tmp") =
      some (dump.take (io.reached + io.flushed)) := by
  rw [writtenAside, openStream, if_pos h]
  dsimp only [Stream.insert, Stream.close]
  rw [if_pos rfl]
  simp only [append, Function.update_self, Option.map_some, List.nil_append]
  rw [List.take_add]

variable {path files io}

theorem saveDump_of_seen (h : ¬ (files path = none ∨ io.existsFails = true)) :
    saveDump dump path files io = (files, "") := by
  rw [not_or] at h
  obtain ⟨hsome, hseen⟩ := h
  rw [saveDump, if_pos]
  rw [Option.isSome_iff_ne_none.mpr hsome, Bool.eq_false_iff.mpr hseen]
  rfl

theorem saveDump_of_unseen (hunseen : files path = none ∨ io.existsFails = true) :
    saveDump dump path files io =
      match io.directories with
      | some error => (files, error.message)
      | none =>
          let (files, file) := writtenAside dump path files io
          if !file.good then (files, "unable to write " ++ (path ++ ".tmp"))
          else if io.renames then (rename files (path ++ ".tmp") path, "")
          else (if io.removes then remove files (path ++ ".tmp") else files,
            "unable to write " ++ path) := by
  have hmissing : ¬ ((files path).isSome && !io.existsFails) = true := by
    rcases hunseen with hnone | hfails
    · rw [hnone]
      exact Bool.false_ne_true
    · rw [hfails, Bool.not_true, Bool.and_false]
      exact Bool.false_ne_true
  rw [saveDump, if_neg hmissing]
  rfl

theorem whole_of_kept {saved : Files × String} (hkept : saved.1 path = files path)
    (hprior : files path = none ∨ files path = some dump) (hreason : saved.2 ≠ "") :
    Whole dump path saved := by
  rw [Whole, hkept]
  exact ⟨hprior, fun hnone => absurd hnone hreason⟩

theorem unable_ne (name : String) : "unable to write " ++ name ≠ "" := by
  intro h
  have hprefix := (String.append_eq_empty_iff.mp h).1
  contradiction

theorem renamed_path (hopens : io.opens = true) :
    rename (writtenAside dump path files io).1 (path ++ ".tmp") path path =
      some (dump.take (io.reached + io.flushed)) := by
  rw [rename, Function.update_of_ne (path_ne_tmp path), Function.update_self]
  exact writtenAside_tmp dump path files io hopens

theorem whole_renamed_iff (hopens : io.opens = true) :
    Whole dump path (rename (writtenAside dump path files io).1 (path ++ ".tmp") path, "") ↔
      ¬ io.reached + io.flushed < dump.length := by
  rw [Whole]
  dsimp only
  rw [renamed_path dump hopens, Nat.not_lt, Option.some_inj, List.take_eq_self_iff]
  constructor
  · intro h
    exact h.2 rfl
  · intro h
    exact ⟨Or.inr h, fun _ => h⟩

end Saving

/-- A saved dump is whole or absent, and reported as saved only if it is there, exactly unless
closing the file loses bytes of it and everything else succeeds. -/
theorem saved_whole_iff (dump : Bytes) (path : String) (files : Files) (io : Outcomes)
    (hprior : files path = none ∨ files path = some dump) :
    Whole dump path (saveDump dump path files io) ↔ ¬ Cut dump path files io := by
  by_cases hunseen : files path = none ∨ io.existsFails = true
  · rw [saveDump_of_unseen dump hunseen]
    cases hdirectories : io.directories with
    | some error =>
        refine iff_of_true (whole_of_kept dump rfl hprior error.message_ne) ?_
        rintro ⟨-, hnone, -⟩
        rw [hdirectories] at hnone
        cases hnone
    | none =>
        have hgood := writtenAside_good dump path files io
        have hpath := writtenAside_path dump path files io
        dsimp only
        rw [hgood]
        by_cases hwritten : (io.opens && io.inserts) = true
        · obtain ⟨hopens, hinserts⟩ := Bool.and_eq_true_iff.mp hwritten
          rw [hwritten, if_neg (by decide)]
          by_cases hrenames : io.renames = true
          · rw [if_pos hrenames, whole_renamed_iff dump hopens, not_iff_not]
            exact ⟨fun hlost => ⟨hunseen, hdirectories, hopens, hinserts, hrenames, hlost⟩,
              fun hcut => hcut.2.2.2.2.2⟩
          · rw [if_neg hrenames]
            refine iff_of_true (whole_of_kept dump ?_ hprior (unable_ne path)) ?_
            · dsimp only
              split
              · exact (Function.update_of_ne (path_ne_tmp path) ..).trans hpath
              · exact hpath
            · exact fun hcut => hrenames hcut.2.2.2.2.1
        · rw [Bool.eq_false_iff.mpr hwritten, if_pos (by decide)]
          refine iff_of_true (whole_of_kept dump hpath hprior (unable_ne _)) ?_
          rintro ⟨-, -, hopens, hinserts, -⟩
          rw [hopens, hinserts] at hwritten
          exact hwritten rfl
  · rw [saveDump_of_seen dump hunseen]
    refine iff_of_true ⟨hprior, fun _ => ?_⟩ fun hcut => hunseen hcut.1
    exact hprior.resolve_left fun hnone => hunseen (Or.inl hnone)

/-- A disk that is full when the file is closed. -/
theorem saved_cut_on_full_disk :
    let saved := saveDump [97, 61, 49, 10] "/log/dump.txt" (fun _ => none) { flushed := 2 }
    ¬ Whole [97, 61, 49, 10] "/log/dump.txt" saved ∧
      saved.1 "/log/dump.txt" = some [97, 61] ∧ saved.2 = "" := by
  decide +kernel

theorem saved_whole_iff_flushed :
    Whole [97, 61, 49, 10] "/log/dump.txt"
      (saveDump [97, 61, 49, 10] "/log/dump.txt" (fun _ => none) { flushed := 4 }) := by
  rw [saved_whole_iff [97, 61, 49, 10] "/log/dump.txt" (fun _ => none) { flushed := 4 }
    (Or.inl rfl)]
  rintro ⟨-, -, -, -, -, hlost⟩
  exact absurd hlost (by decide)

/-- A file that was cut stays so: a later save that sees it trusts it. -/
theorem saveDump_keeps_cut {dump kept : Bytes} {path : String} {files : Files}
    (h : files path = some kept) {io : Outcomes} (hseen : io.existsFails = false) :
    saveDump dump path files io = (files, "") := by
  refine saveDump_of_seen dump ?_
  rw [h, hseen]
  rintro (hnone | hfails)
  · cases hnone
  · cases hfails

end EasyNav.SavedDumps
