import NetTimeline.Files.System
import NetTimeline.Log.Line
import NetTimeline.Text.Lines
import NetTimeline.Text.Utf8

/-!
# Loading request logs

Reference model of `load_network_events` and `load_directory_events`. A request log is a file with
one event a line; a line that holds none is told in a warning and skipped. A directory of logs is
loaded file by file, in the order of the names, and its events are put in the order of their starts.

Main statements: `loadLines_events` and `loadLines_records` — what comes of the lines one by one;
`logNames_eq_of_perm` — the order in which a directory lists its names does not matter.
-/

set_option autoImplicit false

namespace NetTimeline

open Files (FileError FileSystem Path)

/-- Why a log cannot be loaded. -/
inductive LoadError where
  | file (error : FileError)
  | text (error : Text.DecodeError)
  deriving DecidableEq, Repr

def LoadError.message : LoadError → String
  | .file error => error.message
  | .text error => error.message

/-! ## One log -/

/-- What the lines hold, each with its number. -/
def readLines (lines : List (List Char)) : List (Nat × LineReading) :=
  lines.zipIdx.map fun (line, number) => (number, LineReading.ofChars line)

/-- The events of lines, with a warning for each that is rejected. -/
def loadLines (path : String) (lines : List (List Char)) :
    Logged LoadError (List NetworkEvent) where
  records := (readLines lines).filterMap fun (number, reading) => reading.record? number path
  result := .ok ((readLines lines).filterMap fun (_, reading) => reading.event?)

theorem loadLines_records (path : String) (lines : List (List Char)) :
    (loadLines path lines).records =
      lines.zipIdx.filterMap fun (line, number) =>
        (LineReading.ofChars line).record? number path := by
  simp only [loadLines, readLines, List.filterMap_map, Function.comp_def]

theorem loadLines_events (path : String) (lines : List (List Char)) :
    (loadLines path lines).result =
      .ok (lines.filterMap fun line => (LineReading.ofChars line).event?) := by
  have hmap : lines.filterMap (fun line => (LineReading.ofChars line).event?) =
      (lines.zipIdx.map Prod.fst).filterMap fun line => (LineReading.ofChars line).event? := by
    rw [List.zipIdx_map_fst]
  rw [hmap]
  simp only [loadLines, readLines, List.filterMap_map, Function.comp_def]

/-- The events of a text in bytes. Bytes that are wrong are found before the first line is read, a
sequence that the end cuts off only behind the last whole line. -/
def loadBytes (path : String) (bytes : List UInt8) : Logged LoadError (List NetworkEvent) :=
  match Text.decode bytes with
  | (cs, .complete) => loadLines path (Text.allLines cs)
  | (cs, .cutOff error) => do
    let _ ← loadLines path (Text.finishedLines cs)
    throw (.text error)
  | (_, .invalid error) => throw (.text error)

/-- The events of a request log, in the order of its lines (`load_network_events`). -/
def loadLog (files : FileSystem) (path : Path) : Logged LoadError (List NetworkEvent) := do
  let bytes ← .ofExcept ((files.read path.text).mapError LoadError.file)
  .log .debug ("Processing " ++ path.text ++ "...")
  loadBytes path.text bytes

/-! ## A directory of logs -/

/-- What the name of a request log ends with. -/
def logEnding : List Char := ".jsonl".toList

/-- Whether a name is that of a request log. -/
def isLogName (name : String) : Bool := logEnding.isSuffixOf name.toList

/-- The names of the request logs among some names, in order. -/
def logNames (names : List String) : List String :=
  (names.filter isLogName).mergeSort fun a b => decide (a ≤ b)

theorem logNames_sorted (names : List String) : (logNames names).Pairwise fun a b => a ≤ b := by
  refine (List.pairwise_mergeSort ?_ ?_ _).imp fun hle => by simpa using hle
  · intro a b c hab hbc
    simp only [decide_eq_true_eq] at *
    exact String.le_trans hab hbc
  · intro a b
    simp only [Bool.or_eq_true, decide_eq_true_eq]
    exact String.le_total a b

/-- The order in which a directory lists its names does not matter. -/
theorem logNames_eq_of_perm {names others : List String} (h : names.Perm others) :
    logNames names = logNames others := by
  refine List.Perm.eq_of_pairwise (fun a b _ _ hab hba => String.le_antisymm hab hba)
    (logNames_sorted names) (logNames_sorted others) ?_
  exact (List.mergeSort_perm _ _).trans ((h.filter _).trans (List.mergeSort_perm _ _).symm)

/-- Whether an event does not start after another. -/
def startsNoLater (a b : NetworkEvent) : Bool := decide (a.startTime.units ≤ b.startTime.units)

theorem startsNoLater_iff {a b : NetworkEvent} :
    startsNoLater a b = true ↔ a.startTime.units ≤ b.startTime.units := decide_eq_true_iff

theorem startsNoLater_trans (a b c : NetworkEvent) (hab : startsNoLater a b = true)
    (hbc : startsNoLater b c = true) : startsNoLater a c = true :=
  startsNoLater_iff.2 (Int.le_trans (startsNoLater_iff.1 hab) (startsNoLater_iff.1 hbc))

theorem startsNoLater_total (a b : NetworkEvent) :
    (startsNoLater a b || startsNoLater b a) = true := by
  rw [Bool.or_eq_true, startsNoLater_iff, startsNoLater_iff]
  exact Int.le_total _ _

/-- The events of the logs in a directory, in the order of their starts (`load_directory_events`).
Events that start together stay in the order of the files and of the lines. -/
def loadDirectory (files : FileSystem) (path : Path) : Logged LoadError (List NetworkEvent) := do
  let names ← .ofExcept ((files.names path.text).mapError LoadError.file)
  let events ← (logNames names).mapM fun name => loadLog files (path.child name)
  return events.flatten.mergeSort startsNoLater

theorem mergeSort_startsNoLater_sorted (events : List NetworkEvent) :
    (events.mergeSort startsNoLater).Pairwise fun a b => a.startTime.units ≤ b.startTime.units :=
  (List.pairwise_mergeSort startsNoLater_trans startsNoLater_total events).imp startsNoLater_iff.1

end NetTimeline
