import NetTimeline.Axis.Document
import NetTimeline.Axis.Table
import NetTimeline.Command.Help
import NetTimeline.Command.Settings
import NetTimeline.Timeline

/-!
# Running the command

Reference model of `main` and `_print_axis`. The command prints the axis of a duration or of
recorded requests, as a table or as JSON, to the standard output; the log and all errors go to the
other one. `runByReader` tells what a command line prints and how it ends, whatever reads the dates
on it, and `run` with the readings of this project. Of the errors those are told that the two
`except` clauses of `main` name; `isTold` lists them.
-/

set_option autoImplicit false

namespace NetTimeline.Command

open Calendar (Moment readMoment)
open Files (FileSystem Path)

/-- What the command prints to its two outputs, and how it ends. An error that is not the user's is
left to the caller. -/
structure Outcome where
  exitCode : Nat
  out : String
  err : String
  escaped : Option TimelineError
  deriving DecidableEq

/-- Whether an error is told to the user: those about the input are. -/
def isTold : TimelineError → Bool
  | .missing _ => true
  | .load (.file error) => error.problem = .notFound || error.problem = .nullCharacter
  | .load (.text _) => true
  | .window .outOfRange | .window (.start .beyondClock) | .window (.start .beyondYears) => false
  | .window _ => true
  | .axis (.number error) => error = .nanToWhole || error = .tooManyDigits
  | .axis _ => true

/-- The records that are shown, as lines. -/
def logText (verbose : Bool) (records : List LogRecord) : String :=
  unlines ((records.filter fun record => verbose || record.level = .warning).map LogRecord.line)

/-- The axis as it is printed. -/
def axisText (settings : Settings) (axis : Axis) : String :=
  if settings.json then axis.toJson (some 2) ++ "\n" else unlines (axis.table settings.scale)

/-- The line that tells an error. -/
def errorLine (message : String) : String := "Error: " ++ message ++ "\n"

/-- The outcome of an axis, or of the error that there is instead. -/
def report (settings : Settings) (axis : Logged TimelineError Axis) : Outcome :=
  let log := logText settings.verbose axis.records
  match axis.result with
  | .ok axis => ⟨0, axisText settings axis, log, none⟩
  | .error error =>
    if isTold error then ⟨1, "", log ++ errorLine error.message, none⟩ else ⟨1, "", log, some error⟩

/-- The outcome of a command line that cannot be used. -/
def refuse (error : UsageError) : Outcome :=
  ⟨2, "", (if error.tellsUsage then usageHint else "") ++ errorLine error.message, none⟩

/-- What the settings ask for (`main`, behind the reading of the command line). -/
def Settings.run (settings : Settings) (files : FileSystem) (read : DateReader) : Outcome :=
  let ticks : TickRequest := .number (.int settings.ticks)
  match settings.path, settings.duration with
  | some _, some _ => refuse .bothSources
  | none, none => refuse .noSource
  | some path, none =>
    report settings
      (axisByReader files read ⟨.ofString path, ticks, settings.fromDate, settings.toDate⟩)
  | none, some duration =>
    report settings
      (Logged.ofExcept ((Axis.divide (.float duration) ticks).mapError TimelineError.axis))

/-- What a command line prints and how it ends, whatever reads the dates on it. -/
def runByReader (files : FileSystem) (read : DateReader) (texts : List String) : Outcome :=
  match Arguments.read texts with
  | .error error => refuse error
  | .ok arguments =>
    if arguments.has .help then ⟨0, helpText, "", none⟩
    else match Settings.ofArguments files arguments with
      | .ok settings => settings.run files read
      | .error (.usage error) => refuse error
      | .error (.path error) => ⟨1, "", "", some (.load (.file error))⟩

/-- What a command line prints and how it ends, with the dates as this project reads them. -/
def run (files : FileSystem) (present : Moment) (texts : List String) : Outcome :=
  runByReader files (readMoment present) texts

/-- The path on a command line, if it is one that can be used. -/
def pathOf? (texts : List String) : Option String :=
  match Arguments.read texts with
  | .ok arguments => arguments.positional.head?
  | .error _ => none

end NetTimeline.Command
