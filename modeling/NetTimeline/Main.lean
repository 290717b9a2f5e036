import NetTimeline.Command.Run
import Std.Time.DateTime.Timestamp

/-!
# The command

Looks up the path on the command line, and the request logs below it, asks for the time, and prints
what `Command.run` makes of them.
-/

set_option autoImplicit false

namespace NetTimeline.Main

open Calendar (Moment)
open Files (Entry FileSystem Path PathProblem)

/-- Why a path could not be looked up. -/
def problemOf : IO.Error → PathProblem
  | .inappropriateType .. => .notDirectory
  | .invalidArgument .. => .nameTooLong
  | _ => .notFound

/-- What a path leads to. -/
def look (path : String) : IO (Except PathProblem Entry) := do
  let below := IO.FS.DirEntry.mk path ""
  try
    let entries ← below.root.readDir
    return .ok (.directory (entries.toList.map fun entry => entry.fileName))
  catch _ =>
    try
      let bytes ← IO.FS.readBinFile path
      return .ok (.file bytes.toList)
    catch error =>
      return .error (problemOf error)

/-- A path with what it leads to. -/
def lookNamed (path : String) : IO (String × Except PathProblem Entry) := do
  return (path, ← look path)

/-- All that the command may ask for at a path: itself, however it is written, and the request logs
in it. -/
def gather (given : String) : IO FileSystem := do
  let path := Path.ofString given
  let itself ← look path.text
  let names := match itself with
    | .ok (.directory names) => logNames names
    | _ => []
  let logs ← names.mapM fun name => lookNamed (path.child name).text
  return .ofList ([← lookNamed given, (path.text, itself)] ++ logs)

/-- The present. -/
def present : IO Moment := do
  let now ← Std.Time.Timestamp.now
  return (Moment.ofMicros? (now.toMillisecondsSinceUnixEpoch.val * 1000)).getD Moment.epochStart

end NetTimeline.Main

/-- Runs the command. -/
def main (texts : List String) : IO UInt32 := do
  let files ← match NetTimeline.Command.pathOf? texts with
    | some path => NetTimeline.Main.gather path
    | none => pure (.ofList [])
  let outcome := NetTimeline.Command.run files (← NetTimeline.Main.present) texts
  (← IO.getStderr).putStr outcome.err
  (← IO.getStdout).putStr outcome.out
  match outcome.escaped with
  | some error => (← IO.getStderr).putStrLn error.message
  | none => pure ()
  return outcome.exitCode.toUInt32
