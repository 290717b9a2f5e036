import NetTimeline.Axis.Basic
import NetTimeline.Command.Arguments
import NetTimeline.Files.System
import NetTimeline.Number.Decimal

/-!
# The settings of the command

The values of the options are read in the order in which the options are first given, then the path;
whatever cannot be read first is told. Behind the path nothing may follow.

This stands for the types that the library click converts the values to: `FLOAT`, `IntRange`,
`Choice` and `Path` with `exists`, and for the order in which it does.

Main statement: `readTicks_mem` — the wanted number of intervals lies in its range.
-/

set_option autoImplicit false

namespace NetTimeline.Command

open Files (FileError FileSystem)

/-- What the command is to do. -/
structure Settings where
  path : Option String
  duration : Option Binary64
  ticks : Nat
  fromDate : Option String
  toDate : Option String
  scale : Option Scale
  json : Bool
  verbose : Bool
  deriving DecidableEq

/-- Why there are no settings. -/
inductive SettingsError where
  | usage (error : UsageError)
  /-- The path cannot even be looked up. -/
  | path (error : FileError)
  deriving DecidableEq, Repr

namespace Settings

/-- The settings if nothing is given. -/
def default : Settings :=
  ⟨none, none, defaultTickCount, none, none, none, false, false⟩

/-- A number that may have digits of any script. -/
def readDuration (value : String) : Except String Binary64 :=
  match readBinary64? (Text.asciiDigits value.toList) with
  | some x => .ok x
  | none => .error (Text.quoted value ++ " is not a valid float.")

/-- A whole number that may have digits of any script, within its range. -/
def readTicks (value : String) : Except String Nat :=
  match readInt? (Text.asciiDigits value.toList) with
  | some n =>
    if 1 ≤ n ∧ n ≤ maxTickCount then .ok n.toNat
    else .error (intNumeral n ++ " is not in the range 1<=x<=" ++ toString maxTickCount ++ ".")
  | none => .error (Text.quoted value ++ " is not a valid integer range.")

theorem readTicks_mem {value : String} {n : Nat} (h : readTicks value = .ok n) :
    1 ≤ n ∧ n ≤ maxTickCount := by
  unfold readTicks at h
  split at h
  · split at h
    · injection h with h
      omega
    · contradiction
  · contradiction

/-- The name of a scale. -/
def readScale (value : String) : Except String Scale :=
  match Scale.ofName? value with
  | some scale => .ok scale
  | none =>
    let names := [Scale.millisecond, .second, .minute].map fun scale => Text.quoted scale.name
    .error (Text.quoted value ++ " is not one of " ++ ", ".intercalate names ++ ".")

/-- The settings with the value of an option read. -/
def set (settings : Settings) (parameter : Parameter) (value : String) :
    Except String Settings :=
  match parameter with
  | .duration => (readDuration value).map fun x => { settings with duration := some x }
  | .ticks => (readTicks value).map fun n => { settings with ticks := n }
  | .fromDate => .ok { settings with fromDate := some value }
  | .toDate => .ok { settings with toDate := some value }
  | .scale => (readScale value).map fun scale => { settings with scale := some scale }
  | .json => .ok { settings with json := true }
  | .verbose => .ok { settings with verbose := true }
  | .help => .ok settings

/-- The settings with some options of a command line read. -/
def setAll (arguments : Arguments) (settings : Settings) :
    List Parameter → Except SettingsError Settings
  | [] => .ok settings
  | parameter :: parameters =>
    match settings.set parameter ((arguments.value? parameter).getD "") with
    | .ok settings => setAll arguments settings parameters
    | .error complaint => .error (.usage (.badValue parameter.names complaint))

/-- The settings with a path that leads somewhere. -/
def setPath (files : FileSystem) (settings : Settings) (path : String) :
    Except SettingsError Settings :=
  match files.find path with
  | .ok _ => .ok { settings with path := some path }
  | .error .nullCharacter => .error (.path ⟨.nullCharacter, path⟩)
  | .error _ =>
    .error (.usage (.badValue [pathName] ("Path " ++ Text.quoted path ++ " does not exist.")))

/-- The settings of a command line. -/
def ofArguments (files : FileSystem) (arguments : Arguments) : Except SettingsError Settings := do
  let settings ← setAll arguments default arguments.parameters
  match arguments.positional with
  | [] => return settings
  | [path] => settings.setPath files path
  | path :: extra =>
    let _ ← settings.setPath files path
    .error (.usage (.extraArguments extra))

end Settings

end NetTimeline.Command
