import NetTimeline.Command.Parameter
import NetTimeline.Text.Likeness
import NetTimeline.Text.Quoted

/-!
# Reading the command line

A command line is a list of texts. `Arguments.read` sorts them into options, with their values, and
the rest. Long names may have their value behind an equals sign, short ones behind the letter, and
flags may share a dash; behind `--` nothing is an option. A dash alone is none either.

This stands for the option parser of the library click and for its usage errors.

Main statement: `Arguments.read_separator` — what stands in front of the separator without a dash,
and what stands behind it, is taken as it is.
-/

set_option autoImplicit false

namespace NetTimeline.Command

/-- Why a command line cannot be used. -/
inductive UsageError where
  /-- There is no option of this name, but perhaps some like it. -/
  | unknownOption (name : String) (close : List String)
  | valueMissing (name : String)
  | valueUnexpected (name : String)
  /-- A value is not of the kind that is asked for. -/
  | badValue (names : List String) (complaint : String)
  | extraArguments (arguments : List String)
  /-- Both a path and a duration are given. -/
  | bothSources
  /-- Neither a path nor a duration is given. -/
  | noSource
  deriving DecidableEq, Repr

/-- The hint at names like an unknown one. -/
def closeHint : List String → String
  | [] => ""
  | [name] => " Did you mean " ++ Text.quoted name ++ "?"
  | names => " (Did you mean one of: " ++ ", ".intercalate (names.map Text.quoted) ++ "?)"

def UsageError.message : UsageError → String
  | .unknownOption name close => "No such option " ++ Text.quoted name ++ "." ++ closeHint close
  | .valueMissing name => "Option " ++ Text.quoted name ++ " requires an argument."
  | .valueUnexpected name => "Option " ++ Text.quoted name ++ " does not take a value."
  | .badValue names complaint =>
    "Invalid value for " ++ " / ".intercalate (names.map Text.quoted) ++ ": " ++ complaint
  | .extraArguments arguments =>
    "Got unexpected extra " ++ (if arguments.length = 1 then "argument" else "arguments") ++ " (" ++
      " ".intercalate arguments ++ ")"
  | .bothSources => "Provide either INPUT_PATH or --duration, not both"
  | .noSource => "Provide either INPUT_PATH or --duration"

/-- Whether the usage is told along with the message: it is, unless only the value of a known
option is missing or too much. -/
def UsageError.tellsUsage : UsageError → Bool
  | .valueMissing _ | .valueUnexpected _ => false
  | _ => true

/-- An option with its value; a flag has none. -/
structure Setting where
  parameter : Parameter
  value : String
  deriving DecidableEq, Repr

/-- The options of a command line, in order, and what is no option. -/
structure Arguments where
  settings : List Setting
  positional : List String
  deriving DecidableEq, Repr

/-- What one text of the command line means: some options, of which the last may still want its
value, under the name that it was given by. -/
structure Reading where
  settings : List Setting
  wants : Option (Parameter × String)
  deriving DecidableEq, Repr

/-- The option of a long name, with the value behind the equals sign. -/
def readLong (name : String) (value? : Option String) : Except UsageError Reading :=
  match Parameter.ofLong? name with
  | none => .error (.unknownOption name (Text.closeWords name (Parameter.all.map (·.longName))))
  | some parameter =>
    match parameter.takesValue, value? with
    | true, some value => .ok ⟨[⟨parameter, value⟩], none⟩
    | true, none => .ok ⟨[], some (parameter, name)⟩
    | false, some _ => .error (.valueUnexpected name)
    | false, none => .ok ⟨[⟨parameter, ""⟩], none⟩

/-- The options of letters behind a dash; what stands behind one that takes a value is the value. -/
def readLetters : List Char → Except UsageError Reading
  | [] => .ok ⟨[], none⟩
  | letter :: letters =>
    match Parameter.ofShort? letter with
    | none => .error (.unknownOption (Parameter.shortName letter) [])
    | some parameter =>
      if parameter.takesValue then
        match letters with
        | [] => .ok ⟨[], some (parameter, Parameter.shortName letter)⟩
        | _ => .ok ⟨[⟨parameter, String.ofList letters⟩], none⟩
      else (readLetters letters).map fun reading =>
        { reading with settings := ⟨parameter, ""⟩ :: reading.settings }

/-- The options that a text with a dash in front means. -/
def readDashed (cs : List Char) : Except UsageError Reading :=
  match cs with
  | '-' :: '-' :: _ =>
    let name := String.ofList (cs.takeWhile (· ≠ '='))
    match cs.dropWhile (· ≠ '=') with
    | _ :: value => readLong name (some (String.ofList value))
    | [] => readLong name none
  | _ => readLetters (cs.drop 1)

/-- Whether a text of the command line means options. -/
def isDashed (cs : List Char) : Bool := cs.head? = some '-' && 1 < cs.length

namespace Arguments

/-- The arguments with further options behind the others. -/
def withSettings (arguments : Arguments) (settings : List Setting) : Arguments :=
  { arguments with settings := arguments.settings ++ settings }

/-- What a command line means, behind what has been read of it. -/
def readFrom (read : Arguments) : List String → Except UsageError Arguments
  | [] => .ok read
  | text :: rest =>
    if text = "--" then .ok { read with positional := read.positional ++ rest }
    else if isDashed text.toList then
      match readDashed text.toList with
      | .error e => .error e
      | .ok ⟨settings, none⟩ => readFrom (read.withSettings settings) rest
      | .ok ⟨settings, some (parameter, name)⟩ =>
        match rest with
        | [] => .error (.valueMissing name)
        | value :: rest => readFrom (read.withSettings (settings ++ [⟨parameter, value⟩])) rest
    else readFrom { read with positional := read.positional ++ [text] } rest

/-- What a command line means. -/
def read (texts : List String) : Except UsageError Arguments := readFrom ⟨[], []⟩ texts

theorem readFrom_append {front : List String} (h : ∀ text ∈ front, isDashed text.toList = false)
    (arguments : Arguments) (rest : List String) :
    readFrom arguments (front ++ rest) =
      readFrom { arguments with positional := arguments.positional ++ front } rest := by
  induction front generalizing arguments with
  | nil => simp
  | cons text front ih =>
    have hplain : isDashed text.toList = false := h text (by simp)
    have hne : text ≠ "--" := by
      rintro rfl
      exact absurd hplain (by decide)
    rw [List.cons_append, readFrom]
    simp only [hne, hplain, if_false, Bool.false_eq_true]
    rw [ih (fun text hmem => h text (by simp [hmem]))]
    simp

theorem read_separator {front : List String} (h : ∀ text ∈ front, isDashed text.toList = false)
    (back : List String) : read (front ++ "--" :: back) = .ok ⟨[], front ++ back⟩ := by
  simp [read, readFrom_append h, readFrom]

/-- The options, each once, in the order in which they are first given. -/
def parameters (arguments : Arguments) : List Parameter :=
  (arguments.settings.map Setting.parameter).eraseDups

/-- The value of an option; of several, the last. -/
def value? (arguments : Arguments) (parameter : Parameter) : Option String :=
  (arguments.settings.filter fun setting => setting.parameter = parameter).getLast?.map
    Setting.value

/-- Whether an option is given. -/
def has (arguments : Arguments) (parameter : Parameter) : Bool :=
  (arguments.value? parameter).isSome

end Arguments

end NetTimeline.Command
