/-!
# The parameters of the command

The options that `main` declares to the library click. An option has a long name, some have a short
one as well, and an option either takes a value or is a flag. What is no option is the path.

Main statements: `Parameter.ofLong?_longName`, `Parameter.ofShort?_eq_some` — an option is found by
its names.
-/

set_option autoImplicit false

namespace NetTimeline.Command

/-- An option of the command. -/
inductive Parameter where
  | duration
  | ticks
  | fromDate
  | toDate
  | scale
  | json
  | verbose
  | help
  deriving DecidableEq, Repr

namespace Parameter

/-- All options, in the order in which they are listed. -/
def all : List Parameter :=
  [.duration, .ticks, .fromDate, .toDate, .scale, .json, .verbose, .help]

theorem mem_all (parameter : Parameter) : parameter ∈ all := by
  cases parameter <;> decide

def longName : Parameter → String
  | .duration => "--duration"
  | .ticks => "--ticks"
  | .fromDate => "--from-date"
  | .toDate => "--to-date"
  | .scale => "--scale"
  | .json => "--json"
  | .verbose => "--verbose"
  | .help => "--help"

/-- The letter of the short name, if there is one. -/
def letter? : Parameter → Option Char
  | .duration => some 'd'
  | .ticks => some 'n'
  | .verbose => some 'v'
  | _ => none

def takesValue : Parameter → Bool
  | .json | .verbose | .help => false
  | _ => true

/-- The option of a long name. -/
def ofLong? (name : String) : Option Parameter :=
  all.find? fun parameter => parameter.longName == name

/-- The option of a letter. -/
def ofShort? (letter : Char) : Option Parameter :=
  all.find? fun parameter => parameter.letter? == some letter

theorem ofLong?_longName (parameter : Parameter) :
    ofLong? parameter.longName = some parameter := by
  cases parameter <;> decide +kernel

theorem ofShort?_eq_some {parameter : Parameter} {letter : Char}
    (h : parameter.letter? = some letter) : ofShort? letter = some parameter := by
  cases parameter <;> simp_all [letter?] <;> subst h <;> decide

/-- The short name of a letter. -/
def shortName (letter : Char) : String := String.ofList ['-', letter]

/-- The names of the option in a message about its value. -/
def names (parameter : Parameter) : List String :=
  (parameter.letter?.map shortName).toList ++ [parameter.longName]

end Parameter

/-- The name of the path in a message. -/
def pathName : String := "[INPUT_PATH]"

end NetTimeline.Command
