import NetTimeline.Event.Numeral
import NetTimeline.Json.Value

/-!
# Fields of a network event

What a field of an event may hold is read leniently: a time may be any number, a truth value or a
numeral in a string; a status may be any of these that is whole.

This stands for the validation of a field by the library pydantic in its lax mode, with its errors.
-/

set_option autoImplicit false

namespace NetTimeline

open Json (Value)

/-- What is wrong with a field. -/
inductive FieldProblem where
  | notNumber
  | unreadableNumber
  | notFinite
  | notWholeNumber
  | unreadableWholeNumber
  | fractional
  | wholeNumberTooLarge
  | notString
  deriving DecidableEq, Repr

namespace FieldProblem

def message : FieldProblem → String
  | .notNumber => "Input should be a valid number"
  | .unreadableNumber => "Input should be a valid number, unable to parse string as a number"
  | .notFinite => "Input should be a finite number"
  | .notWholeNumber => "Input should be a valid integer"
  | .unreadableWholeNumber =>
    "Input should be a valid integer, unable to parse string as an integer"
  | .fractional => "Input should be a valid integer, got a number with a fractional part"
  | .wholeNumberTooLarge =>
    "Unable to parse input string as an integer, exceeded maximum size"
  | .notString => "Input should be a valid string"

/-- The short name of the problem. -/
def code : FieldProblem → String
  | .notNumber => "float_type"
  | .unreadableNumber => "float_parsing"
  | .notFinite => "finite_number"
  | .notWholeNumber => "int_type"
  | .unreadableWholeNumber => "int_parsing"
  | .fractional => "int_from_float"
  | .wholeNumberTooLarge => "int_parsing_size"
  | .notString => "string_type"

end FieldProblem

/-- A value that has to be finite. -/
def requireFinite : Binary64 → Except FieldProblem Finite64
  | .finite x => .ok x
  | _ => .error .notFinite

/-- A truth value as a number. -/
def boolNumber (b : Bool) : Int := if b then 1 else 0

/-- The value nearest to a whole number, unless that is infinite. -/
def timeOfInt (n : Int) : Except FieldProblem Finite64 :=
  match Binary64.ofInt n with
  | .finite x => .ok x
  | _ => .error .notNumber

/-- A time in milliseconds. -/
def readTime : Value → Except FieldProblem Finite64
  | .float x => requireFinite x
  | .int n => timeOfInt n
  | .bool b => timeOfInt (boolNumber b)
  | .string s =>
    match readTimeText? s.toList with
    | some x => requireFinite x
    | none => .error .unreadableNumber
  | _ => .error .notNumber

/-- What is wrong with a field that holds no whole number as a text. -/
def problemOfWhole : WholeTextError → FieldProblem
  | .unreadable => .unreadableWholeNumber
  | .tooLong => .wholeNumberTooLarge

/-- The first size of a whole number beyond 64 bits with a sign. -/
def wholeLimit : Nat := 9223372036854775808

/-- A finite value that is whole and within 64 bits. -/
def wholeOfFinite (x : Finite64) : Except FieldProblem Int :=
  if x.magnitude.units % unitsPerOne ≠ 0 then .error .fractional
  else if wholeLimit ≤ x.magnitude.units / unitsPerOne then .error .wholeNumberTooLarge
  else .ok (x.units / unitsPerOne)

/-- A status, which may be absent. -/
def readStatus : Value → Except FieldProblem (Option Int)
  | .null => .ok none
  | .int n => .ok (some n)
  | .bool b => .ok (some (boolNumber b))
  | .float x => (requireFinite x).bind fun x => (wholeOfFinite x).map some
  | .string s =>
    match readWholeText s.toList with
    | .ok n => .ok (some n)
    | .error e => .error (problemOfWhole e)
  | _ => .error .notWholeNumber

/-- A text. -/
def readText : Value → Except FieldProblem String
  | .string s => .ok s
  | _ => .error .notString

/-- A text, which may be absent. -/
def readOptionalText : Value → Except FieldProblem (Option String)
  | .null => .ok none
  | value => (readText value).map some

end NetTimeline
