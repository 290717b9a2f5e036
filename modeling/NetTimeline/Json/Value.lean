import NetTimeline.Number.Basic
import NetTimeline.Text.Quoted

/-!
# JSON values

A JSON value, where a number without fraction and exponent is a whole number of any size and any
other is a binary64 value. The fields of an object keep the order in which their names first
appeared. `Value.literal` shows a value in a message, as `repr` does.

Main statements: `lookup?_insertField_self`, `lookup?_insertField_of_ne` — what a written field
changes.
-/

set_option autoImplicit false

namespace NetTimeline.Json

inductive Value where
  | null
  | bool (b : Bool)
  | int (n : Int)
  | float (x : Binary64)
  | string (s : String)
  | array (items : List Value)
  | object (fields : List (String × Value))

/-- The value of a field. -/
def lookup? (name : String) : List (String × Value) → Option Value
  | [] => none
  | (key, value) :: fields => if key = name then some value else lookup? name fields

/-- A field written into an object: in its old place if the name is there already, else last. -/
def insertField (name : String) (value : Value) : List (String × Value) → List (String × Value)
  | [] => [(name, value)]
  | (key, old) :: fields =>
    if key = name then (key, value) :: fields else (key, old) :: insertField name value fields

theorem lookup?_insertField_self (name : String) (value : Value)
    (fields : List (String × Value)) :
    lookup? name (insertField name value fields) = some value := by
  induction fields with
  | nil => simp [insertField, lookup?]
  | cons field fields ih =>
    by_cases h : field.1 = name <;> simp [insertField, lookup?, h, ih]

theorem lookup?_insertField_of_ne {name other : String} (h : other ≠ name) (value : Value)
    (fields : List (String × Value)) :
    lookup? other (insertField name value fields) = lookup? other fields := by
  induction fields with
  | nil => simp [insertField, lookup?, Ne.symm h]
  | cons field fields ih =>
    by_cases hname : field.1 = name
    · simp [insertField, lookup?, hname, Ne.symm h]
    · simp [insertField, lookup?, hname, ih]

namespace Value

/-- The kind of a value, as messages name it. -/
def kind : Value → String
  | .null => "NoneType"
  | .bool _ => "bool"
  | .int _ => "int"
  | .float _ => "float"
  | .string _ => "str"
  | .array _ => "list"
  | .object _ => "dict"

mutual

/-- The value in a message. -/
def literal : Value → String
  | .null => "None"
  | .bool true => "True"
  | .bool false => "False"
  | .int n => intNumeral n
  | .float x => x.text
  | .string s => Text.quoted s
  | .array items => "[" ++ ", ".intercalate (literals items) ++ "]"
  | .object fields => "\x7b" ++ ", ".intercalate (fieldLiterals fields) ++ "\x7d"

/-- The items of an array in a message. -/
def literals : List Value → List String
  | [] => []
  | item :: items => literal item :: literals items

/-- The fields of an object in a message. -/
def fieldLiterals : List (String × Value) → List String
  | [] => []
  | (name, value) :: fields =>
    (Text.quoted name ++ ": " ++ literal value) :: fieldLiterals fields

end

theorem literals_eq_map (items : List Value) : literals items = items.map literal := by
  induction items with
  | nil => simp [literals]
  | cons item items ih => simp [literals, ih]

end Value

end NetTimeline.Json
