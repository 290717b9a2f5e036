import NetTimeline.Json.Value

/-!
# Writing JSON

A value is written without blanks, or with each nested level on lines of its own and indented by a
given number of blanks.

This stands for the JSON writer of the library pydantic.

Main statement: `escape_of_plain` — a character that needs no escape stands for itself.
-/

set_option autoImplicit false

namespace NetTimeline.Json

/-- A character inside a string. -/
def escape (c : Char) : List Char :=
  if c = '"' then ['\\', '"']
  else if c = '\\' then ['\\', '\\']
  else if c = '\x08' then ['\\', 'b']
  else if c = '\x0c' then ['\\', 'f']
  else if c = '\n' then ['\\', 'n']
  else if c = '\r' then ['\\', 'r']
  else if c = '\t' then ['\\', 't']
  else if c.toNat < 0x20 then '\\' :: 'u' :: Text.padZeros 4 (Nat.toDigits 16 c.toNat)
  else [c]

theorem escape_of_plain {c : Char} (hquote : c ≠ '"') (hback : c ≠ '\\')
    (hcontrol : 0x20 ≤ c.toNat) : escape c = [c] := by
  have hne : ∀ d : Char, d.toNat < 0x20 → c ≠ d := by
    rintro d hd rfl
    omega
  simp [escape, hquote, hback, hne '\x08' (by decide), hne '\x0c' (by decide),
    hne '\n' (by decide), hne '\r' (by decide), hne '\t' (by decide), Nat.not_lt.2 hcontrol]

/-- A string in quotes. -/
def writeString (s : String) : List Char := '"' :: s.toList.flatMap escape ++ ['"']

/-- A binary64 value; those that are not finite have names. -/
def writeFloat : Binary64 → List Char
  | .nan => "NaN".toList
  | .infinite true => "-Infinity".toList
  | .infinite false => "Infinity".toList
  | x => x.jsonText.toList

/-- What separates two nested values: nothing, or a line break and the blanks of the level. -/
def newline (indent : Option Nat) (level : Nat) : List Char :=
  match indent with
  | none => []
  | some blanks => '\n' :: List.replicate (blanks * level) ' '

/-- What stands between a name and its value. -/
def colon : Option Nat → List Char
  | none => [':']
  | some _ => [':', ' ']

mutual

/-- A value at a level of nesting. -/
def write (indent : Option Nat) (level : Nat) : Value → List Char
  | .null => "null".toList
  | .bool true => "true".toList
  | .bool false => "false".toList
  | .int n => (intNumeral n).toList
  | .float x => writeFloat x
  | .string s => writeString s
  | .array [] => ['[', ']']
  | .array (item :: items) =>
    '[' :: newline indent (level + 1) ++ write indent (level + 1) item ++
      writeItems indent (level + 1) items ++ newline indent level ++ [']']
  | .object [] => ['\x7b', '\x7d']
  | .object ((name, value) :: fields) =>
    '\x7b' :: newline indent (level + 1) ++ writeString name ++ colon indent ++
      write indent (level + 1) value ++ writeFields indent (level + 1) fields ++
      newline indent level ++ ['\x7d']

/-- The items of an array behind its first one. -/
def writeItems (indent : Option Nat) (level : Nat) : List Value → List Char
  | [] => []
  | item :: items =>
    ',' :: newline indent level ++ write indent level item ++ writeItems indent level items

/-- The fields of an object behind its first one. -/
def writeFields (indent : Option Nat) (level : Nat) : List (String × Value) → List Char
  | [] => []
  | (name, value) :: fields =>
    ',' :: newline indent level ++ writeString name ++ colon indent ++
      write indent level value ++ writeFields indent level fields

end

section Equations

variable (indent : Option Nat) (level : Nat)

theorem write_null : write indent level .null = "null".toList := rfl

theorem write_bool (b : Bool) :
    write indent level (.bool b) = (if b then "true" else "false").toList := by
  cases b <;> rfl

theorem write_int (n : Int) : write indent level (.int n) = (intNumeral n).toList := rfl

theorem write_float (x : Binary64) : write indent level (.float x) = writeFloat x := rfl

theorem write_string (s : String) : write indent level (.string s) = writeString s := rfl

theorem write_array (item : Value) (items : List Value) :
    write indent level (.array (item :: items)) =
      '[' :: newline indent (level + 1) ++ write indent (level + 1) item ++
        writeItems indent (level + 1) items ++ newline indent level ++ [']'] := rfl

theorem write_object (name : String) (value : Value) (fields : List (String × Value)) :
    write indent level (.object ((name, value) :: fields)) =
      '\x7b' :: newline indent (level + 1) ++ writeString name ++ colon indent ++
        write indent (level + 1) value ++ writeFields indent (level + 1) fields ++
        newline indent level ++ ['\x7d'] := rfl

theorem writeItems_nil : writeItems indent level [] = [] := rfl

theorem writeItems_cons (item : Value) (items : List Value) :
    writeItems indent level (item :: items) =
      ',' :: newline indent level ++ write indent level item ++ writeItems indent level items := rfl

theorem writeFields_nil : writeFields indent level [] = [] := rfl

theorem writeFields_cons (name : String) (value : Value) (fields : List (String × Value)) :
    writeFields indent level ((name, value) :: fields) =
      ',' :: newline indent level ++ writeString name ++ colon indent ++
        write indent level value ++ writeFields indent level fields := rfl

end Equations

/-- A value as a JSON document. -/
def document (indent : Option Nat) (value : Value) : String :=
  String.ofList (write indent 0 value)

end NetTimeline.Json
