import NetTimeline.Json.Value
import NetTimeline.Text.Part

/-!
# Reading JSON

`Json.read` reads one JSON document, as `json.loads` does. Besides the standard it takes the names
`NaN`, `Infinity` and `-Infinity`; of fields with one name the last value stands in the first one's
place. A failure tells the position of the character at which reading stopped.

The readers work on the rest of the text and report a failure by the number of characters left,
from which `read` computes the position. A value of `n` characters is read with `2 * n + 1` units of
fuel, since a bracket enters two readers, one for the list and one for its first value.

Lists and objects are read here however deep they are nested. `json.loads` goes down into them by
recursion and fails where the stack of its interpreter ends; `nesting` tells how deep a text goes,
for what is to be said only of texts that keep away from there.

Main statement: `readString_plain` — a character that needs no escape is read as itself.
-/

set_option autoImplicit false

namespace NetTimeline.Json

/-- What is wrong with a text that is not JSON. -/
inductive Problem where
  | expectingValue
  | expectingName
  | expectingColon
  | expectingComma
  | unterminatedString
  | invalidControl
  | invalidEscape
  | invalidUnicodeEscape
  | extraData
  | byteOrderMark
  deriving DecidableEq, Repr

def Problem.message : Problem → String
  | .expectingValue => "Expecting value"
  | .expectingName => "Expecting property name enclosed in double quotes"
  | .expectingColon => "Expecting ':' delimiter"
  | .expectingComma => "Expecting ',' delimiter"
  | .unterminatedString => "Unterminated string starting at"
  | .invalidControl => "Invalid control character at"
  | .invalidEscape => "Invalid \\escape"
  | .invalidUnicodeEscape => "Invalid \\uXXXX escape"
  | .extraData => "Extra data"
  | .byteOrderMark => "Unexpected UTF-8 BOM (decode using utf-8-sig)"

/-- A failure inside a text of which `remaining` characters were left. -/
inductive Failure where
  | malformed (problem : Problem) (remaining : Nat)
  | tooManyDigits (count : Nat)
  deriving DecidableEq, Repr

/-- Why a text is not read. -/
inductive ReadError where
  /-- The text is not JSON; lines and columns count from one, positions from zero. -/
  | malformed (problem : Problem) (line column position : Nat)
  /-- A whole number has more digits than are read. -/
  | tooManyDigits (count : Nat)
  deriving DecidableEq, Repr

def ReadError.message : ReadError → String
  | .malformed problem line column position =>
    problem.message ++ ": line " ++ toString line ++ " column " ++ toString column ++
      " (char " ++ toString position ++ ")"
  | .tooManyDigits count =>
    "Exceeds the limit (4300 digits) for integer string conversion: value has " ++
      toString count ++ " digits; use sys.set_int_max_str_digits() to increase the limit"

/-- What a reader makes of a text: a result and the rest of the text, or a failure. -/
abbrev Reading (α : Type) := Except Failure (α × List Char)

/-! ## White space -/

/-- The four blanks of JSON. -/
def isSpace (c : Char) : Bool := c == ' ' || c == '\t' || c == '\n' || c == '\r'

def skipSpace (cs : List Char) : List Char := cs.dropWhile isSpace

/-! ## Strings -/

def hexValue? (c : Char) : Option Nat :=
  if c.isDigit then some (c.toNat - '0'.toNat)
  else if 'a' ≤ c ∧ c ≤ 'f' then some (c.toNat - 'a'.toNat + 10)
  else if 'A' ≤ c ∧ c ≤ 'F' then some (c.toNat - 'A'.toNat + 10)
  else none

/-- The code unit of four hexadecimal digits. -/
def codeUnit? : List Char → Option Nat
  | a :: b :: c :: d :: _ => do
    let a ← hexValue? a
    let b ← hexValue? b
    let c ← hexValue? c
    let d ← hexValue? d
    return ((a * 16 + b) * 16 + c) * 16 + d
  | _ => none

def isHighSurrogate (unit : Nat) : Bool := 0xd800 ≤ unit && unit ≤ 0xdbff

def isLowSurrogate (unit : Nat) : Bool := 0xdc00 ≤ unit && unit ≤ 0xdfff

/-- The character of a code unit; half a surrogate pair is no character and is replaced. -/
def charOfUnit (unit : Nat) : Char :=
  if isHighSurrogate unit || isLowSurrogate unit then '\ufffd' else Char.ofNat unit

/-- The character behind a backslash and one more character. -/
def simpleEscape? : Char → Option Char
  | '"' => some '"'
  | '\\' => some '\\'
  | '/' => some '/'
  | 'b' => some '\x08'
  | 'f' => some '\x0c'
  | 'n' => some '\n'
  | 'r' => some '\r'
  | 't' => some '\t'
  | _ => none

/-- The character that the four digits behind `\u` stand for, and the number of characters used.
Behind the digits the text has to go on. A high surrogate takes the escape behind it along, if that
is a low one. -/
def unicodeEscape (digits : List Char) : Except Failure (Char × Nat) :=
  let invalid (left : List Char) := Failure.malformed .invalidUnicodeEscape (left.length + 1)
  match codeUnit? digits with
  | none => .error (invalid digits)
  | some unit =>
    let rest := digits.drop 4
    if rest = [] then .error (invalid digits)
    else if isHighSurrogate unit then
      match rest with
      | '\\' :: 'u' :: more =>
        if more.length ≤ 4 then .ok (charOfUnit unit, 4)
        else match codeUnit? more with
          | none => .error (invalid more)
          | some low =>
            if isLowSurrogate low then
              .ok (Char.ofNat (0x10000 + (unit - 0xd800) * 0x400 + (low - 0xdc00)), 10)
            else .ok (charOfUnit unit, 4)
      | _ => .ok (charOfUnit unit, 4)
    else .ok (charOfUnit unit, 4)

/-- The character that an escape stands for, and the number of characters behind the backslash that
it takes; `opened` is what was left at the opening quote. -/
def decodeEscape (opened : Nat) : List Char → Except Failure (Char × Nat)
  | [] => .error (.malformed .unterminatedString opened)
  | 'u' :: digits => (unicodeEscape digits).map fun (c, used) => (c, used + 1)
  | mark :: rest =>
    match simpleEscape? mark with
    | some c => .ok (c, 1)
    | none => .error (.malformed .invalidEscape (rest.length + 2))

/-- The characters up to the closing quote; `skip` characters belong to an escape that has been
read. -/
def readString (opened : Nat) (skip : Nat) : List Char → Reading (List Char)
  | [] => .error (.malformed .unterminatedString opened)
  | c :: cs =>
    match skip with
    | more + 1 => readString opened more cs
    | 0 =>
      if c = '"' then .ok ([], cs)
      else if c = '\\' then
        match decodeEscape opened cs with
        | .error failure => .error failure
        | .ok (x, used) => (readString opened used cs).map fun (xs, rest) => (x :: xs, rest)
      else if c.toNat < 0x20 then .error (.malformed .invalidControl (cs.length + 1))
      else (readString opened 0 cs).map fun (xs, rest) => (c :: xs, rest)

theorem readString_plain {opened : Nat} {c : Char} {cs : List Char} (hquote : c ≠ '"')
    (hback : c ≠ '\\') (hcontrol : 0x20 ≤ c.toNat) :
    readString opened 0 (c :: cs) =
      (readString opened 0 cs).map fun (xs, rest) => (c :: xs, rest) := by
  simp [readString, hquote, hback, Nat.not_lt.2 hcontrol]

/-! ## Numbers -/

/-- The digits before a fraction: one zero, or digits that start with another. -/
def spanWhole : List Char → List Char × List Char
  | '0' :: cs => (['0'], cs)
  | cs => spanDigits cs

/-- The digits of a fraction, if the text goes on with one. -/
def fraction? : List Char → Option (List Char × List Char)
  | '.' :: cs => if (spanDigits cs).1 = [] then none else some (spanDigits cs)
  | _ => none

/-- An exponent, if the text goes on with one. -/
def exponent? : List Char → Option (Int × List Char)
  | mark :: cs =>
    if mark = 'e' ∨ mark = 'E' then
      let (negative, unsigned) := spanSign cs
      let (digits, rest) := spanDigits unsigned
      if digits = [] then none
      else some (if negative then -(digitsValue digits : Int) else digitsValue digits, rest)
    else none
  | [] => none

/-- A minus sign, and what follows it. -/
def spanMinus : List Char → Bool × List Char
  | '-' :: cs => (true, cs)
  | cs => (false, cs)

/-- The longest number at the front of the text; without fraction and exponent it is whole. -/
def readNumber (cs : List Char) : Reading Value :=
  let (negative, unsigned) := spanMinus cs
  let (whole, afterWhole) := spanWhole unsigned
  if whole = [] then .error (.malformed .expectingValue cs.length)
  else
    let (fraction, afterFraction) := (fraction? afterWhole).getD ([], afterWhole)
    match exponent? afterFraction with
    | some (exponent, rest) =>
      let decimal : Decimal :=
        ⟨negative, digitsValue (whole ++ fraction), exponent - fraction.length⟩
      .ok (.float decimal.toBinary64, rest)
    | none =>
      if fraction ≠ [] then
        let decimal : Decimal := ⟨negative, digitsValue (whole ++ fraction), -fraction.length⟩
        .ok (.float decimal.toBinary64, afterFraction)
      else if maxIntDigits < whole.length then .error (.tooManyDigits whole.length)
      else
        let size : Int := digitsValue whole
        .ok (.int (if negative then -size else size), afterFraction)

/-! ## Values -/

/-- The names of values, each with its value. -/
def namedValues : List (List Char × Value) :=
  [("null".toList, .null), ("true".toList, .bool true), ("false".toList, .bool false),
    ("NaN".toList, .float .nan), ("Infinity".toList, .float (.infinite false)),
    ("-Infinity".toList, .float (.infinite true))]

/-- The value whose name the text starts with. -/
def readNamed? (cs : List Char) : Option (Value × List Char) :=
  namedValues.findSome? fun (name, value) => (Text.after? name cs).map fun rest => (value, rest)

mutual

/-- The value at the front of the text. -/
def readValue : Nat → List Char → Reading Value
  | 0, cs => .error (.malformed .expectingValue cs.length)
  | fuel + 1, cs =>
    match cs with
    | '"' :: rest => (readString cs.length 0 rest).map fun (s, rest) =>
      (.string (String.ofList s), rest)
    | '[' :: rest =>
      match skipSpace rest with
      | ']' :: rest => .ok (.array [], rest)
      | rest => (readItems fuel rest).map fun (items, rest) => (.array items, rest)
    | '\x7b' :: rest =>
      match skipSpace rest with
      | '\x7d' :: rest => .ok (.object [], rest)
      | rest => (readFields fuel [] rest).map fun (fields, rest) => (.object fields, rest)
    | _ =>
      match readNamed? cs with
      | some found => .ok found
      | none => readNumber cs

/-- The items of an array up to its closing bracket. -/
def readItems : Nat → List Char → Reading (List Value)
  | 0, cs => .error (.malformed .expectingValue cs.length)
  | fuel + 1, cs =>
    match readValue fuel cs with
    | .error failure => .error failure
    | .ok (item, rest) =>
      match skipSpace rest with
      | ']' :: rest => .ok ([item], rest)
      | ',' :: rest => (readItems fuel (skipSpace rest)).map fun (items, rest) =>
        (item :: items, rest)
      | rest => .error (.malformed .expectingComma rest.length)

/-- The fields of an object up to its closing brace, behind those that have been read. -/
def readFields : Nat → List (String × Value) → List Char → Reading (List (String × Value))
  | 0, _, cs => .error (.malformed .expectingName cs.length)
  | fuel + 1, fields, cs =>
    match cs with
    | '"' :: rest =>
      match readString cs.length 0 rest with
      | .error failure => .error failure
      | .ok (name, rest) =>
        match skipSpace rest with
        | ':' :: rest =>
          match readValue fuel (skipSpace rest) with
          | .error failure => .error failure
          | .ok (value, rest) =>
            let fields := insertField (String.ofList name) value fields
            match skipSpace rest with
            | '\x7d' :: rest => .ok (fields, rest)
            | ',' :: rest => readFields fuel fields (skipSpace rest)
            | rest => .error (.malformed .expectingComma rest.length)
        | rest => .error (.malformed .expectingColon rest.length)
    | _ => .error (.malformed .expectingName cs.length)

end

/-! ## Documents -/

/-- The failure with its position in the whole text. -/
def Failure.locate (cs : List Char) : Failure → ReadError
  | .tooManyDigits count => .tooManyDigits count
  | .malformed problem remaining =>
    let position := cs.length - remaining
    let before := cs.take position
    let column := (before.reverse.takeWhile (· ≠ '\n')).length + 1
    .malformed problem (before.count '\n' + 1) column position

/-- One JSON value with blanks around it. -/
def readDocument (cs : List Char) : Except Failure Value :=
  if cs.head? = some '\ufeff' then .error (.malformed .byteOrderMark cs.length)
  else
    match readValue (2 * cs.length + 1) (skipSpace cs) with
    | .error failure => .error failure
    | .ok (value, rest) =>
      match skipSpace rest with
      | [] => .ok value
      | rest => .error (.malformed .extraData rest.length)

/-- The value of a JSON document. -/
def read (cs : List Char) : Except ReadError Value :=
  (readDocument cs).mapError (Failure.locate cs)

/-! ## Nesting -/

/-- How deep the lists and objects of a text go, inside so many others. What stands in a string does
not count; `escaped` tells that its next character stands behind a backslash. -/
def nestingFrom (depth : Nat) (inString escaped : Bool) : List Char → Nat
  | [] => depth
  | c :: cs =>
    if inString then nestingFrom depth (escaped || c ≠ '"') (!escaped && c = '\\') cs
    else match c with
      | '"' => nestingFrom depth true false cs
      | '[' | '\x7b' => nestingFrom (depth + 1) false false cs
      | ']' | '\x7d' => max depth (nestingFrom (depth - 1) false false cs)
      | _ => nestingFrom depth false false cs

/-- How deep the lists and objects of a text are nested. -/
def nesting (cs : List Char) : Nat := nestingFrom 0 false false cs

example : nesting "[[], \"[[[\\\"[[[\", [[0]]]".toList = 3 := by decide

end NetTimeline.Json
