import NetTimeline.Number.Decimal
import NetTimeline.Text.Printable

/-!
# Pieces of a date expression

An expression is read in lower case, with the digits of all scripts as ASCII digits, and without
blanks or colons at its end. What is neither a letter nor a digit nor one of a few marks counts as a
blank. The text then falls into numbers, which may hold colons, words and marks; some words stand
for a phrase and some for nothing.

This stands for how the library dateparser cleans a text, cuts it up and translates its words from
English.

Main statement: `flatMap_text_scan` — the pieces of a text make it up again.
-/

set_option autoImplicit false

namespace NetTimeline.Calendar

/-! ## The text that is read -/

/-- The marks that are told from a blank. -/
def marks : List Char := ['+', ':', '.', ',', '-', '/']

/-- A character as it is read. -/
def plainChar (c : Char) : Char :=
  if c.isAlphanum || marks.contains c then c.toLower
  else if c.toNat < 0x80 || !Text.isPrintable c then ' '
  else c

def isBlankChar (c : Char) : Bool := c = ' '

/-- The text that is read for an expression. -/
def plainText (s : String) : List Char :=
  let cs := Text.trim isBlankChar ((Text.asciiDigits s.toList).map plainChar)
  Text.trim isBlankChar (cs.reverse.dropWhile (· = ':')).reverse

/-! ## Pieces -/

/-- A piece of a text. -/
inductive Piece where
  | number (text : List Char)
  | word (text : List Char)
  | mark (c : Char)
  deriving DecidableEq, Repr

namespace Piece

/-- The text of a piece. -/
def text : Piece → List Char
  | .number cs => cs
  | .word cs => cs
  | .mark c => [c]

def isBlank : Piece → Bool
  | .mark c => isBlankChar c || c = ','
  | _ => false

/-- Whether a number goes on with a character. -/
def isNumberChar (c : Char) : Bool := c.isDigit || c = ':'

/-- Whether a character is a blank or a mark. -/
def isMarkChar (c : Char) : Bool := isBlankChar c || marks.contains c

/-- The pieces of a text. -/
def scan : List Char → List Piece
  | [] => []
  | c :: cs =>
    if isNumberChar c then
      match scan cs with
      | .number text :: pieces => .number (c :: text) :: pieces
      | pieces => .number [c] :: pieces
    else if isMarkChar c then .mark c :: scan cs
    else
      match scan cs with
      | .word text :: pieces => .word (c :: text) :: pieces
      | pieces => .word [c] :: pieces

theorem flatMap_text_scan (cs : List Char) : (scan cs).flatMap text = cs := by
  induction cs with
  | nil => rfl
  | cons c cs ih =>
    unfold scan
    split
    · split
      · rename_i htext
        simp_all [text]
      · simp [text, ih]
    · split
      · simp [text, ih]
      · split
        · rename_i htext
          simp_all [text]
        · simp [text, ih]

/-! ## Words with a meaning of their own -/

/-- The words that stand for a phrase, or for nothing. -/
def phrases : List (List Char × List Char) :=
  [("a", "1"), ("an", "1"), ("one", "1"), ("two", "2"), ("three", "3"), ("four", "4"),
    ("five", "5"), ("six", "6"), ("seven", "7"), ("eight", "8"), ("nine", "9"), ("ten", "10"),
    ("eleven", "11"), ("twelve", "12"), ("now", "0 second ago"), ("today", "0 day ago"),
    ("yesterday", "1 day ago"), ("tomorrow", "in 1 day"), ("about", ""), ("and", ""), ("at", ""),
    ("by", ""), ("just", ""), ("nd", ""), ("of", ""), ("on", ""), ("rd", ""), ("st", ""),
    ("th", ""), ("the", "")].map fun (given, phrase) => (given.toList, phrase.toList)

/-- What a piece stands for. -/
def meaning : Piece → List Piece
  | .word text =>
    match phrases.lookup text with
    | some phrase => scan phrase
    | none => [.word text]
  | piece => [piece]

/-- The pieces of a text, with what they stand for. -/
def read (cs : List Char) : List Piece := (scan cs).flatMap meaning

end Piece

end NetTimeline.Calendar
