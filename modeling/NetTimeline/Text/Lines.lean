/-!
# Lines

A line ends with a line feed, a carriage return, or both in this order, as where `open` iterates
over a text; nothing else ends one.

Main statements: `splitLines_lineFeed`, `splitLines_cons` — how a character at the front of the text
changes its lines.
-/

set_option autoImplicit false

namespace NetTimeline.Text

/-- A character in front of a text that has been split. -/
def consChar (c : Char) : List (List Char) × List Char → List (List Char) × List Char
  | ([], rest) => ([], c :: rest)
  | (line :: lines, rest) => ((c :: line) :: lines, rest)

/-- The lines that have an end, without it, and what follows the last of them. -/
def splitLines : List Char → List (List Char) × List Char
  | [] => ([], [])
  | '\r' :: '\n' :: cs => ([] :: (splitLines cs).1, (splitLines cs).2)
  | c :: cs =>
    if c = '\n' ∨ c = '\r' then ([] :: (splitLines cs).1, (splitLines cs).2)
    else consChar c (splitLines cs)

theorem splitLines_lineFeed (cs : List Char) :
    splitLines ('\n' :: cs) = ([] :: (splitLines cs).1, (splitLines cs).2) := by
  simp [splitLines]

theorem splitLines_cons {c : Char} (hn : c ≠ '\n') (hr : c ≠ '\r') (cs : List Char) :
    splitLines (c :: cs) = consChar c (splitLines cs) := by
  rw [splitLines.eq_3 c cs (by rintro _ rfl; exact absurd rfl hr)]
  simp [hn, hr]

/-- All lines of a text; the last one need not have an end. -/
def allLines (cs : List Char) : List (List Char) :=
  let (lines, rest) := splitLines cs
  if rest = [] then lines else lines ++ [rest]

/-- The lines of a text that goes on: those with an end, where a carriage return that ends the text
is none yet. -/
def finishedLines (cs : List Char) : List (List Char) :=
  (splitLines (if cs.getLast? = some '\r' then cs.dropLast else cs)).1

end NetTimeline.Text
