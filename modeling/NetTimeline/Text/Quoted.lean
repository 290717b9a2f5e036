import NetTimeline.Text.Digit
import NetTimeline.Text.Printable

/-!
# Quoted text

A text in a message stands in quotes, as `repr` puts it: single ones, unless it has single quotes
and no double ones. Inside, the backslash, the quote in use and the line breaks are escaped, and
every character that is not printable is written by its code point.

Main statement: `escape_of_plain` — a printable character other than the backslash and the quote
stands for itself.
-/

set_option autoImplicit false

namespace NetTimeline.Text

/-- A code point in lower-case hexadecimal digits, as many as its size needs. -/
def codePoint (n : Nat) : List Char :=
  let digits := Nat.toDigits 16 n
  if n < 0x100 then '\\' :: 'x' :: padZeros 2 digits
  else if n < 0x10000 then '\\' :: 'u' :: padZeros 4 digits
  else '\\' :: 'U' :: padZeros 8 digits

/-- A character inside quotes. -/
def escape (quote c : Char) : List Char :=
  if c = '\\' ∨ c = quote then ['\\', c]
  else if c = '\n' then ['\\', 'n']
  else if c = '\r' then ['\\', 'r']
  else if c = '\t' then ['\\', 't']
  else if isPrintable c then [c]
  else codePoint c.toNat

/-- The quote that a text stands in. -/
def quoteFor (cs : List Char) : Char :=
  if cs.contains '\'' && !cs.contains '"' then '"' else '\''

/-- The text in quotes. -/
def quoted (s : String) : String :=
  let quote := quoteFor s.toList
  String.ofList (quote :: s.toList.flatMap (escape quote) ++ [quote])

theorem escape_of_plain {quote c : Char} (hback : c ≠ '\\') (hquote : c ≠ quote)
    (hprint : isPrintable c = true) : escape quote c = [c] := by
  have hn : c ≠ '\n' := by rintro rfl; exact absurd hprint (by decide)
  have hr : c ≠ '\r' := by rintro rfl; exact absurd hprint (by decide)
  have ht : c ≠ '\t' := by rintro rfl; exact absurd hprint (by decide)
  simp [escape, hback, hquote, hn, hr, ht, hprint]

end NetTimeline.Text
