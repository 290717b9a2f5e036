/-!
# Reading UTF-8

Bytes are decoded as by `open` with the encoding `utf-8`, strictly: overlong forms, surrogates and
code points past `U+10FFFF` are refused. An error tells the bytes at fault; a sequence that the end
of the bytes cuts off is told apart from one that is wrong, since it may be found out later.
-/

set_option autoImplicit false

namespace NetTimeline.Text

/-- Bytes that are not UTF-8: the first of them, the position of the first and of the last, and
what is wrong. -/
structure DecodeError where
  byte : UInt8
  first : Nat
  last : Nat
  reason : String
  deriving DecidableEq, Repr

def DecodeError.message (error : DecodeError) : String :=
  "'utf-8' codec can't decode " ++
    (if error.first = error.last then
      let digits := Nat.toDigits 16 error.byte.toNat
      "byte 0x" ++ String.ofList (List.replicate (2 - digits.length) '0' ++ digits) ++
        " in position " ++ toString error.first
    else
      "bytes in position " ++ toString error.first ++ "-" ++ toString error.last) ++
    ": " ++ error.reason

/-- The number of bytes that follow a first byte, and the range of the one right behind it. -/
def continuation? (first : UInt8) : Option (Nat × UInt8 × UInt8) :=
  if first < 0x80 then some (0, 0x80, 0xbf)
  else if first < 0xc2 then none
  else if first < 0xe0 then some (1, 0x80, 0xbf)
  else if first = 0xe0 then some (2, 0xa0, 0xbf)
  else if first = 0xed then some (2, 0x80, 0x9f)
  else if first < 0xf0 then some (2, 0x80, 0xbf)
  else if first = 0xf0 then some (3, 0x90, 0xbf)
  else if first < 0xf4 then some (3, 0x80, 0xbf)
  else if first = 0xf4 then some (3, 0x80, 0x8f)
  else none

/-- How many of up to `count` bytes continue a sequence, the first of them in its range. -/
def countContinuation (count : Nat) (least most : UInt8) : List UInt8 → Nat
  | [] => 0
  | b :: bytes =>
    match count with
    | 0 => 0
    | more + 1 =>
      if least ≤ b ∧ b ≤ most then countContinuation more 0x80 0xbf bytes + 1 else 0

/-- The code point of a first byte and the bytes that follow it. -/
def codePointOf (first : UInt8) (following : List UInt8) : Nat :=
  let lead := match following.length with
    | 0 => first.toNat
    | 1 => first.toNat - 0xc0
    | 2 => first.toNat - 0xe0
    | _ => first.toNat - 0xf0
  following.foldl (fun n b => n * 64 + (b.toNat - 0x80)) lead

/-- What the bytes at the front are: a character with so many more bytes, the beginning of one, or
neither; the last two with the number of bytes at fault and what is wrong with them. -/
inductive Front where
  | character (c : Char) (more : Nat)
  | cutOff (length : Nat) (reason : String)
  | invalid (length : Nat) (reason : String)
  deriving DecidableEq, Repr

/-- Half a surrogate, of which the end of the bytes cuts off the last one, counts as cut off. -/
def isCutSurrogate (first : UInt8) (rest : List UInt8) : Bool :=
  match rest with
  | [b] => first == 0xed && 0xa0 ≤ b && b ≤ 0xbf
  | _ => false

/-- The front of some bytes. -/
def front (first : UInt8) (rest : List UInt8) : Front :=
  match continuation? first with
  | none => .invalid 1 "invalid start byte"
  | some (count, least, most) =>
    let good := countContinuation count least most rest
    if good = count then .character (Char.ofNat (codePointOf first (rest.take count))) count
    else if good = rest.length then .cutOff (good + 1) "unexpected end of data"
    else if isCutSurrogate first rest then .cutOff 1 "invalid continuation byte"
    else .invalid (good + 1) "invalid continuation byte"

/-- How reading ends: at the end of the bytes, inside a sequence that they cut off, or at bytes that
are wrong. The positions of a sequence cut off count from its own first byte. -/
inductive Ending where
  | complete
  | cutOff (error : DecodeError)
  | invalid (error : DecodeError)
  deriving DecidableEq, Repr

/-- The characters of bytes that start at a position, of which `skip` belong to a character that has
been read. -/
def decodeFrom (position skip : Nat) : List UInt8 → List Char × Ending
  | [] => ([], .complete)
  | b :: bytes =>
    match skip with
    | more + 1 => decodeFrom (position + 1) more bytes
    | 0 =>
      match front b bytes with
      | .character c more =>
        let (cs, ending) := decodeFrom (position + 1) more bytes
        (c :: cs, ending)
      | .cutOff length reason => ([], .cutOff ⟨b, 0, length - 1, reason⟩)
      | .invalid length reason => ([], .invalid ⟨b, position, position + length - 1, reason⟩)

/-- The characters of bytes, and how reading ends. -/
def decode (bytes : List UInt8) : List Char × Ending := decodeFrom 0 0 bytes

end NetTimeline.Text
