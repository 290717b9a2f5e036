import Mathlib.Tactic.SplitIfs
import NetTimeline.Text.Utf8

/-!
# Encoded text is read back

The bytes of a character are a first byte, whose range tells how many follow and how the one right
behind it is bounded, and those that follow. The bounds leave out exactly the overlong forms, the
surrogates and what is past the last code point, none of which an encoded character is.

Principal results:

* `front_encode` — the bytes of a character are read as this character, whatever follows them;
* `decode_encode` — so are the bytes of a text.
-/

set_option autoImplicit false

namespace NetTimeline.Text

/-! ## The first byte -/

theorem continuation?_one {b : UInt8} (h : b.toNat ≤ 0x7f) :
    continuation? b = some (0, 0x80, 0xbf) := by
  have hascii : b < 0x80 := UInt8.lt_iff_toNat_lt.2 (Nat.lt_succ_of_le h)
  simp [continuation?, hascii]

theorem continuation?_two {b : UInt8} (hlow : 0xc2 ≤ b.toNat) (hhigh : b.toNat ≤ 0xdf) :
    continuation? b = some (1, 0x80, 0xbf) := by
  unfold continuation?
  simp only [UInt8.lt_iff_toNat_lt, UInt8.reduceToNat]
  rw [if_neg (by omega), if_neg (by omega), if_pos (by omega)]

theorem continuation?_three {b : UInt8} (hlow : 0xe0 ≤ b.toNat) (hhigh : b.toNat ≤ 0xef) :
    continuation? b = some (2, if b.toNat = 0xe0 then 0xa0 else 0x80,
      if b.toNat = 0xed then 0x9f else 0xbf) := by
  unfold continuation?
  simp only [UInt8.lt_iff_toNat_lt, ← UInt8.toNat_inj, UInt8.reduceToNat]
  rw [if_neg (by omega), if_neg (by omega), if_neg (by omega)]
  grind

theorem continuation?_four {b : UInt8} (hlow : 0xf0 ≤ b.toNat) (hhigh : b.toNat ≤ 0xf4) :
    continuation? b = some (3, if b.toNat = 0xf0 then 0x90 else 0x80,
      if b.toNat = 0xf4 then 0x8f else 0xbf) := by
  unfold continuation?
  simp only [UInt8.lt_iff_toNat_lt, ← UInt8.toNat_inj, UInt8.reduceToNat]
  rw [if_neg (by omega), if_neg (by omega), if_neg (by omega), if_neg (by omega),
    if_neg (by omega), if_neg (by omega)]
  grind

/-! ## The bytes behind it -/

/-- Bytes that continue a sequence, the first of them between two bounds. -/
def Continues (least most : UInt8) : List UInt8 → Prop
  | [] => True
  | b :: bytes => (least ≤ b ∧ b ≤ most) ∧ ∀ x ∈ bytes, 0x80 ≤ x ∧ x ≤ 0xbf

theorem Continues.count {least most : UInt8} {following : List UInt8}
    (h : Continues least most following) (rest : List UInt8) :
    countContinuation following.length least most (following ++ rest) = following.length := by
  induction following generalizing least most with
  | nil => cases rest <;> rfl
  | cons b following ih =>
    have hrest : Continues 0x80 0xbf following := by
      cases following with
      | nil => trivial
      | cons x following => exact ⟨h.2 x (by simp), fun y hy => h.2 y (by simp [hy])⟩
    simp [countContinuation, h.1, ih hrest]

theorem front_of_continues {first least most : UInt8} {following : List UInt8}
    (hfirst : continuation? first = some (following.length, least, most))
    (h : Continues least most following) (rest : List UInt8) :
    front first (following ++ rest) =
      .character (Char.ofNat (codePointOf first following)) following.length := by
  simp only [front, hfirst, h.count rest, if_true, List.take_left]

/-! ## Characters and texts -/

theorem front_encode (c : Char) : ∃ first following,
    String.utf8EncodeChar c = first :: following ∧
      ∀ rest, front first (following ++ rest) = .character c following.length := by
  have hread {first least most : UInt8} {following : List UInt8}
      (hfirst : continuation? first = some (following.length, least, most))
      (h : Continues least most following) (hpoint : codePointOf first following = c.val.toNat)
      (rest : List UInt8) :
      front first (following ++ rest) = .character c following.length := by
    rw [front_of_continues hfirst h, hpoint]
    exact congrArg (Front.character · _) (Char.ofNat_toNat c)
  have hvalid : c.val.toNat < 0xd800 ∨ 0xdfff < c.val.toNat ∧ c.val.toNat < 0x110000 := c.valid
  unfold String.utf8EncodeChar
  generalize c.val.toNat = v at *
  dsimp only
  -- one goal for each number of bytes
  split_ifs with hone htwo hthree
  · refine ⟨_, _, rfl, hread (continuation?_one ?_) trivial ?_⟩
    all_goals simp [codePointOf]
    all_goals omega
  · refine ⟨_, _, rfl, hread (continuation?_two ?_ ?_) ?_ ?_⟩
    all_goals simp [Continues, codePointOf, UInt8.le_iff_toNat_le]
    all_goals omega
  · refine ⟨_, _, rfl, hread (continuation?_three ?_ ?_) ?_ ?_⟩
    case refine_3 =>
      -- the overlong forms and the surrogates
      simp only [Continues, UInt8.le_iff_toNat_le, UInt8.toNat_ofNat']
      split_ifs <;> simp <;> omega
    all_goals simp [codePointOf]
    all_goals omega
  · refine ⟨_, _, rfl, hread (continuation?_four ?_ ?_) ?_ ?_⟩
    case refine_3 =>
      -- the overlong forms and what is past the last code point
      simp only [Continues, UInt8.le_iff_toNat_le, UInt8.toNat_ofNat']
      split_ifs <;> simp <;> omega
    all_goals simp [codePointOf]
    all_goals omega

theorem decodeFrom_skip (position : Nat) (following rest : List UInt8) :
    decodeFrom position following.length (following ++ rest) =
      decodeFrom (position + following.length) 0 rest := by
  induction following generalizing position with
  | nil => rfl
  | cons b following ih =>
    rw [List.length_cons, List.cons_append, decodeFrom, ih, Nat.add_assoc, Nat.add_comm 1]

theorem decodeFrom_encode (position : Nat) (cs : List Char) :
    decodeFrom position 0 (cs.flatMap String.utf8EncodeChar) = (cs, .complete) := by
  induction cs generalizing position with
  | nil => rfl
  | cons c cs ih =>
    obtain ⟨first, following, hencode, hfront⟩ := front_encode c
    rw [List.flatMap_cons, hencode, List.cons_append, decodeFrom, hfront]
    simp only [decodeFrom_skip, ih]

/-- **Encoded text is read back**, to its last character. -/
theorem decode_encode (cs : List Char) :
    decode (cs.flatMap String.utf8EncodeChar) = (cs, .complete) :=
  decodeFrom_encode 0 cs

end NetTimeline.Text
