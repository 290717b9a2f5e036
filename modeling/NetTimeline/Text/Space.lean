/-!
# White space, and trimming it

Two sets of characters end a text without being part of it: `isSpace`, the characters with the
Unicode property *White_Space*, around a numeral; and `isBlank`, which has the four information
separators `U+001C` to `U+001F` besides, around a line of a log.

Main statement: `trim_eq_nil_iff` — trimming leaves nothing exactly of a text of blanks.
-/

set_option autoImplicit false

namespace NetTimeline.Text

/-- The Unicode property *White_Space*. -/
def isSpace (c : Char) : Bool :=
  let n := c.toNat
  (9 ≤ n && n ≤ 13) || n == 0x20 || n == 0x85 || n == 0xa0 || n == 0x1680 ||
    (0x2000 ≤ n && n ≤ 0x200a) || n == 0x2028 || n == 0x2029 || n == 0x202f || n == 0x205f ||
    n == 0x3000

/-- White space or an information separator. -/
def isBlank (c : Char) : Bool :=
  isSpace c || (0x1c ≤ c.toNat && c.toNat ≤ 0x1f)

/-- The text without the characters of a class at its two ends. -/
def trim (isEnd : Char → Bool) (cs : List Char) : List Char :=
  ((cs.dropWhile isEnd).reverse.dropWhile isEnd).reverse

theorem dropWhile_eq_nil_iff {p : Char → Bool} {cs : List Char} :
    cs.dropWhile p = [] ↔ ∀ c ∈ cs, p c = true := by
  induction cs with
  | nil => simp
  | cons c cs ih => by_cases h : p c = true <;> simp [h, ih]

theorem trim_eq_nil_iff {p : Char → Bool} {cs : List Char} :
    trim p cs = [] ↔ ∀ c ∈ cs, p c = true := by
  unfold trim
  rw [List.reverse_eq_nil_iff, dropWhile_eq_nil_iff]
  constructor
  · intro h
    rcases Decidable.em (cs.dropWhile p = []) with hnil | hne
    · exact dropWhile_eq_nil_iff.1 hnil
    · obtain ⟨c, rest, hc⟩ := List.exists_cons_of_ne_nil hne
      have hhead := List.head_dropWhile_not p hne
      simp only [hc, List.head_cons] at hhead
      have hin := h c (by simp [hc])
      simp [hhead] at hin
  · intro h c hc
    exact h c ((List.dropWhile_sublist p).subset (List.mem_reverse.1 hc))

end NetTimeline.Text
