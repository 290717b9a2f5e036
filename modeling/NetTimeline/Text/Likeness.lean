/-!
# Likeness of words

How much two words are alike: their longest common block is taken, then that of what stands before
it and of what stands behind it, and so on. A word is like another if at least three tenths of the
letters of both are in such blocks; each block counts once.

Reference model of `difflib.get_close_matches`, by which the library click finds the options that
are meant.

Main statements: `commonFront_le_left`, `commonFront_le_right` — what two words begin with in common
is no longer than either.
-/

set_option autoImplicit false

namespace NetTimeline.Text

/-- The number of characters that two texts begin with in common. -/
def commonFront : List Char → List Char → Nat
  | a :: as, b :: bs => if a = b then commonFront as bs + 1 else 0
  | _, _ => 0

theorem commonFront_le_left (as bs : List Char) : commonFront as bs ≤ as.length := by
  induction as generalizing bs with
  | nil => simp [commonFront]
  | cons a as ih =>
    cases bs with
    | nil => simp [commonFront]
    | cons b bs =>
      simp only [commonFront, List.length_cons]
      split
      · exact Nat.succ_le_succ (ih bs)
      · exact Nat.zero_le _

theorem commonFront_le_right (as bs : List Char) : commonFront as bs ≤ bs.length := by
  induction as generalizing bs with
  | nil => simp [commonFront]
  | cons a as ih =>
    cases bs with
    | nil => simp [commonFront]
    | cons b bs =>
      simp only [commonFront, List.length_cons]
      split
      · exact Nat.succ_le_succ (ih bs)
      · exact Nat.zero_le _

/-- Where a common block starts in two texts, and its length. -/
structure Block where
  left : Nat
  right : Nat
  length : Nat
  deriving DecidableEq, Repr

/-- The longest common block; of several, the first in the left text, then in the right one. -/
def longestBlock (as bs : List Char) : Block :=
  let blocks := (List.range as.length).flatMap fun i =>
    (List.range bs.length).map fun j => Block.mk i j (commonFront (as.drop i) (bs.drop j))
  blocks.foldl (fun best block => if best.length < block.length then block else best) ⟨0, 0, 0⟩

/-- The letters in common blocks, looked for so many times deep. -/
def sharedLetters : Nat → List Char → List Char → Nat
  | 0, _, _ => 0
  | depth + 1, as, bs =>
    let block := longestBlock as bs
    if block.length = 0 then 0
    else
      sharedLetters depth (as.take block.left) (bs.take block.right) + block.length +
        sharedLetters depth (as.drop (block.left + block.length))
          (bs.drop (block.right + block.length))

/-- How much two words are alike: the letters in common blocks out of those of both words. -/
structure Likeness where
  shared : Nat
  letters : Nat
  deriving DecidableEq, Repr

namespace Likeness

def ofWords (as bs : List Char) : Likeness :=
  ⟨sharedLetters as.length as bs, as.length + bs.length⟩

/-- Whether the words are close enough to be taken for each other. -/
def isClose (likeness : Likeness) : Bool := decide (3 * likeness.letters ≤ 10 * likeness.shared)

/-- Whether two words are less alike than two others. -/
def less (a b : Likeness) : Bool := decide (a.shared * b.letters < b.shared * a.letters)

end Likeness

/-- The most words that are named for another. -/
def maxCloseWords : Nat := 3

/-- The words that are closest to one, in alphabetical order. -/
def closeWords (word : String) (words : List String) : List String :=
  let scored := words.map fun other => (Likeness.ofWords other.toList word.toList, other)
  let close := scored.filter fun entry => entry.1.isClose
  let best := close.mergeSort fun a b =>
    b.1.less a.1 || (!a.1.less b.1 && decide (b.2 ≤ a.2))
  ((best.take maxCloseWords).map Prod.snd).mergeSort fun a b => decide (a ≤ b)

example : closeWords "--dur" ["--duration", "--ticks"] = ["--duration"] := by decide +kernel
example : closeWords "--d" ["--duration", "--ticks"] = [] := by decide +kernel

end NetTimeline.Text
