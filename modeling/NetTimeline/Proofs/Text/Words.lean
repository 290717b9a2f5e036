import Mathlib.Data.Bool.AllAny
import NetTimeline.Text.Lines

/-!
# Words and lines

A word is a text without blanks and line ends, and a line is one without line ends. A text that is
made of lines falls into just these lines, and the words of a line are taken off it one after the
other, however many blanks stand in front of them.

Principal results:

* `spanWord_word` — the first word of a line;
* `allLines_flatMap` — the lines of a text that is made of lines.
-/

set_option autoImplicit false

namespace NetTimeline.Text

/-- A character that is neither a blank nor a line end. -/
def IsWordChar (c : Char) : Prop := c ≠ ' ' ∧ c ≠ '\n' ∧ c ≠ '\r'

instance (c : Char) : Decidable (IsWordChar c) := inferInstanceAs (Decidable (_ ∧ _ ∧ _))

/-- A text without blanks and line ends. -/
structure IsWord (cs : List Char) : Prop where
  ne_nil : cs ≠ []
  chars : ∀ c ∈ cs, IsWordChar c

instance (cs : List Char) : Decidable (IsWord cs) :=
  decidable_of_iff (cs ≠ [] ∧ cs.all (fun c => IsWordChar c) = true)
    ⟨fun h => ⟨h.1, List.all_iff_forall_prop.1 h.2⟩,
      fun h => ⟨h.ne_nil, List.all_iff_forall_prop.2 h.chars⟩⟩

/-- A text without line ends. -/
def IsLine (cs : List Char) : Prop := ∀ c ∈ cs, c ≠ '\n' ∧ c ≠ '\r'

instance (cs : List Char) : Decidable (IsLine cs) :=
  decidable_of_iff _ List.all_iff_forall_prop

theorem IsLine.append {front back : List Char} (hfront : IsLine front) (hback : IsLine back) :
    IsLine (front ++ back) :=
  List.forall_mem_append.2 ⟨hfront, hback⟩

theorem IsLine.blanks (k : Nat) : IsLine (List.replicate k ' ') := by
  intro c hc
  rw [List.eq_of_mem_replicate hc]
  decide

theorem IsWord.reverse {cs : List Char} (h : IsWord cs) : IsWord cs.reverse :=
  ⟨List.reverse_ne_nil_iff.2 h.ne_nil, fun c hc => h.chars c (List.mem_reverse.1 hc)⟩

theorem IsWord.isLine {cs : List Char} (h : IsWord cs) : IsLine cs :=
  fun c hc => (h.chars c hc).2

/-! ## Words -/

/-- The first word of a line, and what follows it. -/
def spanWord (cs : List Char) : List Char × List Char :=
  ((cs.dropWhile (· = ' ')).takeWhile (· ≠ ' '), (cs.dropWhile (· = ' ')).dropWhile (· ≠ ' '))

/-- **Blanks in front of a word are skipped, and one behind it ends it.** -/
theorem spanWord_word (k : Nat) {word : List Char} (hword : IsWord word) (rest : List Char) :
    spanWord (List.replicate k ' ' ++ (word ++ ' ' :: rest)) = (word, ' ' :: rest) := by
  obtain ⟨c, cs, rfl⟩ := List.exists_cons_of_ne_nil hword.ne_nil
  have hskip : (List.replicate k ' ' ++ (c :: cs ++ ' ' :: rest)).dropWhile (· = ' ') =
      c :: cs ++ ' ' :: rest := by
    rw [List.dropWhile_append_of_pos fun d hd => by simp [List.eq_of_mem_replicate hd],
      List.cons_append, List.dropWhile_cons_of_neg (by simpa using (hword.chars c (by simp)).1)]
  have hblank : ∀ d ∈ c :: cs, decide (d ≠ ' ') = true :=
    fun d hd => decide_eq_true (hword.chars d hd).1
  unfold spanWord
  rw [hskip, List.takeWhile_append_of_pos hblank, List.dropWhile_append_of_pos hblank]
  simp

/-! ## Lines -/

theorem splitLines_line {line : List Char} (h : IsLine line) (rest : List Char) :
    splitLines (line ++ '\n' :: rest) = (line :: (splitLines rest).1, (splitLines rest).2) := by
  induction line with
  | nil => exact splitLines_lineFeed rest
  | cons c cs ih =>
    obtain ⟨hc, hcs⟩ := List.forall_mem_cons.1 h
    rw [List.cons_append, splitLines_cons hc.1 hc.2, ih hcs]
    rfl

/-- **A text that is made of lines falls into these.** -/
theorem allLines_flatMap {lines : List (List Char)} (h : ∀ line ∈ lines, IsLine line) :
    allLines (lines.flatMap (· ++ ['\n'])) = lines := by
  have hsplit : splitLines (lines.flatMap (· ++ ['\n'])) = (lines, []) := by
    induction lines with
    | nil => rfl
    | cons line lines ih =>
      obtain ⟨hline, hlines⟩ := List.forall_mem_cons.1 h
      rw [List.flatMap_cons, List.append_assoc, List.singleton_append, splitLines_line hline,
        ih hlines]
  unfold allLines
  rw [hsplit]
  rfl

end NetTimeline.Text
