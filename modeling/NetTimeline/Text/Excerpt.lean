/-!
# Excerpts

A text of more than 50 bytes is shown by its first 25 bytes and its last 24, with three points in
between; a character that a cut would split is left out.

This stands for how the library pydantic shortens a value in a message.

Main statement: `utf8Size_excerpt_le` — no value takes more than 52 bytes of a message.
-/

set_option autoImplicit false

namespace NetTimeline.Text

/-- The number of bytes of a text in UTF-8. -/
def utf8Size (cs : List Char) : Nat := cs.foldr (fun c size => c.utf8Size + size) 0

/-- The longest beginning of at most `budget` bytes. -/
def takeBytes (budget : Nat) : List Char → List Char
  | [] => []
  | c :: cs => if c.utf8Size ≤ budget then c :: takeBytes (budget - c.utf8Size) cs else []

theorem utf8Size_append (front back : List Char) :
    utf8Size (front ++ back) = utf8Size front + utf8Size back := by
  induction front with
  | nil => simp [utf8Size]
  | cons c front ih =>
    simp only [utf8Size, List.cons_append, List.foldr_cons] at ih ⊢
    omega

theorem utf8Size_reverse (cs : List Char) : utf8Size cs.reverse = utf8Size cs := by
  induction cs with
  | nil => rfl
  | cons c cs ih =>
    rw [List.reverse_cons, utf8Size_append, ih]
    simp only [utf8Size, List.foldr_cons, List.foldr_nil]
    omega

theorem utf8Size_takeBytes_le (budget : Nat) (cs : List Char) :
    utf8Size (takeBytes budget cs) ≤ budget := by
  induction cs generalizing budget with
  | nil => simp [takeBytes, utf8Size]
  | cons c cs ih =>
    unfold takeBytes
    split
    · have := ih (budget - c.utf8Size)
      simp only [utf8Size, List.foldr_cons] at this ⊢
      omega
    · simp [utf8Size]

/-- A text of at most 50 bytes, or its two ends. -/
def excerpt (s : String) : String :=
  let cs := s.toList
  if utf8Size cs ≤ 50 then s
  else String.ofList
    (takeBytes 25 cs ++ ['.', '.', '.'] ++ (takeBytes 24 cs.reverse).reverse)

theorem utf8Size_excerpt_le (s : String) : utf8Size (excerpt s).toList ≤ 52 := by
  simp only [excerpt]
  split
  · omega
  · have hfront := utf8Size_takeBytes_le 25 s.toList
    have hback := utf8Size_takeBytes_le 24 s.toList.reverse
    have hpoints : utf8Size ['.', '.', '.'] = 3 := by decide
    rw [String.toList_ofList, utf8Size_append, utf8Size_append, utf8Size_reverse, hpoints]
    omega

end NetTimeline.Text
