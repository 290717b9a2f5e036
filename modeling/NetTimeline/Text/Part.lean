/-!
# Parts of a text

Main statements: `after?_append` — behind a text in front of another stands that other;
`hasPart_iff` — a text is a part of exactly those texts it stands in; `intercalate_split` and
`split_intercalate` — a text that is split falls into pieces that make it up again, and pieces
without separators are found again in the text that they make up.
-/

set_option autoImplicit false

namespace NetTimeline.Text

/-- What stands behind `part`, if the text starts with it. -/
def after? : List Char → List Char → Option (List Char)
  | [], cs => some cs
  | _ :: _, [] => none
  | p :: part, c :: cs => if p = c then after? part cs else none

theorem after?_append (part cs : List Char) : after? part (part ++ cs) = some cs := by
  induction part with
  | nil => rfl
  | cons p part ih => simp [after?, ih]

theorem eq_append_of_after? {part cs rest : List Char} (h : after? part cs = some rest) :
    cs = part ++ rest := by
  induction part generalizing cs with
  | nil => exact Option.some.inj h
  | cons p part ih =>
    cases cs with
    | nil => cases h
    | cons c cs =>
      unfold after? at h
      split at h
      · rename_i hc
        rw [hc, ih h, List.cons_append]
      · cases h

/-- Whether `part` stands somewhere in the text. -/
def hasPart (part : List Char) : List Char → Bool
  | [] => part.isEmpty
  | c :: cs => (after? part (c :: cs)).isSome || hasPart part cs

theorem hasPart_append (before part rest : List Char) :
    hasPart part (before ++ part ++ rest) = true := by
  induction before with
  | nil =>
    cases hcs : part ++ rest with
    | nil => simp_all [hasPart]
    | cons c cs =>
      have := after?_append part rest
      simp [hasPart, hcs] at this ⊢
      simp [this]
  | cons b before ih => simp only [List.cons_append, hasPart, ih, Bool.or_true]

theorem hasPart_iff {part cs : List Char} :
    hasPart part cs = true ↔ ∃ before rest, cs = before ++ part ++ rest := by
  constructor
  · intro h
    induction cs with
    | nil =>
      obtain rfl : part = [] := List.isEmpty_iff.1 h
      exact ⟨[], [], rfl⟩
    | cons c cs ih =>
      unfold hasPart at h
      rcases Bool.or_eq_true_iff.1 h with hhere | hlater
      · obtain ⟨rest, hrest⟩ := Option.isSome_iff_exists.1 hhere
        exact ⟨[], rest, eq_append_of_after? hrest⟩
      · obtain ⟨before, rest, hsplit⟩ := ih hlater
        exact ⟨c :: before, rest, by rw [hsplit]; rfl⟩
  · rintro ⟨before, rest, rfl⟩
    exact hasPart_append before part rest

/-- The pieces of a text between its separators. -/
def split (separator : Char) : List Char → List (List Char)
  | [] => [[]]
  | c :: cs =>
    if c = separator then [] :: split separator cs
    else match split separator cs with
      | [] => [[c]]
      | piece :: pieces => (c :: piece) :: pieces

theorem split_ne_nil (separator : Char) (cs : List Char) : split separator cs ≠ [] := by
  cases cs with
  | nil => simp [split]
  | cons c cs =>
    unfold split
    split
    · simp
    · split <;> simp

theorem intercalate_split (separator : Char) (cs : List Char) :
    [separator].intercalate (split separator cs) = cs := by
  induction cs with
  | nil => rfl
  | cons c cs ih =>
    obtain ⟨piece, pieces, hpieces⟩ := List.exists_cons_of_ne_nil (split_ne_nil separator cs)
    rw [hpieces] at ih
    unfold split
    rw [hpieces]
    split
    · rename_i hc
      rw [hc, ← ih]
      simp [List.intercalate]
    · cases pieces with
      | nil => simp_all [List.intercalate]
      | cons next pieces => simp_all [List.intercalate]

/-- A piece holds no separator. -/
theorem not_mem_of_mem_split {separator : Char} {cs piece : List Char}
    (h : piece ∈ split separator cs) : separator ∉ piece := by
  induction cs generalizing piece with
  | nil => simp_all [split]
  | cons c cs ih =>
    obtain ⟨first, pieces, hpieces⟩ := List.exists_cons_of_ne_nil (split_ne_nil separator cs)
    rw [hpieces] at ih
    unfold split at h
    rw [hpieces] at h
    split at h
    · rcases List.mem_cons.1 h with rfl | h
      · exact List.not_mem_nil
      · exact ih h
    · rename_i hc
      rcases List.mem_cons.1 h with rfl | h
      · exact List.not_mem_cons_of_ne_of_not_mem (Ne.symm hc) (ih List.mem_cons_self)
      · exact ih (List.mem_cons_of_mem _ h)

theorem split_of_not_mem {separator : Char} {piece : List Char} (h : separator ∉ piece) :
    split separator piece = [piece] := by
  induction piece with
  | nil => rfl
  | cons c piece ih =>
    have hc : ¬ c = separator := Ne.symm (List.ne_of_not_mem_cons h)
    rw [split, if_neg hc, ih (List.not_mem_of_not_mem_cons h)]

theorem split_append {separator : Char} {piece : List Char} (h : separator ∉ piece)
    (rest : List Char) :
    split separator (piece ++ separator :: rest) = piece :: split separator rest := by
  induction piece with
  | nil => rw [List.nil_append, split, if_pos rfl]
  | cons c piece ih =>
    have hc : ¬ c = separator := Ne.symm (List.ne_of_not_mem_cons h)
    rw [List.cons_append, split, if_neg hc, ih (List.not_mem_of_not_mem_cons h)]

/-- Pieces without separators are found again. -/
theorem split_intercalate {separator : Char} {pieces : List (List Char)} (hne : pieces ≠ [])
    (h : ∀ piece ∈ pieces, separator ∉ piece) :
    split separator ([separator].intercalate pieces) = pieces := by
  induction pieces with
  | nil => exact absurd rfl hne
  | cons piece pieces ih =>
    obtain ⟨hpiece, hpieces⟩ := List.forall_mem_cons.1 h
    cases pieces with
    | nil => rw [List.intercalate_singleton, split_of_not_mem hpiece]
    | cons next pieces =>
      rw [List.intercalate_cons_cons, List.append_assoc, List.singleton_append,
        split_append hpiece, ih (List.cons_ne_nil _ _) hpieces]

end NetTimeline.Text
