import Mathlib.Data.String.Basic
import NetTimeline.Files.Tree

/-!
# A path leads where its text leads

`Path.ofString` leaves out of a text the repeated slashes and the steps that stay at the same place.
A walk that arrives does so without these steps as well, through the same links, and the text of the
path is no longer than the one it was read from. So whatever a text leads to, its path leads to,
too. The converse does not hold: behind the name of a file, a slash is an error.

Principal results:

* `Path.text_sublist` — the text of a path is the text it was read from, but for some characters;
* `Path.components_text` — its pieces are the steps of the path, behind some that stay;
* `Tree.resolve_trims` — every walk that arrives still does without steps that stay;
* `Tree.find_ofString` — what a text leads to, its path leads to.
-/

set_option autoImplicit false

namespace NetTimeline.Files

/-! ## Texts -/

section Texts

variable {α : Type}

/-- With some of the pieces left out, what they make up is left out with them. -/
theorem intercalate_sublist (separator : List α) {pieces more : List (List α)}
    (h : pieces.Sublist more) :
    (separator.intercalate pieces).Sublist (separator.intercalate more) := by
  induction h with
  | slnil => exact .refl _
  | @cons pieces more piece h ih =>
    by_cases hmore : more = []
    · subst hmore
      rw [List.sublist_nil.1 h]
      exact List.nil_sublist _
    · rw [List.intercalate_cons_of_ne_nil hmore]
      exact ih.trans (List.sublist_append_right _ _)
  | @cons_cons pieces more piece h ih =>
    by_cases hpieces : pieces = []
    · subst hpieces
      rw [List.intercalate_singleton]
      by_cases hmore : more = []
      · rw [hmore, List.intercalate_singleton]
      · rw [List.intercalate_cons_of_ne_nil hmore, List.append_assoc]
        exact List.sublist_append_left _ _
    · have hmore : more ≠ [] := by
        rintro rfl
        exact hpieces (List.sublist_nil.1 h)
      rw [List.intercalate_cons_of_ne_nil hpieces, List.intercalate_cons_of_ne_nil hmore]
      exact ih.append_left _

/-- A text with characters left out has no more bytes. -/
theorem utf8ByteSize_le_of_sublist {short text : String} (h : short.toList.Sublist text.toList) :
    short.utf8ByteSize ≤ text.utf8ByteSize := by
  rw [← String.ofList_toList (s := short), ← String.ofList_toList (s := text),
    String.utf8ByteSize_ofList, String.utf8ByteSize_ofList]
  exact String.utf8Len_le_of_sublist h

end Texts

/-! ## The text of a path -/

namespace Path

variable {text : String}

theorem root_eq_here_iff : (ofString text).root = .here ↔ isAbsolute text = false := by
  show Root.ofChars text.toList = .here ↔ decide (text.toList.head? = some '/') = false
  generalize text.toList = cs
  rw [decide_eq_false_iff_not]
  unfold Root.ofChars
  split
  · simp
  · simp
  · simp
  · rename_i hslash
    cases cs with
    | nil => simp
    | cons c cs =>
      have hc : c ≠ '/' := fun hc => hslash cs (by rw [hc])
      simp [hc]

/-- A text is the root of its path, and behind it stand the pieces from which the steps are taken.
-/
theorem exists_behind_root (text : String) :
    ∃ behind, text.toList = (ofString text).root.text.toList ++ behind ∧
      (ofString text).parts = ((Text.split '/' behind).map String.ofList).filter isStep := by
  have hslash (cs : List Char) :
      ((Text.split '/' ('/' :: cs)).map String.ofList).filter isStep =
        ((Text.split '/' cs).map String.ofList).filter isStep := by
    rw [Text.split, if_pos rfl, List.map_cons]
    exact List.filter_cons_of_neg (by decide)
  show ∃ behind, text.toList = (Root.ofChars text.toList).text.toList ++ behind ∧
    ((Text.split '/' text.toList).map String.ofList).filter isStep = _
  generalize text.toList = cs
  unfold Root.ofChars
  split
  · exact ⟨_, rfl, hslash _⟩
  · exact ⟨_, rfl, (hslash _).trans (hslash _)⟩
  · exact ⟨_, rfl, hslash _⟩
  · exact ⟨cs, rfl, rfl⟩

theorem isStep_of_mem_parts {part : String} (h : part ∈ (ofString text).parts) :
    isStep part = true := (List.mem_filter.1 h).2

theorem not_mem_of_mem_parts {part : String} (h : part ∈ (ofString text).parts) :
    '/' ∉ part.toList := by
  obtain ⟨piece, hpiece, rfl⟩ := List.mem_map.1 (List.mem_filter.1 h).1
  rw [String.toList_ofList]
  exact Text.not_mem_of_mem_split hpiece

/-- The steps of a path begin with a character other than a slash. -/
theorem exists_front_parts (h : (ofString text).parts ≠ []) :
    ∃ c cs, ['/'].intercalate ((ofString text).parts.map String.toList) = c :: cs ∧ c ≠ '/' := by
  obtain ⟨part, parts, hparts⟩ := List.exists_cons_of_ne_nil h
  have hmem : part ∈ (ofString text).parts := hparts ▸ List.mem_cons_self
  have hne : part.toList ≠ [] := by
    intro hnil
    have hstep := isStep_of_mem_parts hmem
    rw [String.toList_eq_nil_iff.1 hnil] at hstep
    cases hstep
  obtain ⟨c, cs, hpart⟩ := List.exists_cons_of_ne_nil hne
  rw [hparts, List.map_cons, hpart, List.intercalate_cons_cons_left]
  refine ⟨c, _, rfl, ?_⟩
  rintro rfl
  exact not_mem_of_mem_parts hmem (hpart ▸ List.mem_cons_self)

/-- The text of a path that has steps. -/
theorem toList_text (h : (ofString text).parts ≠ []) :
    (ofString text).text.toList = (ofString text).root.text.toList ++
      ['/'].intercalate ((ofString text).parts.map String.toList) := by
  have hlist : ((ofString text).root.text ++ "/".intercalate (ofString text).parts).toList =
      (ofString text).root.text.toList ++
        ['/'].intercalate ((ofString text).parts.map String.toList) := by
    rw [String.toList_append, String.toList_intercalate]
    rfl
  rw [← hlist, Path.text, if_neg]
  intro hempty
  rw [String.isEmpty_iff] at hempty
  rw [hempty] at hlist
  obtain ⟨c, cs, hfront, -⟩ := exists_front_parts h
  rw [hfront] at hlist
  cases (List.append_eq_nil_iff.1 hlist.symm).2

theorem text_ne_empty (path : Path) : path.text ≠ "" := by
  unfold Path.text
  dsimp only
  split
  · decide
  · rename_i hempty
    exact mt String.isEmpty_iff.2 hempty

/-- The text of a path without steps is its root, or a point. -/
theorem text_of_parts_nil (h : (ofString text).parts = []) :
    (ofString text).text = if (ofString text).root = .here then "." else
      (ofString text).root.text := by
  rw [Path.text, h]
  cases (ofString text).root <;> decide

/-- A path without steps that starts where the program works was read from points and slashes. -/
theorem point_mem (hroot : (ofString text).root = .here) (hparts : (ofString text).parts = [])
    (htext : text ≠ "") : '.' ∈ text.toList := by
  obtain ⟨c, cs, hcs⟩ := List.exists_cons_of_ne_nil (mt String.toList_eq_nil_iff.1 htext)
  have hc : ¬ c = '/' := by
    have hrelative := root_eq_here_iff.1 hroot
    rw [isAbsolute, hcs] at hrelative
    simpa using hrelative
  obtain ⟨piece, pieces, hpieces⟩ := List.exists_cons_of_ne_nil (Text.split_ne_nil '/' cs)
  have hnone : ∀ step ∈ components text, ¬ isStep step = true := List.filter_eq_nil_iff.1 hparts
  have hfirst : components text = String.ofList (c :: piece) :: pieces.map String.ofList := by
    rw [components, hcs, Text.split, if_neg hc, hpieces]
    rfl
  have hstay : isStep (String.ofList (c :: piece)) = false := by
    rw [hfirst] at hnone
    exact Bool.eq_false_iff.2 (hnone _ List.mem_cons_self)
  rcases isStep_eq_false_iff.1 hstay with hempty | hpoint
  · cases String.ofList_eq_empty_iff.1 hempty
  · have hlist := congrArg String.toList hpoint
    rw [String.toList_ofList] at hlist
    rw [hcs, (List.cons.inj hlist).1]
    exact List.mem_cons_self

/-- **The text of a path is the text it was read from**, with some characters left out. -/
theorem text_sublist (htext : text ≠ "") : (ofString text).text.toList.Sublist text.toList := by
  obtain ⟨behind, htoList, hbehind⟩ := exists_behind_root text
  by_cases hparts : (ofString text).parts = []
  · rw [text_of_parts_nil hparts]
    split
    · rename_i hroot
      exact List.singleton_sublist.2 (point_mem hroot hparts htext)
    · rw [htoList]
      exact List.sublist_append_left _ _
  · have hpieces : ((ofString text).parts.map String.toList).Sublist (Text.split '/' behind) := by
      have hmap : ((Text.split '/' behind).map String.ofList).map String.toList =
          Text.split '/' behind := by
        simp only [List.map_map, Function.comp_def, String.toList_ofList, List.map_id']
      have hkept := (List.filter_sublist (p := isStep)
        (l := (Text.split '/' behind).map String.ofList)).map String.toList
      rw [hmap] at hkept
      rw [hbehind]
      exact hkept
    rw [toList_text hparts, htoList]
    have hbehind' := intercalate_sublist ['/'] hpieces
    rw [Text.intercalate_split] at hbehind'
    exact hbehind'.append_left _

/-- **The pieces of a path's text** are its steps, behind some that stay. -/
theorem components_text (text : String) :
    ∃ front, (∀ step ∈ front, isStep step = false) ∧
      components (ofString text).text = front ++ (ofString text).parts := by
  by_cases hparts : (ofString text).parts = []
  · rw [text_of_parts_nil hparts, hparts]
    cases (ofString text).root with
    | here => exact ⟨["."], by decide, by decide⟩
    | top => exact ⟨["", ""], by decide, by decide⟩
    | doubled => exact ⟨["", "", ""], by decide, by decide⟩
  · have hsplit : (Text.split '/' (['/'].intercalate ((ofString text).parts.map String.toList))).map
        String.ofList = (ofString text).parts := by
      rw [Text.split_intercalate (by simpa using hparts)]
      · simp only [List.map_map, Function.comp_def, String.ofList_toList, List.map_id']
      · exact List.forall_mem_map.2 fun part hmem => not_mem_of_mem_parts hmem
    rw [components, toList_text hparts]
    cases (ofString text).root with
    | here => exact ⟨[], by decide, hsplit⟩
    | top => exact ⟨[""], by decide, congrArg (List.cons "") hsplit⟩
    | doubled => exact ⟨["", ""], by decide, congrArg (fun steps => "" :: "" :: steps) hsplit⟩

theorem isAbsolute_text_eq_false_iff :
    isAbsolute (ofString text).text = false ↔ (ofString text).root = .here := by
  by_cases hparts : (ofString text).parts = []
  · rw [text_of_parts_nil hparts]
    cases (ofString text).root <;> decide
  · obtain ⟨c, cs, hfront, hc⟩ := exists_front_parts hparts
    rw [isAbsolute, toList_text hparts, hfront]
    cases (ofString text).root with
    | here => simpa [Root.text] using hc
    | top => simp [Root.text]
    | doubled => simp [Root.text]

/-- A path starts where its text does. -/
theorem isAbsolute_text (text : String) : isAbsolute (ofString text).text = isAbsolute text := by
  have hiff : isAbsolute (ofString text).text = false ↔ isAbsolute text = false :=
    isAbsolute_text_eq_false_iff.trans root_eq_here_iff
  cases habsolute : isAbsolute text with
  | false => exact hiff.2 habsolute
  | true =>
    rw [habsolute] at hiff
    simpa using hiff

end Path

/-! ## Walks without the steps that stay -/

/-- The second walk is the first, with some steps left out that stay at the same place. -/
inductive Trims : List String → List String → Prop
  | nil : Trims [] []
  | drop {step : String} {steps short : List String} (hstay : isStep step = false)
      (h : Trims steps short) : Trims (step :: steps) short
  | keep (step : String) {steps short : List String} (h : Trims steps short) :
    Trims (step :: steps) (step :: short)

/-- A step that does not stay is not left out. -/
theorem Trims.of_step {step : String} {steps short : List String}
    (hstep : ¬ (step = "" ∨ step = ".")) (h : Trims (step :: steps) short) :
    ∃ rest, short = step :: rest ∧ Trims steps rest := by
  cases h with
  | drop hstay h => exact absurd (isStep_eq_false_iff.1 hstay) hstep
  | keep _ h => exact ⟨_, rfl, h⟩

theorem Trims.append_left {steps short : List String} (h : Trims steps short)
    (front : List String) : Trims (front ++ steps) (front ++ short) := by
  induction front with
  | nil => exact h
  | cons step front ih => exact .keep step ih

theorem Trims.filter (steps : List String) : Trims steps (steps.filter isStep) := by
  induction steps with
  | nil => exact .nil
  | cons step steps ih =>
    by_cases hstep : isStep step = true
    · rw [List.filter_cons_of_pos hstep]
      exact .keep step ih
    · rw [List.filter_cons_of_neg hstep]
      exact .drop (Bool.eq_false_iff.2 hstep) ih

namespace Tree

/-- A step that stays changes nothing where a walk has come to. -/
theorem resolve_stay {links : Nat} {trail : Trail} {step : String} (hstay : isStep step = false)
    (steps : List String) : resolve links trail (step :: steps) = resolve links trail steps := by
  rw [resolve, if_pos (isStep_eq_false_iff.1 hstay)]

theorem resolve_front {links : Nat} {trail : Trail} {front : List String}
    (hfront : ∀ step ∈ front, isStep step = false) (steps : List String) :
    resolve links trail (front ++ steps) = resolve links trail steps := by
  induction front with
  | nil => rfl
  | cons step front ih =>
    obtain ⟨hstep, hfront⟩ := List.forall_mem_cons.1 hfront
    rw [List.cons_append, resolve_stay hstep, ih hfront]

/-- **A walk that arrives still does without steps that stay.** The induction follows the walk. A
file has to be its last step, so that nothing but steps that stay may be lost behind it. -/
theorem resolve_trims {links : Nat} {trail : Trail} {steps short : List String} {entry : Entry}
    (htrims : Trims steps short) (h : resolve links trail steps = .ok entry) :
    resolve links trail short = .ok entry := by
  induction links, trail, steps using resolve.induct generalizing short with
  | case1 links trail =>
    cases htrims
    exact h
  | case2 links trail step steps hstay ih =>
    rw [resolve, if_pos hstay] at h
    cases htrims with
    | drop _ htrims => exact ih htrims h
    | keep _ htrims =>
      rw [resolve, if_pos hstay]
      exact ih htrims h
  | case3 links trail steps hstay ih =>
    obtain ⟨rest, rfl, hrest⟩ := htrims.of_step hstay
    rw [resolve, if_neg hstay, if_pos rfl] at h ⊢
    exact ih hrest h
  | case4 links trail step steps hstay hup hlong =>
    rw [resolve, if_neg hstay, if_neg hup, if_pos hlong] at h
    cases h
  | case5 links trail step steps hstay hup hlong hnone =>
    rw [resolve, if_neg hstay, if_neg hup, if_neg hlong, hnone] at h
    cases h
  | case6 links trail step steps hstay hup hlong entries hfound ih =>
    obtain ⟨rest, rfl, hrest⟩ := htrims.of_step hstay
    rw [resolve, if_neg hstay, if_neg hup, if_neg hlong, hfound] at h ⊢
    exact ih hrest h
  | case7 links trail step hstay hup hlong bytes hfound =>
    obtain ⟨rest, rfl, hrest⟩ := htrims.of_step hstay
    cases hrest
    exact h
  | case8 links trail step steps hstay hup hlong bytes hfound hmore =>
    rw [resolve, if_neg hstay, if_neg hup, if_neg hlong, hfound] at h
    simp only [hmore, if_false] at h
    cases h
  | case9 trail step steps hstay hup hlong target hfound =>
    rw [resolve, if_neg hstay, if_neg hup, if_neg hlong, hfound] at h
    cases h
  | case10 trail step steps hstay hup hlong target hfound links ih =>
    obtain ⟨rest, rfl, hrest⟩ := htrims.of_step hstay
    rw [resolve, if_neg hstay, if_neg hup, if_neg hlong, hfound] at h ⊢
    exact ih (hrest.append_left _) h

/-- **What a text leads to, its path leads to.** -/
theorem find_ofString {tree : Entries} {text : String} {entry : Entry}
    (h : (system tree).find text = .ok entry) :
    (system tree).find (Path.ofString text).text = .ok entry := by
  rw [system_find] at h ⊢
  obtain ⟨hnull, hempty, hshort, hwalk⟩ := find_eq_ok_iff.1 h
  have hsublist := Path.text_sublist hempty
  obtain ⟨front, hfront, hcomponents⟩ := Path.components_text text
  refine find_eq_ok_iff.2 ⟨?_, ?_, ?_, ?_⟩
  · rw [← Bool.not_eq_true, List.contains_iff_mem] at hnull ⊢
    exact fun hmem => hnull (hsublist.subset hmem)
  · exact Path.text_ne_empty _
  · exact (utf8ByteSize_le_of_sublist hsublist).trans hshort
  · rw [hcomponents, Path.isAbsolute_text, resolve_front hfront]
    exact resolve_trims (.filter _) hwalk

end Tree

end NetTimeline.Files
