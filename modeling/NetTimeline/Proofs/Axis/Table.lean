import NetTimeline.Axis.Table
import NetTimeline.Proofs.Axis.Distinct
import NetTimeline.Proofs.Number.SixDigits

/-!
# Reading a table back

A line of the table holds three columns with blanks between them: the offset, rounded to six
significant digits, the unit and the label, which is what is left of the line. They are read back
word by word, so nothing depends on the widths of the columns, and the number of the divisions is
read off the end of the header. The offset that is read is five millionths away at most, while two
divisions are a twentieth of the later one apart at least. So the offsets of the lines are in the
order of the divisions, and no two of them are alike.

Principal results:

* `TableEntry.exists_ofLine?` — what a line of the table tells of its division;
* `tableCount?_tableHeader` — what the header tells;
* `TableEntry.Tells.lt` — offsets that are so far apart are read in their order;
* `Axis.divisions_apart` — those of an axis are.
-/

set_option autoImplicit false

namespace NetTimeline

open Text (IsLine IsWord spanWord spanWord_word)

/-! ## Aligned columns -/

theorem toList_pushn (s : String) (c : Char) (k : Nat) :
    (s.pushn c k).toList = s.toList ++ List.replicate k c := by
  unfold String.pushn
  induction k with
  | zero => exact (List.append_nil s.toList).symm
  | succ k ih =>
    have hlast : (Nat.repeat (fun t => t.push c) (k + 1) s).toList =
        (Nat.repeat (fun t => t.push c) k s).toList ++ [c] := String.toList_push c
    rw [hlast, ih, List.append_assoc, List.replicate_succ']

theorem toList_alignRight (width : Nat) (s : String) :
    (alignRight width s).toList = List.replicate (width - s.length) ' ' ++ s.toList := by
  rw [alignRight, String.toList_append, toList_pushn]
  rfl

theorem toList_alignLeft (width : Nat) (s : String) :
    (alignLeft width s).toList = s.toList ++ List.replicate (width - s.length) ' ' :=
  toList_pushn s ' ' _

theorem Scale.isWord_name (scale : Scale) : IsWord scale.name.toList := by
  cases scale <;> decide

theorem Scale.isWord_marker (scale : Scale) : IsWord scale.marker.toList := by
  cases scale <;> decide

/-! ## Lines -/

/-- What a line of the table tells. -/
structure TableEntry where
  offset : ℚ
  unit : Scale
  label : String

/-- A line of the table, read in three columns. -/
def TableEntry.ofLine? (line : List Char) : Option TableEntry := do
  let (numeral, afterOffset) := spanWord line
  let (name, afterUnit) := spanWord afterOffset
  let offset ← readDecimal? false numeral
  let unit ← Scale.ofName? (String.ofList name)
  return ⟨offset.value, unit, String.ofList (afterUnit.dropWhile (· = ' '))⟩

/-- An entry tells of a division: its unit, its label, and its offset up to five millionths. -/
structure TableEntry.Tells (entry : TableEntry) (division : Division) : Prop where
  unit : entry.unit = division.unit
  label : entry.label = division.label
  offset : |entry.offset - division.offset.value| ≤ 5 / 10 ^ 6 * division.offset.value

/-- What keeps a division from being misread: its offset has no sign, and its label is a numeral and
a marker. -/
structure Division.Plain (division : Division) : Prop where
  positive : division.offset.negative = false
  label : ∃ numeral marker, division.label.toList = numeral ++ ' ' :: marker ∧ IsWord numeral ∧
    IsWord marker

namespace Division

variable {division : Division}

/-- The three columns of a line, and the blanks between them. -/
theorem exists_columns (division : Division) :
    ∃ (n : Json.Numeral) (front behind : Nat),
      division.tableLine.toList = List.replicate front ' ' ++ (n.text ++ ' ' :: ' ' ::
        (division.unit.name.toList ++ ' ' ::
          (List.replicate behind ' ' ++ division.label.toList))) ∧
      n.negative = division.offset.negative ∧
      |n.decimal.value - division.offset.value| ≤
        5 / 10 ^ 6 * division.offset.magnitude.value := by
  obtain ⟨n, htext, hsign, herror⟩ := division.offset.exists_tableNumeral
  refine ⟨n, 12 - (Binary64.finite division.offset).tableText.length,
    11 - division.unit.name.length + 1, ?_, hsign, herror⟩
  have htwo : "  ".toList = [' ', ' '] := rfl
  have hblanks (k : Nat) (rest : List Char) : List.replicate k ' ' ++ ' ' :: ' ' :: rest =
      ' ' :: (List.replicate (k + 1) ' ' ++ rest) := by
    rw [List.append_cons, ← List.replicate_succ', List.append_cons, ← List.replicate_succ']
    rfl
  simp only [tableLine, String.toList_append, toList_alignRight, toList_alignLeft, htext, htwo,
    List.append_assoc, List.cons_append, List.nil_append, hblanks]

theorem isLine_tableLine (h : division.Plain) : IsLine division.tableLine.toList := by
  obtain ⟨n, front, behind, hline, -, -⟩ := division.exists_columns
  obtain ⟨numeral, marker, hlabel, hnumeral, hmarker⟩ := h.label
  have htext : IsLine division.label.toList := by
    rw [hlabel]
    exact hnumeral.isLine.append (List.forall_mem_cons.2 ⟨by decide, hmarker.isLine⟩)
  rw [hline]
  refine (IsLine.blanks front).append (n.isWord_text.isLine.append ?_)
  refine List.forall_mem_cons.2 ⟨by decide, List.forall_mem_cons.2 ⟨by decide, ?_⟩⟩
  refine division.unit.isWord_name.isLine.append (List.forall_mem_cons.2 ⟨by decide, ?_⟩)
  exact (IsLine.blanks behind).append htext

end Division

/-- **A line of the table tells of its division.** -/
theorem TableEntry.exists_ofLine? {division : Division} (h : division.Plain) :
    ∃ entry, ofLine? division.tableLine.toList = some entry ∧ entry.Tells division := by
  obtain ⟨n, front, behind, hline, hsign, herror⟩ := division.exists_columns
  rw [← Finite64.value_of_positive h.positive] at herror
  rw [h.positive] at hsign
  have hoffset := spanWord_word front n.isWord_text (' ' :: (division.unit.name.toList ++ ' ' ::
    (List.replicate behind ' ' ++ division.label.toList)))
  have hunit : spanWord (' ' :: ' ' :: (division.unit.name.toList ++ ' ' ::
      (List.replicate behind ' ' ++ division.label.toList))) =
      (division.unit.name.toList, ' ' :: (List.replicate behind ' ' ++ division.label.toList)) :=
    spanWord_word 2 division.unit.isWord_name _
  have hlabel : (' ' :: (List.replicate behind ' ' ++ division.label.toList)).dropWhile (· = ' ') =
      division.label.toList := by
    obtain ⟨numeral, marker, hlabel, hnumeral, -⟩ := h.label
    obtain ⟨c, cs, rfl⟩ := List.exists_cons_of_ne_nil hnumeral.ne_nil
    have hc : c ≠ ' ' := (hnumeral.chars c (by simp)).1
    rw [hlabel, ← List.cons_append, ← List.replicate_succ,
      List.dropWhile_append_of_pos fun d hd => by simp [List.eq_of_mem_replicate hd],
      List.cons_append, List.dropWhile_cons_of_neg (by simpa using hc)]
  refine ⟨⟨n.decimal.value, division.unit, division.label⟩, ?_, rfl, rfl, herror⟩
  unfold ofLine?
  rw [hline, hoffset]
  dsimp only
  rw [hunit]
  dsimp only
  rw [hlabel, n.readDecimal?_text hsign, String.ofList_toList, Scale.ofName?_name,
    String.ofList_toList]
  rfl

/-- **Offsets that are a twentieth apart are read in their order.** -/
theorem TableEntry.Tells.lt {entry later : TableEntry} {division behind : Division}
    (h : entry.Tells division) (hlater : later.Tells behind) (hpos : 0 < behind.offset.value)
    (hapart : 20 * division.offset.value ≤ 19 * behind.offset.value) :
    entry.offset < later.offset := by
  have hupper := (abs_le.1 h.offset).2
  have hlower := (abs_le.1 hlater.offset).1
  linarith

/-! ## The header -/

/-- The number of divisions that a header tells, in front of its last word. -/
def tableCount? (header : List Char) : Option Nat :=
  let (word, front) := spanWord header.reverse
  let (count, _) := spanWord front
  if word = "divisions".toList.reverse ∧ count ≠ [] ∧ count.all Char.isDigit then
    some (digitsValue count.reverse)
  else none

namespace Axis

variable {axis : Axis} {ruler : Ruler}

/-- A header ends with the number and a word. -/
theorem exists_front (axis : Axis) (count : Nat) :
    ∃ front, IsLine front ∧ (axis.tableHeader count).toList =
      front ++ ' ' :: (Nat.toDigits 10 count ++ ' ' :: "divisions".toList) := by
  obtain ⟨span, hspan, -⟩ := axis.span.exists_tableNumeral
  obtain ⟨step, hstep, -⟩ := axis.step.exists_tableNumeral
  refine ⟨"Duration: ".toList ++ (span.text ++ (" ms, step: ".toList ++ (step.text ++
    " ms,".toList))), ?_, ?_⟩
  · refine IsLine.append (by decide) (span.isWord_text.isLine.append ?_)
    exact IsLine.append (by decide) (step.isWord_text.isLine.append (by decide))
  · have hmiddle : " ms, ".toList = " ms,".toList ++ [' '] := rfl
    have hend : " divisions".toList = ' ' :: "divisions".toList := rfl
    have hcount : (toString count).toList = Nat.toDigits 10 count := String.toList_ofList
    delta tableHeader
    simp only [String.toList_append]
    rw [hspan, hstep, hmiddle, hend, hcount]
    simp only [List.append_assoc, List.cons_append, List.nil_append]

theorem isLine_tableHeader (axis : Axis) (count : Nat) :
    IsLine (axis.tableHeader count).toList := by
  obtain ⟨front, hfront, hheader⟩ := axis.exists_front count
  have hdigits := (AllDigits.toDigits count).isWord Nat.toDigits_ne_nil
  rw [hheader]
  refine hfront.append (List.forall_mem_cons.2 ⟨by decide, hdigits.isLine.append ?_⟩)
  decide

/-- **The header tells the number of the divisions.** -/
theorem tableCount?_tableHeader (axis : Axis) (count : Nat) :
    tableCount? (axis.tableHeader count).toList = some count := by
  obtain ⟨front, -, hheader⟩ := axis.exists_front count
  have hdigits := AllDigits.toDigits count
  have hne : Nat.toDigits 10 count ≠ [] := Nat.toDigits_ne_nil
  have hreverse : (axis.tableHeader count).toList.reverse = "divisions".toList.reverse ++ ' ' ::
      ((Nat.toDigits 10 count).reverse ++ ' ' :: front.reverse) := by
    rw [hheader]
    simp only [List.reverse_append, List.reverse_cons, List.append_assoc, List.cons_append,
      List.nil_append]
  have hword := spanWord_word 0 (by decide : IsWord "divisions".toList.reverse)
    ((Nat.toDigits 10 count).reverse ++ ' ' :: front.reverse)
  have hcount := spanWord_word 1 (hdigits.isWord hne).reverse front.reverse
  have hall : ∀ c ∈ (Nat.toDigits 10 count).reverse, Char.isDigit c = true :=
    fun c hc => hdigits c (List.mem_reverse.1 hc)
  rw [List.replicate_zero, List.nil_append] at hword
  rw [List.replicate_one, List.singleton_append] at hcount
  unfold tableCount?
  rw [hreverse, hword]
  dsimp only
  rw [hcount]
  dsimp only
  rw [if_pos ⟨rfl, List.reverse_ne_nil_iff.2 hne, List.all_eq_true.2 hall⟩, List.reverse_reverse,
    digitsValue_toDigits]

/-! ## The divisions -/

theorem plain_of_drawn (hlegible : ruler.Legible)
    (hdrawn : List.Forall₂ (fun offset division => Division.ofOffset offset = .ok division)
      ruler.offsets axis.divisions) : ∀ division ∈ axis.divisions, division.Plain := by
  intro division hmem
  obtain ⟨offset, hoffset, hof⟩ := List.exists_of_forall₂ hdrawn hmem
  obtain ⟨-, hlabel⟩ := Prod.mk.inj
    (Division.mark_of_ofOffset (hlegible.small offset hoffset) hof)
  obtain ⟨numeral, hnumeral, htext⟩ :=
    (Scale.forTime (.int offset)).exists_numeral_labelText offset
  exact ⟨AxisError.negative_of_field (Division.ofOffset_cases hof).2, numeral, _,
    (congrArg String.toList hlabel).trans htext, hnumeral, Scale.isWord_marker _⟩

/-- The offsets of an axis are those of its ruler. -/
theorem Draws.values (hdraws : axis.Draws ruler) :
    axis.divisions.map (fun division => division.offset.value) =
      ruler.offsets.map fun offset : Nat => (offset : ℚ) := by
  have hunits : (unitsPerOne : ℚ) ≠ 0 := Nat.cast_ne_zero.2 unitsPerOne_pos.ne'
  have hoffsets := congrArg (List.map fun units : Int => (units : ℚ) / unitsPerOne) hdraws.offsets
  rw [List.map_map, List.map_map] at hoffsets
  refine hoffsets.trans (List.map_congr_left fun offset _ => ?_)
  show (((offset * unitsPerOne : Nat) : Int) : ℚ) / unitsPerOne = offset
  rw [Int.cast_natCast, Nat.cast_mul, mul_div_cancel_right₀ _ hunits]

/-- **The offsets of an axis are a twentieth of the later one apart.** -/
theorem divisions_apart (hlegible : ruler.Legible) (hdraws : axis.Draws ruler) :
    axis.divisions.Pairwise fun division behind => 0 < behind.offset.value ∧
      20 * division.offset.value ≤ 19 * behind.offset.value := by
  have hruler : ruler.offsets.Pairwise fun offset larger : Nat =>
      0 < (larger : ℚ) ∧ 20 * (offset : ℚ) ≤ 19 * larger := by
    refine hlegible.increasing.imp_of_mem fun {offset larger} hoffset hlarger hlt => ?_
    have hapart := hlegible.apart offset hoffset larger hlarger hlt
    unfold maxTickCount at hapart
    exact_mod_cast (⟨by omega, by omega⟩ : 0 < larger ∧ 20 * offset ≤ 19 * larger)
  have hmapped : (ruler.offsets.map fun offset : Nat => (offset : ℚ)).Pairwise
      fun value later => 0 < later ∧ 20 * value ≤ 19 * later := List.pairwise_map.2 hruler
  rw [← hdraws.values] at hmapped
  exact List.pairwise_map.1 hmapped

theorem shown_sublist (axis : Axis) (scale : Option Scale) :
    (axis.shown scale).Sublist axis.divisions := by
  cases scale with
  | none => exact List.Sublist.refl _
  | some scale => exact axis.divisionsIn_sublist scale

/-- **The lines of a table tell of the divisions one after the other**, and their offsets ascend. -/
theorem exists_entries {divisions : List Division}
    (hplain : ∀ division ∈ divisions, division.Plain)
    (hapart : divisions.Pairwise fun division behind => 0 < behind.offset.value ∧
      20 * division.offset.value ≤ 19 * behind.offset.value) :
    ∃ entries : List TableEntry,
      ((divisions.map Division.tableLine).map String.toList).map TableEntry.ofLine? =
        entries.map some ∧
      List.Forall₂ TableEntry.Tells entries divisions ∧
      entries.Pairwise fun entry later => entry.offset < later.offset := by
  obtain ⟨entries, hentries⟩ := List.exists_forall₂ fun division hmem =>
    TableEntry.exists_ofLine? (hplain division hmem)
  have htell : List.Forall₂ TableEntry.Tells entries divisions :=
    hentries.flip.imp fun _ _ h => h.2
  have hlines : divisions.map (fun division => TableEntry.ofLine? division.tableLine.toList) =
      entries.map some :=
    List.map_eq_of_forall₂ hentries.flip fun _ _ _ h => h.1
  refine ⟨entries, ?_, htell, List.pairwise_of_forall₂ htell hapart
    fun h hlater hbetween => h.lt hlater hbetween.1 hbetween.2⟩
  simpa only [List.map_map, Function.comp_def] using hlines

end Axis

end NetTimeline
