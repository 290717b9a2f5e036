import NetTimeline.Proofs.Axis.Table
import NetTimeline.Proofs.Command.Outcome

/-!
# A printed table, read back

What is printed for a duration without asking for a document is a table: a header, and behind it the
lines of some divisions. Line by line, unit and label are those of the divisions, and the offsets
are near theirs and ascend: the text `Tabulates` them. They are those of a scale that is asked for,
or else all. The bound of `2 ^ 53` milliseconds keeps the offsets exact up to the rounding in the
table, and the range of the ticks keeps them apart after it.

Principal results:

* `tabulates_table` — the lines of a table of divisions tell of these divisions;
* `run_table` — what is printed for a duration, with and without a scale.
-/

set_option autoImplicit false

namespace NetTimeline.Command

open Calendar (readMoment)
open Files (FileSystem)

theorem toList_unlines (lines : List String) :
    (unlines lines).toList = (lines.map String.toList).flatMap (· ++ ['\n']) := by
  have hline : ∀ line : String, (line ++ "\n").toList = line.toList ++ ['\n'] :=
    fun line => String.toList_append
  simp only [unlines, String.toList_join, List.flatMap_map, hline]

variable {files : FileSystem} {read : DateReader} {texts : List String} {settings : Settings}
  {axis : Axis} {duration : Binary64}

theorem report_ok {logged : Logged TimelineError Axis} (h : logged.result = .ok axis) :
    report settings logged =
      ⟨0, axisText settings axis, logText settings.verbose logged.records, none⟩ := by
  unfold report
  rw [h]

/-- A duration that has an axis gets it printed. -/
theorem run_duration (hasks : Asks files texts settings) (hpath : settings.path = none)
    (hduration : settings.duration = some duration)
    (haxis : Axis.divide (.float duration) (.number (.int settings.ticks)) = .ok axis) :
    (runByReader files read texts).exitCode = 0 ∧
      (runByReader files read texts).out = axisText settings axis := by
  have hresult : (Logged.ofExcept ((Axis.divide (.float duration)
      (.number (.int settings.ticks))).mapError TimelineError.axis)).result = .ok axis := by
    rw [haxis]
    rfl
  rw [run_of_asks hasks, Settings.run, hpath, hduration]
  dsimp only
  rw [report_ok hresult]
  exact ⟨rfl, rfl⟩

/-- The text is a table of these divisions: a header that tells how many lines follow, and lines
that tell of the divisions one after the other, with unit and label as they are, with the offset up
to five millionths, and with ascending offsets. -/
def Tabulates (out : String) (divisions : List Division) : Prop :=
  ∃ header rows, Text.allLines out.toList = header :: rows ∧
    tableCount? header = some rows.length ∧
    ∃ entries, rows.map TableEntry.ofLine? = entries.map some ∧
      List.Forall₂ TableEntry.Tells entries divisions ∧
      entries.Pairwise fun entry later => entry.offset < later.offset

/-- The table of an axis is one of its divisions, or of those of a scale. -/
theorem tabulates_table {ticks : Nat} (hticks : (ticks : Int) ≤ maxTickCount)
    (h53 : (Number.float duration).lt (.int (2 ^ 53 : Nat)) = true)
    (haxis : Axis.divide (.float duration) (.number (.int ticks)) = .ok axis)
    (scale : Option Scale) : Tabulates (unlines (axis.table scale)) (axis.shown scale) := by
  obtain ⟨ruler, hlegible, hdraws, hdrawn⟩ := Axis.exists_legible_draws h53 hticks haxis
  -- what holds of all divisions holds of those that are selected
  have hsublist := axis.shown_sublist scale
  have hplain : ∀ division ∈ axis.shown scale, division.Plain :=
    fun division hmem => Axis.plain_of_drawn hlegible hdrawn division (hsublist.subset hmem)
  obtain ⟨entries, hentries, htell, hascend⟩ := Axis.exists_entries hplain
    ((Axis.divisions_apart hlegible hdraws).sublist hsublist)
  have hlines : ∀ line ∈ (axis.table scale).map String.toList, Text.IsLine line := by
    refine List.forall_mem_map.2 (List.forall_mem_cons.2 ⟨axis.isLine_tableHeader _, ?_⟩)
    exact List.forall_mem_map.2 fun division hmem =>
      Division.isLine_tableLine (hplain division hmem)
  refine ⟨(axis.tableHeader (axis.shown scale).length).toList,
    ((axis.shown scale).map Division.tableLine).map String.toList, ?_, ?_, entries, hentries,
    htell, hascend⟩
  · rw [toList_unlines, Text.allLines_flatMap hlines]
    rfl
  · rw [axis.tableCount?_tableHeader, List.length_map, List.length_map]

/-- **A table is read back.** For every duration below `2 ^ 53` milliseconds and whatever the ticks,
the command ends well and prints a table: of the divisions of the scale, if one is asked for, and
otherwise of all divisions of the axis. -/
theorem run_table (hasks : Asks files texts settings) (hpath : settings.path = none)
    (hduration : settings.duration = some duration) (husable : (Number.float duration).Usable)
    (h53 : (Number.float duration).lt (.int (2 ^ 53 : Nat)) = true)
    (hjson : settings.json = false) :
    (runByReader files read texts).exitCode = 0 ∧
      ∃ axis, Axis.divide (.float duration) (.number (.int settings.ticks)) = .ok axis ∧
        (∀ scale, settings.scale = some scale →
          Tabulates (runByReader files read texts).out (axis.divisionsIn scale)) ∧
        (settings.scale = none →
          Tabulates (runByReader files read texts).out axis.divisions) := by
  obtain ⟨arguments, -, -, hsettings⟩ := id hasks
  obtain ⟨hone, hmost⟩ := Settings.ofArguments_ticksInRange hsettings
  have hticks : (settings.ticks : Int) ≤ maxTickCount := Int.ofNat_le.2 hmost
  obtain ⟨axis, haxis⟩ := Axis.exists_divide_of_usable husable (husable.converts_of_lt h53)
    (Int.ofNat_le.2 hone) (Int.le_trans hticks (by decide))
  obtain ⟨hexit, hout⟩ := run_duration hasks hpath hduration haxis
  have htable := tabulates_table hticks h53 haxis settings.scale
  rw [hout, axisText, hjson, if_neg Bool.false_ne_true]
  refine ⟨hexit, axis, haxis, ?_, ?_⟩
  · intro scale hscale
    rw [hscale] at htable ⊢
    exact htable
  · intro hscale
    rw [hscale] at htable ⊢
    exact htable

/-- The longest duration of whole milliseconds, in three intervals. -/
def longestTexts : List String := ["-d", "9007199254740991", "--ticks", "3"]

/-- The same, with a scale. -/
def longestMinutesTexts : List String := longestTexts ++ ["--scale", "minute"]

/-- Its long offsets are written with an exponent: of `6004799503160660` five digits are told. With
a scale, the table has the divisions in minutes alone. -/
theorem run_table_longest :
    (runByReader (.ofList []) (readMoment .epochStart) longestTexts).out = unlines
      ["Duration: 9.0072e+15 ms, step: 3.0024e+15 ms, 4 divisions",
        "           0  millisecond  0 ms", "       30000  second       30.00 s",
        "  3.0024e+15  minute       50039995860.00 min",
        "  6.0048e+15  minute       100079991720.00 min"] ∧
      (runByReader (.ofList []) (readMoment .epochStart) longestMinutesTexts).out = unlines
        ["Duration: 9.0072e+15 ms, step: 3.0024e+15 ms, 2 divisions",
          "  3.0024e+15  minute       50039995860.00 min",
          "  6.0048e+15  minute       100079991720.00 min"] ∧
      ∃ axis, Axis.divide (.float (.ofInt 9007199254740991)) (.number (.int 3)) = .ok axis ∧
        Tabulates (runByReader (.ofList []) (readMoment .epochStart) longestTexts).out
          axis.divisions ∧
        Tabulates (runByReader (.ofList []) (readMoment .epochStart) longestMinutesTexts).out
          (axis.divisionsIn .minute) := by
  have hasks : Asks (.ofList []) longestTexts
      { Settings.default with duration := some (.ofInt 9007199254740991), ticks := 3 } :=
    ⟨⟨[⟨.duration, "9007199254740991"⟩, ⟨.ticks, "3"⟩], []⟩, by decide +kernel,
      by decide +kernel, by decide +kernel⟩
  have hasksMinutes : Asks (.ofList []) longestMinutesTexts
      { Settings.default with
        duration := some (.ofInt 9007199254740991), ticks := 3, scale := some .minute } :=
    ⟨⟨[⟨.duration, "9007199254740991"⟩, ⟨.ticks, "3"⟩, ⟨.scale, "minute"⟩], []⟩,
      by decide +kernel, by decide +kernel, by decide +kernel⟩
  have husable : (Number.float (.ofInt 9007199254740991)).Usable := by
    refine Number.usable_iff.2 ⟨9007199254740991 * unitsPerOne, ?_⟩
    unfold Number.LiesAt
    decide +kernel
  have hbelow : (Number.float (.ofInt 9007199254740991)).lt (.int (2 ^ 53 : Nat)) = true := by
    decide +kernel
  obtain ⟨-, axis, haxis, -, hall⟩ := run_table hasks rfl rfl husable hbelow rfl
  obtain ⟨-, other, hother, hminutes, -⟩ := run_table hasksMinutes rfl rfl husable hbelow rfl
  obtain rfl : axis = other := Except.ok.inj (haxis.symm.trans hother)
  exact ⟨by decide +kernel, by decide +kernel, axis, haxis, hall rfl, hminutes .minute rfl⟩

end NetTimeline.Command
