import NetTimeline.Proofs.Axis.Document
import NetTimeline.Proofs.Command.Outcome

/-!
# Which divisions are printed

A command line that ends well prints the span and the step of an axis and some of its divisions, as
the lines of a table or as a document that reads back. A scale picks its divisions for the table
alone: the document has those of all scales.

Principal result: `run_scaled` — what is printed of which axis when a scale is asked for, and when
these are exactly the divisions of the scale.
-/

set_option autoImplicit false

namespace NetTimeline.Command

open Calendar (readMoment)
open Files (FileSystem)

/-- The axis that the settings ask for: that of the requests at a path (`build_axis`), or that of a
duration (`divide`). -/
inductive AxisOf (files : FileSystem) (read : DateReader) (settings : Settings) : Axis → Prop
  | path (path : String) (axis : Axis) (hpath : settings.path = some path)
      (hduration : settings.duration = none)
      (haxis : (axisByReader files read (settings.query path)).result = .ok axis) :
    AxisOf files read settings axis
  | duration (duration : Binary64) (axis : Axis) (hpath : settings.path = none)
      (hduration : settings.duration = some duration)
      (haxis : Axis.divide (.float duration) (.number (.int settings.ticks)) = .ok axis) :
    AxisOf files read settings axis

/-- What is printed shows the span and the step of the axis and exactly these divisions, in this
order: it is a document that reads back so, or a header with a line for each of them. -/
def Shows (json : Bool) (axis : Axis) (out : String) (divisions : List Division) : Prop :=
  if json then
    ∃ value, Json.read out.toList = .ok value ∧
      Axis.ofValue? value = some { axis with divisions := divisions }
  else out = unlines (axis.tableHeader divisions.length :: divisions.map Division.tableLine)

variable {files : FileSystem} {read : DateReader} {texts : List String} {settings : Settings}
  {axis : Axis} {out : String} {divisions : List Division}

theorem shows_document :
    Shows true axis (axis.toJson (some 2) ++ "\n") divisions ↔ divisions = axis.divisions := by
  have hread : Json.read (axis.toJson (some 2) ++ "\n").toList = .ok axis.toValue := by
    rw [String.toList_append]
    refine axis.read_toJson_blanks (some 2) fun c hc => ?_
    rw [List.mem_singleton.1 hc]
    rfl
  constructor
  · rintro ⟨value, hvalue, hshown⟩
    rw [hread] at hvalue
    cases hvalue
    rw [Axis.ofValue?_toValue] at hshown
    exact (congrArg Axis.divisions (Option.some.inj hshown)).symm
  · rintro rfl
    exact ⟨_, hread, axis.ofValue?_toValue⟩

theorem shows_table (scale : Option Scale) :
    Shows false axis (unlines (axis.table scale)) (axis.shown scale) := rfl

/-- The axis has no divisions of other scales exactly if those of the scale are all. -/
theorem divisionsIn_eq_iff {scale : Scale} :
    axis.divisionsIn scale = axis.divisions ↔
      ∀ division ∈ axis.divisions, division.unit = scale := by
  rw [Axis.divisionsIn, List.filter_eq_self]
  simp only [decide_eq_true_eq]

theorem report_good {logged : Logged TimelineError Axis}
    (h : (report settings logged).exitCode = 0) :
    ∃ axis, logged.result = .ok axis ∧ (report settings logged).out = axisText settings axis := by
  unfold report at h ⊢
  cases hresult : logged.result with
  | ok axis => exact ⟨axis, rfl, rfl⟩
  | error e =>
    rw [hresult] at h
    dsimp only at h
    split at h <;> cases h

/-- A command line that ends well prints the axis that it asks for. -/
theorem run_good (hasks : Asks files texts settings)
    (h : (runByReader files read texts).exitCode = 0) :
    ∃ axis, AxisOf files read settings axis ∧
      (runByReader files read texts).out = axisText settings axis := by
  rw [run_of_asks hasks] at h ⊢
  rcases settings_run_cases settings files read with
    ⟨e, hrun, -⟩ | ⟨path, hpath, hduration, hrun⟩ | ⟨duration, hpath, hduration, hrun⟩
  · rw [hrun] at h
    cases h
  · rw [hrun] at h ⊢
    obtain ⟨axis, haxis, hout⟩ := report_good h
    exact ⟨axis, .path path axis hpath hduration haxis, hout⟩
  · rw [hrun] at h ⊢
    obtain ⟨axis, haxis, hout⟩ := report_good h
    exact ⟨axis, .duration duration axis hpath hduration (Except.mapError_eq_ok.1 haxis), hout⟩

/-- **What is printed when a scale is asked for**, whatever reads the dates. It is an axis of what
is asked for, in a table with the divisions of the scale alone, but in a document with all of them.
So these are exactly the divisions of the scale in every table, and in a document only if the axis
has no others. -/
theorem run_scaled {scale : Scale} (hasks : Asks files texts settings)
    (hscale : settings.scale = some scale) (hgood : (runByReader files read texts).exitCode = 0) :
    ∃ axis, AxisOf files read settings axis ∧
      Shows settings.json axis (runByReader files read texts).out
        (if settings.json then axis.divisions else axis.divisionsIn scale) ∧
      (Shows settings.json axis (runByReader files read texts).out (axis.divisionsIn scale) ↔
        settings.json = false ∨ ∀ division ∈ axis.divisions, division.unit = scale) := by
  obtain ⟨axis, haxis, hout⟩ := run_good hasks hgood
  refine ⟨axis, haxis, ?_⟩
  rw [hout, axisText, hscale]
  cases hjson : settings.json with
  | true =>
    simp only [if_true, shows_document, divisionsIn_eq_iff, Bool.true_eq_false, false_or, and_self]
  | false =>
    have htable : Shows false axis (unlines (axis.table (some scale))) (axis.divisionsIn scale) :=
      shows_table (some scale)
    simp only [Bool.false_eq_true, if_false, htable, true_or, and_self]

/-- A duration of a bit more than two minutes, as a document with a scale. -/
def minutesTexts : List String := ["-d", "125000", "--json", "--scale", "minute"]

/-- Three of its five divisions are in minutes, but the document has all of them. -/
theorem run_scaled_minutes :
    ∃ settings axis, Asks (.ofList []) minutesTexts settings ∧ settings.scale = some .minute ∧
      AxisOf (.ofList []) (readMoment .epochStart) settings axis ∧
      Shows true axis (runByReader (.ofList []) (readMoment .epochStart) minutesTexts).out
        axis.divisions ∧
      ¬ Shows true axis (runByReader (.ofList []) (readMoment .epochStart) minutesTexts).out
        (axis.divisionsIn .minute) := by
  have hasks : Asks (.ofList []) minutesTexts
      { Settings.default with
        duration := some (.ofInt 125000), scale := some .minute, json := true } :=
    ⟨⟨[⟨.duration, "125000"⟩, ⟨.json, ""⟩, ⟨.scale, "minute"⟩], []⟩, by decide +kernel,
      by decide +kernel, by decide +kernel⟩
  have hgood : (runByReader (.ofList []) (readMoment .epochStart) minutesTexts).exitCode = 0 := by
    decide +kernel
  obtain ⟨axis, haxis, hshown, hexact⟩ := run_scaled hasks rfl hgood
  refine ⟨_, axis, hasks, rfl, haxis, hshown, fun hminutes => ?_⟩
  have hall : ∀ division ∈ axis.divisions, division.unit = .minute :=
    (hexact.1 hminutes).resolve_left Bool.noConfusion
  have hfirst : (Axis.divide (.float (.ofInt 125000)) (.number (.int 5))).toOption.map
      (fun axis => axis.divisions.all fun division => decide (division.unit = .minute)) =
      some false := by
    decide +kernel
  rcases haxis with ⟨path, _, hpath, -, -⟩ | ⟨duration, _, -, hduration, hdivide⟩
  · cases hpath
  · have hvalue : duration = .ofInt 125000 := (Option.some.inj hduration).symm
    have hticks : Axis.divide (.float (.ofInt 125000)) (.number (.int 5)) = .ok axis := by
      rw [← hvalue]
      exact hdivide
    rw [hticks] at hfirst
    have hnot := Option.some.inj hfirst
    rw [List.all_eq_false] at hnot
    obtain ⟨division, hmem, hother⟩ := hnot
    exact hother (decide_eq_true (hall division hmem))

end NetTimeline.Command
