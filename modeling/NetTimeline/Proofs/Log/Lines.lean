import NetTimeline.Log.Load
import NetTimeline.Proofs.Result
import NetTimeline.Proofs.Text.Utf8

/-!
# What comes of the lines of a log

A line is blank, holds an event, or is rejected, and loading a log does one thing for each of the
three: nothing, an event, or a warning with the number of the line. Blank lines are counted in the
numbers.

Principal results:

* `LogLine.event?_ofChars`, `LogLine.record?_warnsOf` — what a single line adds to the events and
  to the warnings;
* `loadLog_lines` — so loading a log never fails, and its events are those of its lines in order,
  whatever else stands between them.
-/

set_option autoImplicit false

namespace NetTimeline

open Files (FileSystem Path)

/-! ## One line -/

namespace LogLine

/-- Whether a line holds nothing. -/
def isBlank (line : List Char) : Bool := line.all Text.isBlank

/-- The event of a line: the one that its text, without the blanks at the ends, makes as a JSON
object. -/
def event? (line : List Char) : Option NetworkEvent :=
  match Json.read (Text.trim Text.isBlank line) with
  | .ok (.object fields) => (NetworkEvent.ofFields fields).toOption
  | _ => none

/-- Whether a line is neither blank nor holds an event. -/
def isRejected (line : List Char) : Bool := !isBlank line && (event? line).isNone

variable {line : List Char}

theorem isBlank_iff : isBlank line = true ↔ Text.trim Text.isBlank line = [] := by
  rw [Text.trim_eq_nil_iff, isBlank, List.all_eq_true]

theorem event?_of_isBlank (h : isBlank line = true) : event? line = none := by
  rw [event?, isBlank_iff.1 h]
  rfl

theorem ofChars_of_isBlank (h : isBlank line = true) : LineReading.ofChars line = .blank :=
  LineReading.ofChars_blank (List.all_eq_true.1 h)

/-- The reading of a line that is not blank. -/
theorem ofChars_of_not_isBlank (h : isBlank line = false) :
    (∃ e, event? line = some e ∧ LineReading.ofChars line = .event e) ∨
      event? line = none ∧ ∃ problem, LineReading.ofChars line = .rejected problem := by
  have hne : Text.trim Text.isBlank line ≠ [] := by
    rw [Ne, ← isBlank_iff, h]
    exact Bool.false_ne_true
  obtain ⟨c, cs, hstripped⟩ := List.exists_cons_of_ne_nil hne
  unfold LineReading.ofChars event?
  rw [hstripped]
  dsimp only
  unfold LineReading.readEvent
  cases Json.read (c :: cs) with
  | error error => exact .inr ⟨rfl, .unreadable error, rfl⟩
  | ok value =>
    cases value with
    | object fields =>
      dsimp only
      cases NetworkEvent.ofFields fields with
      | ok e => exact .inl ⟨e, rfl, rfl⟩
      | error error => exact .inr ⟨rfl, .noEvent error, rfl⟩
    | _ => exact .inr ⟨rfl, .notObject _, rfl⟩

/-- What a line adds to the events. -/
theorem event?_ofChars (line : List Char) : (LineReading.ofChars line).event? = event? line := by
  cases hblank : isBlank line with
  | true =>
    rw [ofChars_of_isBlank hblank, event?_of_isBlank hblank]
    rfl
  | false =>
    obtain ⟨e, hevent, hline⟩ | ⟨hevent, problem, hline⟩ := ofChars_of_not_isBlank hblank
    · rw [hline, hevent]
      rfl
    · rw [hline, hevent]
      rfl

/-- What a line that is rejected adds to the records. -/
theorem record?_of_isRejected (h : isRejected line = true) (number : Nat) (path : String) :
    ∃ problem : LineProblem, (LineReading.ofChars line).record? number path =
      some ⟨.warning, problem.warning number path⟩ := by
  obtain ⟨hblank, hnone⟩ : isBlank line = false ∧ event? line = none := by
    simpa [isRejected] using h
  obtain ⟨e, hevent, -⟩ | ⟨-, problem, hline⟩ := ofChars_of_not_isBlank hblank
  · rw [hevent] at hnone
    contradiction
  · exact ⟨problem, by rw [hline]; rfl⟩

/-- Every other line adds none. -/
theorem record?_of_not_isRejected (h : isRejected line = false) (number : Nat) (path : String) :
    (LineReading.ofChars line).record? number path = none := by
  cases hblank : isBlank line with
  | true =>
    rw [ofChars_of_isBlank hblank]
    rfl
  | false =>
    obtain ⟨e, -, hline⟩ | ⟨hnone, -⟩ := ofChars_of_not_isBlank hblank
    · rw [hline]
      rfl
    · rw [isRejected, hblank, hnone] at h
      contradiction

/-- The lines that are not blank hold an event or are rejected, none of them both. -/
theorem countP_event?_add_countP_isRejected (lines : List (List Char)) :
    (lines.countP fun line => (event? line).isSome) + lines.countP isRejected =
      lines.countP fun line => !isBlank line := by
  induction lines with
  | nil => rfl
  | cons line lines ih =>
    rw [List.countP_cons, List.countP_cons, List.countP_cons, ← ih, isRejected]
    cases hblank : isBlank line with
    | true => simp [event?_of_isBlank hblank]
    | false =>
      cases event? line with
      | none => simp [Nat.add_assoc]
      | some e => simp [Nat.add_right_comm]

end LogLine

/-- The warning of a problem names the line and the path. -/
theorem LineProblem.exists_warning_eq (problem : LineProblem) (number : Nat) (path : String) :
    ∃ what, problem.warning number path =
      "Line " ++ toString number ++ " of " ++ path ++ what := by
  cases problem with
  | unreadable error =>
    cases error with
    | malformed problem line column position =>
      exact ⟨" | JSON decode error: " ++
        (Json.ReadError.malformed problem line column position).message, String.append_assoc ..⟩
    | tooManyDigits count =>
      exact ⟨" | " ++ (Json.ReadError.tooManyDigits count).message, String.append_assoc ..⟩
  | notObject line => exact ⟨" is not a JSON object: " ++ String.ofList line, String.append_assoc ..⟩
  | noEvent error => exact ⟨" | " ++ error.report, String.append_assoc ..⟩

/-! ## All lines -/

/-- A record that warns of a line. -/
def LogRecord.WarnsOf (record : LogRecord) (path : String) (number : Nat) : Prop :=
  record.level = .warning ∧
    ∃ what, record.text = "Line " ++ toString number ++ " of " ++ path ++ what

theorem LogLine.record?_warnsOf {line : List Char} (h : isRejected line = true) (number : Nat)
    (path : String) : ∃ record, (LineReading.ofChars line).record? number path = some record ∧
      record.WarnsOf path number := by
  obtain ⟨problem, hrecord⟩ := record?_of_isRejected h number path
  exact ⟨_, hrecord, rfl, problem.exists_warning_eq number path⟩

theorem loadLines_result (path : String) (lines : List (List Char)) :
    (loadLines path lines).result = .ok (lines.filterMap LogLine.event?) := by
  rw [loadLines_events]
  exact congrArg (fun f => Except.ok (lines.filterMap f)) (funext LogLine.event?_ofChars)

/-- The warnings are those of the lines that are rejected, in order. -/
theorem loadLines_warnings (path : String) (lines : List (List Char)) :
    List.Forall₂ (fun (line : List Char × Nat) record => record.WarnsOf path line.2)
      (lines.zipIdx.filter fun line => LogLine.isRejected line.1)
      (loadLines path lines).records := by
  rw [loadLines_records]
  refine List.forall₂_filter_filterMap ?_ ?_ _
  · rintro ⟨line, number⟩ h
    exact LogLine.record?_warnsOf h number path
  · rintro ⟨line, number⟩ h
    exact LogLine.record?_of_not_isRejected h number path

/-- There are as many events and warnings as lines that are not blank. -/
theorem length_events_add_length_warnings (path : String) (lines : List (List Char)) :
    (lines.filterMap LogLine.event?).length + (loadLines path lines).records.length =
      lines.countP fun line => !LogLine.isBlank line := by
  have hwarnings : (loadLines path lines).records.length = lines.countP LogLine.isRejected := by
    rw [← (loadLines_warnings path lines).length_eq, ← List.countP_eq_length_filter]
    calc lines.zipIdx.countP (LogLine.isRejected ∘ Prod.fst)
        = (lines.zipIdx.map Prod.fst).countP LogLine.isRejected := List.countP_map.symm
      _ = lines.countP LogLine.isRejected := by rw [List.zipIdx_map_fst]
  rw [hwarnings, List.length_filterMap_eq_countP, LogLine.countP_event?_add_countP_isRejected]

/-- Only the lines that hold an event matter for the events. -/
theorem filterMap_event?_of_same {lines others : List (List Char)}
    (h : (others.filter fun line => (LogLine.event? line).isSome) =
      lines.filter fun line => (LogLine.event? line).isSome) :
    others.filterMap LogLine.event? = lines.filterMap LogLine.event? := by
  have hkept (ls : List (List Char)) :
      (ls.filter fun line => (LogLine.event? line).isSome).filterMap LogLine.event? =
        ls.filterMap LogLine.event? := by
    rw [List.filterMap_filter]
    refine List.filterMap_congr fun line _ => ?_
    cases LogLine.event? line <;> rfl
  rw [← hkept others, h, hkept lines]

/-! ## A log -/

/-- A file that holds a text in UTF-8. -/
def Files.FileSystem.HoldsText (files : FileSystem) (path : Path) (text : List Char) : Prop :=
  files.find path.text = .ok (.file (text.flatMap String.utf8EncodeChar))

variable {files : FileSystem} {path : Path} {text : List Char}

theorem loadLog_of_holdsText (h : files.HoldsText path text) :
    loadLog files path =
      ⟨⟨.debug, "Processing " ++ path.text ++ "..."⟩ ::
          (loadLines path.text (Text.allLines text)).records,
        .ok ((Text.allLines text).filterMap LogLine.event?)⟩ := by
  have hread : files.read path.text = .ok (text.flatMap String.utf8EncodeChar) := by
    rw [FileSystem.read, h]
  have hbytes : loadBytes path.text (text.flatMap String.utf8EncodeChar) =
      loadLines path.text (Text.allLines text) := by
    rw [loadBytes, Text.decode_encode]
  unfold loadLog
  rw [hread]
  show Logged.mk (_ :: (loadBytes path.text _).records) (loadBytes path.text _).result = _
  rw [hbytes, loadLines_result]

/-- **Loading a log skips exactly the lines that are blank or rejected.** It never fails: its events
are those of the lines, in order; each line that is rejected is told in one warning with its number,
in order, and blank lines are not told. So another log with the same events in its lines, wherever
it has lines of the other kinds, gives the same. -/
theorem loadLog_lines (h : files.HoldsText path text) :
    (∃ warnings, loadLog files path =
        ⟨⟨.debug, "Processing " ++ path.text ++ "..."⟩ :: warnings,
          .ok ((Text.allLines text).filterMap LogLine.event?)⟩ ∧
      List.Forall₂ (fun (line : List Char × Nat) record => record.WarnsOf path.text line.2)
        ((Text.allLines text).zipIdx.filter fun line => LogLine.isRejected line.1) warnings ∧
      ((Text.allLines text).filterMap LogLine.event?).length + warnings.length =
        (Text.allLines text).countP fun line => !LogLine.isBlank line) ∧
    ∀ (others : FileSystem) (place : Path) (edited : List Char), others.HoldsText place edited →
      ((Text.allLines edited).filter fun line => (LogLine.event? line).isSome) =
        ((Text.allLines text).filter fun line => (LogLine.event? line).isSome) →
      (loadLog others place).result = (loadLog files path).result := by
  refine ⟨⟨_, loadLog_of_holdsText h, loadLines_warnings _ _,
    length_events_add_length_warnings _ _⟩, ?_⟩
  intro others place edited hedited hsame
  rw [loadLog_of_holdsText h, loadLog_of_holdsText hedited]
  exact congrArg Except.ok (filterMap_event?_of_same hsame)

/-- Five lines, with all kinds of ends: a blank one, an event, a list, a blank one again, and an
object that is cut off. -/
def mixedText : List Char :=
  "\n\x7b\"startTime\": 1, \"endTime\": 2.5\x7d\r\n[]\n \n\x7b\"startTime\": \"é\"".toList

def mixedLog : FileSystem :=
  .ofList [("mixed.jsonl", .ok (.file (mixedText.flatMap String.utf8EncodeChar)))]

theorem loadLog_lines_mixed :
    mixedLog.HoldsText (.ofString "mixed.jsonl") mixedText ∧
      ∃ event first second,
        loadLog mixedLog (.ofString "mixed.jsonl") =
          ⟨[⟨.debug, "Processing mixed.jsonl..."⟩, first, second], .ok [event]⟩ ∧
        event.startTime.units = unitsPerOne ∧ event.endTime.units * 2 = 5 * unitsPerOne ∧
        first.WarnsOf "mixed.jsonl" 2 ∧ second.WarnsOf "mixed.jsonl" 4 := by
  have hname : (Path.ofString "mixed.jsonl").text = "mixed.jsonl" := by decide +kernel
  have hfile : mixedLog.HoldsText (.ofString "mixed.jsonl") mixedText := by
    unfold FileSystem.HoldsText
    rw [hname]
    rfl
  have hevents : ((Text.allLines mixedText).filterMap LogLine.event?).map
        (fun event => (event.startTime.units, event.endTime.units * 2)) =
      [((unitsPerOne : Int), 5 * (unitsPerOne : Int))] := by
    decide +kernel
  have hrejected : (Text.allLines mixedText).zipIdx.filter (fun line => LogLine.isRejected line.1) =
      [("[]".toList, 2), ("\x7b\"startTime\": \"é\"".toList, 4)] := by
    decide +kernel
  obtain ⟨⟨warnings, hload, hwarnings, -⟩, -⟩ := loadLog_lines hfile
  obtain ⟨event, hevent, htimes⟩ := List.map_eq_singleton_iff.1 hevents
  rw [hrejected, hname] at hwarnings
  rw [hevent, hname] at hload
  cases hwarnings with
  | cons hfirst hrest =>
    cases hrest with
    | cons hsecond hnone =>
      cases hnone
      exact ⟨hfile, event, _, _, hload, congrArg Prod.fst htimes, congrArg Prod.snd htimes, hfirst,
        hsecond⟩

end NetTimeline
