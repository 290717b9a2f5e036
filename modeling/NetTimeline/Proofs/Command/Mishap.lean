import NetTimeline.Command.Run
import NetTimeline.Proofs.Axis.Refusal
import NetTimeline.Proofs.Event.Window
import NetTimeline.Proofs.Storage

/-!
# Mishaps on the way to an axis

Most of what can go wrong with recorded requests is told to the user. At a path that leads
somewhere, what is not told has one of three causes: a directory has an entry that is named like a
request log but cannot be opened; a date of the window lies outside the calendar; or an event, of
which the window asks for the moment, starts beyond the clock. `Mishap` says so of the files and of
what the reader makes of the dates, with the error that comes of it.

Principal result: `axisByReader_mishap` — an error is not told exactly if it comes of a mishap.
-/

set_option autoImplicit false

namespace NetTimeline

open Calendar (MomentError)
open Files (FileError FileSystem Path)

/-! ## Request logs that cannot be opened -/

section Logs

variable {files : FileSystem} {path : Path} {events : List NetworkEvent} {error : FileError}

/-- A log that has been opened fails for its bytes alone. -/
theorem loadBytes_ne_file (path : String) (bytes : List UInt8) :
    (loadBytes path bytes).result ≠ .error (.file error) := by
  intro h
  unfold loadBytes at h
  split at h
  · cases h
  · cases h
  · cases h

theorem loadLog_eq_file :
    (loadLog files path).result = .error (.file error) ↔ files.read path.text = .error error := by
  unfold loadLog
  rw [Logged.result_bind]
  show (files.read path.text).mapError LoadError.file >>= _ = _ ↔ _
  rw [Except.bind_eq_error, Except.mapError_eq_error]
  constructor
  · rintro (⟨e, he, hfile⟩ | ⟨bytes, -, hbytes⟩)
    · cases hfile
      exact he
    · exact absurd hbytes (loadBytes_ne_file _ _)
  · intro h
    exact .inl ⟨error, h, rfl⟩

/-- The request logs in a directory. -/
def directoryLog (files : FileSystem) (path : Path) (name : String) :
    Except LoadError (List NetworkEvent) :=
  (loadLog files (path.child name)).result

theorem loadDirectory_eq_error {names : List String} {e : LoadError}
    (hfind : files.find path.text = .ok (.directory names)) :
    (loadDirectory files path).result = .error e ↔
      FailsFirst (directoryLog files path) e (logNames names) := by
  have hnames : files.names path.text = .ok names := by
    rw [FileSystem.names, hfind]
  unfold loadDirectory
  rw [hnames, Logged.result_bind]
  show (((logNames names).mapM fun name => loadLog files (path.child name)) >>= fun _ => _).result
    = _ ↔ _
  rw [Logged.result_bind, Logged.result_mapM_eq, Except.bind_eq_error, List.mapM_eq_error]
  refine or_iff_left ?_
  rintro ⟨events, -, hpure⟩
  cases hpure

/-- A path that leads somewhere leads to a file, which can be opened, or to a directory. -/
theorem loadPath_eq_file {entry : Files.Entry} (hfind : files.find path.text = .ok entry) :
    (loadPath files path).result = .error (.file error) ↔
      ∃ names, entry = .directory names ∧
        FailsFirst (directoryLog files path) (.file error) (logNames names) := by
  cases entry with
  | file bytes =>
    have hisFile : files.isFile path.text = true := by
      rw [FileSystem.isFile, hfind]
    have hread : files.read path.text = .ok bytes := by
      rw [FileSystem.read, hfind]
    rw [loadPath, if_pos hisFile, loadLog_eq_file, hread]
    simp
  | directory names =>
    have hisFile : ¬ files.isFile path.text = true := by
      rw [FileSystem.isFile, hfind]
      exact Bool.false_ne_true
    rw [loadPath, if_neg hisFile, loadDirectory_eq_error hfind]
    simp

end Logs

/-! ## Dates -/

section Dates

variable {read : DateReader} {start stop : Option String} {events : List NetworkEvent}

theorem Window.readEnd_ne_start {reader : String → Except WindowError Calendar.Moment}
    {e : MomentError}
    (hreader : ∀ text, reader text ≠ .error (.start e)) (text? : Option String) :
    readEnd reader text? ≠ .error (.start e) := by
  unfold readEnd
  cases text? with
  | none => simp
  | some text =>
    have hread := hreader text
    dsimp only
    split
    · simp
    · cases h : reader text with
      | ok moment => simp [Except.map]
      | error e' =>
        rw [h] at hread
        exact fun heq => hread (congrArg Except.error (Except.error.inj heq))

theorem Window.endOf_ne_start {snap : Calendar.Moment → Calendar.Moment}
    {unreadable : String → WindowError} (hunreadable : ∀ text e, unreadable text ≠ .start e)
    (text : String) (e : MomentError) : endOf snap unreadable read text ≠ .error (.start e) := by
  unfold endOf
  split
  · simp
  · exact fun h => hunreadable text e (Except.error.inj h)
  · simp

/-- The dates of a window do not fail like the start of an event. -/
theorem Window.ofReader_ne_start {e : MomentError} :
    ofReader read start stop ≠ .error (.start e) := by
  intro h
  rcases Except.bind_eq_error.1 h with hfirst | ⟨first, -, h⟩
  · exact readEnd_ne_start (fun text => endOf_ne_start (by simp) text e) start hfirst
  · rcases Except.bind_eq_error.1 h with hlast | ⟨last, -, hpure⟩
    · exact readEnd_ne_start (fun text => endOf_ne_start (by simp) text e) stop hlast
    · cases hpure

/-- The window's dates fail, or the first event that starts at no moment does. -/
theorem filterByReader_eq_error {e : WindowError} :
    filterByReader read start stop id events = .error e ↔
      Window.ofReader read start stop = .error e ∨
      ∃ window error, Window.ofReader read start stop = .ok window ∧
        window.isOpen = false ∧ FailsFirst NetworkEvent.startMoment error events ∧
        e = .start error := by
  unfold filterByReader
  rw [Except.bind_eq_error]
  refine or_congr Iff.rfl ⟨?_, ?_⟩
  · rintro ⟨window, hwindow, h⟩
    obtain ⟨error, herror, rfl⟩ := Except.mapError_eq_error.1 h
    unfold Window.select at herror
    split at herror
    · cases herror
    · rename_i hopen
      exact ⟨window, error, hwindow, Bool.eq_false_iff.2 hopen, Window.keep_eq_error.1 herror, rfl⟩
  · rintro ⟨window, error, hwindow, hopen, hfails, rfl⟩
    refine ⟨window, hwindow, Except.mapError_eq_error.2 ⟨error, ?_, rfl⟩⟩
    rw [Window.select, if_neg (Bool.eq_false_iff.1 hopen)]
    exact Window.keep_eq_error.2 hfails

end Dates

/-! ## Axes -/

/-- A positive number of intervals that is not too large leaves the span as the only thing that can
be wrong, and this is told. -/
theorem Axis.divide_float_refused {x : Binary64} {ticks : Nat} {e : AxisError} (hone : 1 ≤ ticks)
    (hlarge : ticks ≤ 2 ^ 53)
    (h : Axis.divide (.float x) (.number (.int ticks)) = .error e) : e.isRefusal = true := by
  have hticks : (1 : Int) ≤ ticks := by exact_mod_cast hone
  rcases divide_cases_of_one_le (.float x) hticks with
    htoo | ⟨-, e', he', hrefusal⟩ | ⟨-, axis, haxis⟩
  · obtain ⟨n, hn, -, hnot⟩ := htoo
    cases hn
    rcases hnot with hconverts | ⟨-, hdiv⟩
    · exact absurd trivial hconverts
    · exact absurd (Number.dividesBy_of_le _ (by simpa using hlarge)) hdiv
  · rw [h] at he'
    cases he'
    exact hrefusal
  · rw [h] at haxis
    cases haxis

theorem isTold_of_isRefusal {e : AxisError} (h : e.isRefusal = true) :
    Command.isTold (.axis e) = true := by
  cases e with
  | number m => cases h
  | _ => rfl

/-! ## Mishaps -/

variable (files : FileSystem) (read : DateReader) (query : TimelineQuery)

/-- The events that the path of a query leads to. -/
def Holds (events : List NetworkEvent) : Prop :=
  (∃ entry, files.find query.path.text = .ok entry) ∧
    (loadPath files query.path).result = .ok events

/-- What keeps a query from its axis without being told, with the error that comes of it. -/
inductive Mishap : TimelineError → Prop
  /-- The first request log of a directory that fails is there, but cannot be opened. -/
  | log (names : List String) (error : FileError)
      (hfind : files.find query.path.text = .ok (.directory names))
      (hfails : FailsFirst (directoryLog files query.path) (.file error) (logNames names))
      (hthere : error.problem ≠ .notFound) (hread : error.problem ≠ .nullCharacter) :
    Mishap (.load (.file error))
  /-- A date of the window is moved out of the calendar. -/
  | date (events : List NetworkEvent) (hevents : Holds files query events)
      (hwindow : Window.ofReader read query.start query.stop = .error .outOfRange) :
    Mishap (.window .outOfRange)
  /-- There is a window, and the first event that starts at no moment starts beyond what a clock
  counts. -/
  | start (events : List NetworkEvent) (window : Window) (error : MomentError)
      (hevents : Holds files query events)
      (hwindow : Window.ofReader read query.start query.stop = .ok window)
      (hends : window.isOpen = false)
      (hfails : FailsFirst NetworkEvent.startMoment error events)
      (hbeyond : error = .beyondClock ∨ error = .beyondYears) :
    Mishap (.window (.start error))

variable {files read query} {error : TimelineError}

/-- The three steps to an axis, each of which may fail. -/
theorem axisByReader_eq_error {entry : Files.Entry}
    (hfind : files.find query.path.text = .ok entry) :
    (axisByReader files read query).result = .error error ↔
      (∃ e, (loadPath files query.path).result = .error e ∧ error = .load e) ∨
      ∃ events, Holds files query events ∧
        ((∃ e, filterByReader read query.start query.stop id events = .error e ∧
          error = .window e) ∨
        ∃ visible e, filterByReader read query.start query.stop id events = .ok visible ∧
          Axis.divide (.float (eventSpan visible)) query.ticks = .error e ∧ error = .axis e) := by
  have hexists : files.exists? query.path.text = .ok true :=
    (FileSystem.exists?_eq_true_iff _ _).2 ⟨entry, hfind⟩
  rw [axisByReader_result read query hexists]
  rw [Except.bind_eq_error, Except.mapError_eq_error]
  refine or_congr ?_ ⟨?_, ?_⟩
  · exact exists_congr fun e => and_congr_right fun _ => eq_comm
  · rintro ⟨events, hload, h⟩
    refine ⟨events, ⟨⟨entry, hfind⟩, Except.mapError_eq_ok.1 hload⟩, ?_⟩
    rcases Except.bind_eq_error.1 h with hdates | ⟨visible, hvisible, haxis⟩
    · obtain ⟨e, he, rfl⟩ := Except.mapError_eq_error.1 hdates
      exact .inl ⟨e, he, rfl⟩
    · obtain ⟨e, he, rfl⟩ := Except.mapError_eq_error.1 haxis
      exact .inr ⟨visible, e, Except.mapError_eq_ok.1 hvisible, he, rfl⟩
  · rintro ⟨events, ⟨-, hload⟩, hrest⟩
    refine ⟨events, Except.mapError_eq_ok.2 hload, Except.bind_eq_error.2 ?_⟩
    rcases hrest with ⟨e, he, rfl⟩ | ⟨visible, e, hvisible, he, rfl⟩
    · exact .inl (Except.mapError_eq_error.2 ⟨e, he, rfl⟩)
    · exact .inr ⟨visible, Except.mapError_eq_ok.2 hvisible,
        Except.mapError_eq_error.2 ⟨e, he, rfl⟩⟩

theorem Mishap.isTold (h : Mishap files read query error) : Command.isTold error = false := by
  cases h with
  | log names error hfind hfails hthere hread => simp [Command.isTold, hthere, hread]
  | date events hevents hwindow => rfl
  | start events window error hevents hwindow hends hfails hbeyond =>
    rcases hbeyond with rfl | rfl <;> rfl

theorem Mishap.result (h : Mishap files read query error) :
    (axisByReader files read query).result = .error error := by
  cases h with
  | log names error hfind hfails hthere hread =>
    exact (axisByReader_eq_error hfind).2
      (.inl ⟨_, (loadPath_eq_file hfind).2 ⟨names, rfl, hfails⟩, rfl⟩)
  | date events hevents hwindow =>
    obtain ⟨entry, hfind⟩ := hevents.1
    have hdates : filterByReader read query.start query.stop id events = .error .outOfRange :=
      filterByReader_eq_error.2 (.inl hwindow)
    exact (axisByReader_eq_error hfind).2 (.inr ⟨events, hevents, .inl ⟨_, hdates, rfl⟩⟩)
  | start events window error hevents hwindow hends hfails hbeyond =>
    obtain ⟨entry, hfind⟩ := hevents.1
    have hdates : filterByReader read query.start query.stop id events = .error (.start error) :=
      filterByReader_eq_error.2 (.inr ⟨window, error, hwindow, hends, hfails, rfl⟩)
    exact (axisByReader_eq_error hfind).2 (.inr ⟨events, hevents, .inl ⟨_, hdates, rfl⟩⟩)

/-- What fails in the window without being told is one of its dates, or the start of an event. -/
theorem mishap_of_window {events : List NetworkEvent} {e : WindowError}
    (hevents : Holds files query events)
    (h : filterByReader read query.start query.stop id events = .error e)
    (htold : Command.isTold (.window e) = false) : Mishap files read query (.window e) := by
  rcases filterByReader_eq_error.1 h with hwindow | ⟨window, error, hwindow, hends, hfails, rfl⟩
  · cases e with
    | outOfRange => exact .date events hevents hwindow
    | unreadableFrom text => cases htold
    | unreadableTo text => cases htold
    | start error => exact absurd hwindow Window.ofReader_ne_start
  · refine .start events window error hevents hwindow hends hfails ?_
    cases error with
    | beyondClock => exact .inl rfl
    | beyondYears => exact .inr rfl
    | yearOutOfRange shown => cases htold

/-- **At a path that leads somewhere, an error is not told exactly if it comes of a mishap.** -/
theorem axisByReader_mishap {entry : Files.Entry} (hfind : files.find query.path.text = .ok entry)
    {ticks : Nat} (hticks : query.ticks = .number (.int ticks)) (hone : 1 ≤ ticks)
    (hlarge : ticks ≤ 2 ^ 53) :
    (axisByReader files read query).result = .error error ∧ Command.isTold error = false ↔
      Mishap files read query error := by
  refine ⟨?_, fun h => ⟨h.result, h.isTold⟩⟩
  rintro ⟨h, htold⟩
  rcases (axisByReader_eq_error hfind).1 h with ⟨e, hload, rfl⟩ | ⟨events, hevents, hrest⟩
  · cases e with
    | text decode => cases htold
    | file error =>
      obtain ⟨names, rfl, hfails⟩ := (loadPath_eq_file hfind).1 hload
      simp only [Command.isTold, Bool.or_eq_false_iff, decide_eq_false_iff_not] at htold
      exact .log names error hfind hfails htold.1 htold.2
  · rcases hrest with ⟨e, hdates, rfl⟩ | ⟨visible, e, -, hdivide, rfl⟩
    · exact mishap_of_window hevents hdates htold
    · rw [hticks] at hdivide
      rw [isTold_of_isRefusal (Axis.divide_float_refused hone hlarge hdivide)] at htold
      cases htold

end NetTimeline
