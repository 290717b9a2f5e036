import NetTimeline.Proofs.Axis.Agreement
import NetTimeline.Proofs.Event.Order
import NetTimeline.Proofs.Log.Directory
import NetTimeline.Recorder.Threads
import NetTimeline.Timeline

/-!
# Where requests are stored does not matter

Requests are kept in a log, in the logs of a directory, or by a recorder; each of them hands out
the same events in an order of its own. From there on only the place of their span counts.

Principal result: `Storage.axis_agrees` — two storages of the same events have axes that show the
same, or both have none; two paths also for the same dates, whatever it is that reads these.
-/

set_option autoImplicit false

namespace NetTimeline

open Calendar (readMoment)
open Files (FileSystem Path)

/-- The event that a move records. -/
def Move.recorded? : Move → Option NetworkEvent
  | .record _ event => some event
  | _ => none

/-- Where requests are kept. -/
inductive Storage where
  /-- A log, or a directory of logs. -/
  | path (files : FileSystem) (path : Path)
  /-- A recorder, by the moves of the threads that use it. -/
  | recorder (moves : List Move)

/-- A path to exactly these events: a log that holds them in its lines, in any order, or a directory
whose logs hold each a part of them. -/
inductive PathKeeps (files : FileSystem) (path : Path) (events : List NetworkEvent) : Prop where
  | log (text : List Char) (hfile : files.HoldsText path text)
      (hevents : (loggedEvents text).Perm events)
  | directory (names : List String) (texts : String → List Char)
      (hfind : files.find path.text = .ok (.directory names))
      (hfiles : ∀ name ∈ names, isLogName name = true →
        files.HoldsText (path.child name) (texts name))
      (hevents : ((names.filter isLogName).flatMap fun name => loggedEvents (texts name)).Perm
        events)

namespace Storage

/-- A storage keeps exactly these events, in an order of its own. -/
def Keeps (events : List NetworkEvent) : Storage → Prop
  | .path files place => PathKeeps files place events
  | .recorder moves => .clear ∉ moves ∧ (moves.filterMap Move.recorded?).Perm events

/-- The axis of all that a storage keeps. -/
def axis (read : DateReader) (ticks : TickRequest) : Storage → Except TimelineError Axis
  | .path files place => (axisByReader files read ⟨place, ticks, none, none⟩).result
  | .recorder moves =>
    (axisOfEvents (Recorder.empty.run moves).1.events ticks).result.mapError .axis

end Storage

/-! ## What a path leads to -/

theorem axisByReader_result {files : FileSystem} (read : DateReader) (query : TimelineQuery)
    (h : files.exists? query.path.text = .ok true) :
    (axisByReader files read query).result = (do
      let events ← (loadPath files query.path).result.mapError TimelineError.load
      let visible ←
        (filterByReader read query.start query.stop id events).mapError TimelineError.window
      (Axis.divide (.float (eventSpan visible)) query.ticks).mapError TimelineError.axis) := by
  unfold axisByReader
  rw [h]
  show (Logged.mapError TimelineError.load (loadPath files query.path) >>= fun _ => _).result = _
  rw [Logged.result_bind]
  refine bind_congr fun events => ?_
  show (Logged.ofExcept _ >>= fun _ => _).result = _
  rw [Logged.result_bind]
  refine bind_congr fun visible => ?_
  cases visible.isEmpty && !events.isEmpty <;> rfl

namespace PathKeeps

variable {files : FileSystem} {path : Path} {events : List NetworkEvent}

theorem exists? (h : PathKeeps files path events) : files.exists? path.text = .ok true := by
  rw [FileSystem.exists?_eq_true_iff]
  cases h with
  | log text hfile hevents => exact ⟨_, hfile⟩
  | directory names texts hfind hfiles hevents => exact ⟨_, hfind⟩

theorem loadPath (h : PathKeeps files path events) :
    ∃ loaded, (loadPath files path).result = .ok loaded ∧ loaded.Perm events := by
  cases h with
  | log text hfile hevents =>
    have hisFile : files.isFile path.text = true := by
      rw [FileSystem.isFile, hfile]
    refine ⟨loggedEvents text, ?_, hevents⟩
    rw [NetTimeline.loadPath, if_pos hisFile]
    exact loadLog_result hfile
  | directory names texts hfind hfiles hevents =>
    have hisFile : ¬ files.isFile path.text = true := by
      rw [FileSystem.isFile, hfind]
      exact Bool.false_ne_true
    refine ⟨_, ?_, (mergedEvents_perm names texts).trans hevents⟩
    rw [NetTimeline.loadPath, if_neg hisFile, loadDirectory_of_holdsLogs ⟨hfind, hfiles⟩]

/-- The axis of the requests at a path is that of the events it keeps, in some order. -/
theorem axis_eq (h : PathKeeps files path events) (read : DateReader) (ticks : TickRequest)
    (start stop : Option String) :
    ∃ loaded : List NetworkEvent, loaded.Perm events ∧
      (axisByReader files read ⟨path, ticks, start, stop⟩).result = (do
        let visible ← (filterByReader read start stop id loaded).mapError TimelineError.window
        (Axis.divide (.float (eventSpan visible)) ticks).mapError TimelineError.axis) := by
  obtain ⟨loaded, hloaded, hperm⟩ := h.loadPath
  refine ⟨loaded, hperm, ?_⟩
  rw [axisByReader_result read ⟨path, ticks, start, stop⟩ h.exists?]
  dsimp only
  rw [hloaded]
  rfl

end PathKeeps

/-! ## What a recorder hands out -/

theorem foldl_eventsAfter {moves : List Move} (h : .clear ∉ moves) (events : List NetworkEvent) :
    moves.foldl Recorder.eventsAfter events = events ++ moves.filterMap Move.recorded? := by
  induction moves generalizing events with
  | nil => simp
  | cons move moves ih =>
    have hrest : .clear ∉ moves := fun hmem => h (List.mem_cons_of_mem _ hmem)
    rw [List.foldl_cons, ih hrest]
    cases move with
    | record thread event => simp [Recorder.eventsAfter, Move.recorded?]
    | clear => exact absurd List.mem_cons_self h
    | _ => rfl

/-! ## The axes -/

/-- The axis of all that a storage keeps is that of the events in some order. -/
theorem Storage.axis_eq {s : Storage} {events : List NetworkEvent} (h : s.Keeps events)
    (read : DateReader) (ticks : TickRequest) :
    ∃ kept : List NetworkEvent, kept.Perm events ∧
      s.axis read ticks = (Axis.divide (.float (eventSpan kept)) ticks).mapError .axis := by
  cases s with
  | path files place =>
    have hkeeps : PathKeeps files place events := h
    obtain ⟨loaded, hperm, haxis⟩ := hkeeps.axis_eq read ticks none none
    exact ⟨loaded, hperm, haxis⟩
  | recorder moves =>
    obtain ⟨hclear, hperm⟩ := h
    refine ⟨moves.filterMap Move.recorded?, hperm, ?_⟩
    rw [axis, axisOfEvents_result, Recorder.run_events, foldl_eventsAfter hclear]
    rfl

theorem Axis.divide_eventSpan_agrees {events others : List NetworkEvent} (h : events.Perm others)
    (ticks : TickRequest) :
    SameOutcome Axis.Agrees
      ((Axis.divide (.float (eventSpan events)) ticks).mapError TimelineError.axis)
      ((Axis.divide (.float (eventSpan others)) ticks).mapError TimelineError.axis) :=
  (Axis.divide_agrees (eventSpan_perm h) ticks).mapError _ _

/-- **Where events are stored does not matter**: not to their axis, nor, for two paths, to the axis
of those between two dates that are read alike for both. -/
theorem Storage.axis_agrees (events : List NetworkEvent) (ticks : TickRequest) :
    (∀ (s t : Storage) (read read' : DateReader), s.Keeps events → t.Keeps events →
      SameOutcome Axis.Agrees (s.axis read ticks) (t.axis read' ticks)) ∧
    ∀ (files others : FileSystem) (path place : Path), PathKeeps files path events →
      PathKeeps others place events → ∀ (read : DateReader) (start stop : Option String),
      SameOutcome Axis.Agrees (axisByReader files read ⟨path, ticks, start, stop⟩).result
        (axisByReader others read ⟨place, ticks, start, stop⟩).result := by
  constructor
  · intro s t read read' hs ht
    obtain ⟨kept, hkept, hs⟩ := axis_eq hs read ticks
    obtain ⟨kept', hkept', ht⟩ := axis_eq ht read' ticks
    rw [hs, ht]
    exact Axis.divide_eventSpan_agrees (hkept.trans hkept'.symm) ticks
  · intro files others path place hpath hplace read start stop
    obtain ⟨loaded, hperm, haxis⟩ := hpath.axis_eq read ticks start stop
    obtain ⟨loaded', hperm', haxis'⟩ := hplace.axis_eq read ticks start stop
    rw [haxis, haxis']
    have hfiltered := filterByReader_perm read start stop id (hperm.trans hperm'.symm)
    refine (hfiltered.mapError _ _).bind ?_
    intro visible visible' hvisible
    exact Axis.divide_eventSpan_agrees hvisible ticks

/-- An event that starts at one zero and ends at the other. -/
def zeroEvent (negativeEnd : Bool) : NetworkEvent where
  startTime := ⟨!negativeEnd, .zero⟩
  endTime := ⟨negativeEnd, .zero⟩
  id := none
  url := none
  method := "GET"
  status := none
  inOrder := by cases negativeEnd <;> decide

/-- A line with such an event. -/
def zeroLine (negativeEnd : Bool) : List Char :=
  (if negativeEnd then "\x7b\"startTime\": 0.0, \"endTime\": -0.0\x7d\n"
    else "\x7b\"startTime\": -0.0, \"endTime\": 0.0\x7d\n").toList

/-- A log with both events, and a directory with a log for each. -/
def zeroFiles : FileSystem :=
  .ofList [
    ("all.jsonl",
      .ok (.file ((zeroLine true ++ zeroLine false).flatMap String.utf8EncodeChar))),
    ("logs", .ok (.directory ["b.jsonl", "notes.txt", "a.jsonl"])),
    ("logs/a.jsonl", .ok (.file ((zeroLine false).flatMap String.utf8EncodeChar))),
    ("logs/b.jsonl", .ok (.file ((zeroLine true).flatMap String.utf8EncodeChar)))]

theorem zeroFiles_log :
    PathKeeps zeroFiles (.ofString "all.jsonl") [zeroEvent true, zeroEvent false] := by
  have hevents : loggedEvents (zeroLine true ++ zeroLine false) =
      [zeroEvent true, zeroEvent false] := by
    decide +kernel
  refine .log (zeroLine true ++ zeroLine false) ?_ (.of_eq hevents)
  show zeroFiles.find _ = _
  decide +kernel

theorem zeroFiles_directory :
    PathKeeps zeroFiles (.ofString "logs") [zeroEvent true, zeroEvent false] := by
  refine .directory ["b.jsonl", "notes.txt", "a.jsonl"] (fun name => zeroLine (name == "b.jsonl"))
    (by decide +kernel) ?_ ?_
  · intro name hname hlog
    show zeroFiles.find _ = _
    revert name
    decide +kernel
  · refine .of_eq ?_
    decide +kernel

/-- A thread that has recorded both events, the other one first. -/
def zeroMoves : List Move := [.record 1 (zeroEvent false), .look, .record 1 (zeroEvent true)]

theorem zeroMoves_recorder :
    (Storage.recorder zeroMoves).Keeps [zeroEvent true, zeroEvent false] :=
  ⟨by decide, .swap _ _ _⟩

/-- The log has the span `-0.0` and the recorder has `0.0`; nothing else tells their axes apart. Of
the log and the directory the axes agree also for dates. -/
theorem Storage.axis_agrees_zeros :
    (∃ a b, (Storage.path zeroFiles (.ofString "all.jsonl")).axis (readMoment .epochStart)
          (.number (.int 1)) = .ok a ∧
        (Storage.recorder zeroMoves).axis (readMoment .epochStart) (.number (.int 1)) = .ok b ∧
        a.Agrees b ∧ a.span ≠ b.span) ∧
      SameOutcome Axis.Agrees
        (axisByReader zeroFiles (readMoment .epochStart)
          ⟨.ofString "all.jsonl", .number (.int 1), some "yesterday", some "today"⟩).result
        (axisByReader zeroFiles (readMoment .epochStart)
          ⟨.ofString "logs", .number (.int 1), some "yesterday", some "today"⟩).result := by
  have hagrees := axis_agrees [zeroEvent true, zeroEvent false] (.number (.int 1))
  refine ⟨?_, hagrees.2 _ _ _ _ zeroFiles_log zeroFiles_directory _ _ _⟩
  have hlog : ((Storage.path zeroFiles (.ofString "all.jsonl")).axis (readMoment .epochStart)
      (.number (.int 1))).toOption.map (fun axis => axis.span.negative) = some true := by
    decide +kernel
  have hrecorder : ((Storage.recorder zeroMoves).axis (readMoment .epochStart)
      (.number (.int 1))).toOption.map (fun axis => axis.span.negative) = some false := by
    decide +kernel
  have hsame := hagrees.1 (.path zeroFiles (.ofString "all.jsonl")) (.recorder zeroMoves)
    (readMoment .epochStart) (readMoment .epochStart) zeroFiles_log zeroMoves_recorder
  obtain ⟨a, b, hab, ha, hb⟩ | ⟨e, e', he, -⟩ := hsame.cases
  · rw [ha] at hlog
    rw [hb] at hrecorder
    have hnegative : a.span.negative = true := Option.some.inj hlog
    have hpositive : b.span.negative = false := Option.some.inj hrecorder
    refine ⟨a, b, ha, hb, hab, fun hspan => ?_⟩
    rw [hspan, hpositive] at hnegative
    cases hnegative
  · rw [he] at hlog
    cases hlog

end NetTimeline
