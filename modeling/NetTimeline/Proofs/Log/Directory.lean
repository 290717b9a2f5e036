import Mathlib.Data.List.Pairwise
import Mathlib.Data.List.Rotate
import NetTimeline.Proofs.Log.Lines
import NetTimeline.Proofs.Outcome

/-!
# What comes of the logs of a directory

The logs are read in the order of their names, whatever order the directory lists them in, and the
events of all of them are sorted by their starts. The sort is stable, so events that start together
stay in the order of the names and, within a log, of the lines.

Each event is followed through the sort with its place, the name of its log and the number of its
line (`PlacedEvent`); the sort looks at the event alone.

Principal results:

* `List.pairwise_mergeSort_stable` — what a stable sort keeps of the order before it;
* `loadDirectory_of_holdsLogs` — the events and the records of a directory of readable logs;
* `loadDirectory_congr` — the order in which a directory lists its names does not matter;
* `loadDirectory_merges` — nothing is lost or added, and each event stands in its place.
-/

set_option autoImplicit false

namespace NetTimeline

open Files (FileSystem Path)

/-! ## A stable sort -/

section Stable

variable {α : Type} {le : α → α → Bool} {l : List α}

/-- Elements that are all equal to a sort stand behind it as they stood before it. -/
theorem List.filter_mergeSort_of_equal {p : α → Bool}
    (trans : ∀ a b c, le a b = true → le b c = true → le a c = true)
    (total : ∀ a b, (le a b || le b a) = true)
    (hequal : ∀ a b, p a = true → p b = true → le a b = true) :
    (l.mergeSort le).filter p = l.filter p := by
  have hpairwise : (l.filter p).Pairwise fun a b => le a b = true :=
    List.pairwise_of_forall_mem_list fun a ha b hb =>
      hequal a b (List.mem_filter.1 ha).2 (List.mem_filter.1 hb).2
  have hsublist : (l.filter p).Sublist (l.mergeSort le) :=
    List.sublist_mergeSort trans total hpairwise List.filter_sublist
  have hkept : (l.filter p).Sublist ((l.mergeSort le).filter p) := by
    have hfilter := hsublist.filter p
    simpa only [List.filter_filter, Bool.and_self] using hfilter
  exact (hkept.eq_of_length ((List.mergeSort_perm l le).symm.filter p).length_eq).symm

/-- **A stable sort orders a list**, and of elements that are equal to it, it keeps the order that
they had. -/
theorem List.pairwise_mergeSort_stable {R : α → α → Prop}
    (trans : ∀ a b c, le a b = true → le b c = true → le a c = true)
    (total : ∀ a b, (le a b || le b a) = true) (h : l.Pairwise R) :
    (l.mergeSort le).Pairwise fun a b => le a b = true ∧ (le b a = true → R a b) := by
  rw [List.pairwise_iff_forall_sublist]
  intro a b hab
  have hle : le a b = true :=
    List.pairwise_iff_forall_sublist.1 (List.pairwise_mergeSort trans total l) hab
  refine ⟨hle, fun hge => ?_⟩
  -- `a` and `b` are both in the class of `a`, which the sort leaves as it is
  let p : α → Bool := fun x => le a x && le x a
  have hclass : (l.mergeSort le).filter p = l.filter p := by
    refine filter_mergeSort_of_equal trans total fun x y hx hy => ?_
    obtain ⟨-, hxa⟩ := Bool.and_eq_true_iff.1 hx
    obtain ⟨hay, -⟩ := Bool.and_eq_true_iff.1 hy
    exact trans x a y hxa hay
  have hrefl : le a a = true := trans a b a hle hge
  have hpair : [a, b].filter p = [a, b] := by
    simp [p, hle, hge, hrefl]
  have hbefore : [a, b].Sublist l := by
    rw [← hpair]
    exact (hclass ▸ hab.filter p).trans List.filter_sublist
  exact List.pairwise_iff_forall_sublist.1 h hbefore

end Stable

/-! ## One log -/

/-- The events in the lines of a text, in order. -/
def loggedEvents (text : List Char) : List NetworkEvent :=
  (Text.allLines text).filterMap LogLine.event?

theorem loadLog_result {files : FileSystem} {path : Path} {text : List Char}
    (h : files.HoldsText path text) : (loadLog files path).result = .ok (loggedEvents text) := by
  rw [loadLog_of_holdsText h]
  rfl

/-- Loading a log looks up its path only. -/
theorem loadLog_congr {files others : FileSystem} {path : Path}
    (h : others.find path.text = files.find path.text) : loadLog others path = loadLog files path := by
  unfold loadLog FileSystem.read
  rw [h]

/-- An event with its place: the name of a log and the number of a line in it. -/
structure PlacedEvent where
  name : String
  line : Nat
  event : NetworkEvent

/-- The events in the lines of a text, in order, with their places in a log of this name. -/
def placedEvents (name : String) (text : List Char) : List PlacedEvent :=
  (Text.allLines text).zipIdx.filterMap fun (line, number) =>
    (LogLine.event? line).map fun event => ⟨name, number, event⟩

theorem placedEvents_events (name : String) (text : List Char) :
    (placedEvents name text).map PlacedEvent.event = loggedEvents text := by
  have hmap : loggedEvents text =
      ((Text.allLines text).zipIdx.map Prod.fst).filterMap LogLine.event? := by
    rw [List.zipIdx_map_fst, loggedEvents]
  rw [hmap, placedEvents, List.map_filterMap, List.filterMap_map]
  refine List.filterMap_congr fun line _ => ?_
  cases hevent : LogLine.event? line.1 <;> simp [hevent]

theorem name_of_mem_placedEvents {name : String} {text : List Char} {placed : PlacedEvent}
    (h : placed ∈ placedEvents name text) : placed.name = name := by
  obtain ⟨line, -, hline⟩ := List.mem_filterMap.1 h
  obtain ⟨event, -, rfl⟩ := Option.map_eq_some_iff.1 hline
  rfl

theorem placedEvents_increasing (name : String) (text : List Char) :
    (placedEvents name text).Pairwise fun a b => a.line < b.line := by
  have hnumbers : (Text.allLines text).zipIdx.Pairwise fun a b => a.2 < b.2 := by
    rw [← List.pairwise_map (f := Prod.snd) (R := (· < ·)), List.zipIdx_map_snd]
    exact List.pairwise_lt_range'
  rw [placedEvents, List.pairwise_filterMap]
  refine hnumbers.imp fun hlt a ha b hb => ?_
  obtain ⟨_, -, rfl⟩ := Option.map_eq_some_iff.1 ha
  obtain ⟨_, -, rfl⟩ := Option.map_eq_some_iff.1 hb
  exact hlt

/-! ## The order of places -/

namespace PlacedEvent

/-- One place is before another: in a log of a lesser name, or in an earlier line of the same. -/
def Before (a b : PlacedEvent) : Prop := a.name < b.name ∨ a.name = b.name ∧ a.line < b.line

/-- One event precedes another: it starts earlier, or they start together and its place is before. -/
def Precedes (a b : PlacedEvent) : Prop :=
  a.event.startTime.units < b.event.startTime.units ∨
    a.event.startTime.units = b.event.startTime.units ∧ a.Before b

instance (a b : PlacedEvent) : Decidable (a.Before b) :=
  inferInstanceAs (Decidable (_ ∨ _ ∧ _))

instance (a b : PlacedEvent) : Decidable (a.Precedes b) :=
  inferInstanceAs (Decidable (_ ∨ _ ∧ _))

theorem Before.asymm {a b : PlacedEvent} (h : a.Before b) : ¬ b.Before a := by
  rintro (hname' | ⟨hname', hline'⟩) <;> rcases h with hname | ⟨hname, hline⟩
  · exact String.lt_asymm hname hname'
  · exact String.lt_irrefl _ (hname ▸ hname')
  · exact String.lt_irrefl _ (hname' ▸ hname)
  · omega

theorem Precedes.asymm {a b : PlacedEvent} (h : a.Precedes b) : ¬ b.Precedes a := by
  rintro (hlt' | ⟨heq', hbefore'⟩) <;> rcases h with hlt | ⟨heq, hbefore⟩
  · omega
  · omega
  · omega
  · exact hbefore.asymm hbefore'

/-- The same events have one order only. -/
theorem eq_of_perm {placed others : List PlacedEvent} (hperm : placed.Perm others)
    (h : placed.Pairwise Precedes) (hothers : others.Pairwise Precedes) : placed = others :=
  List.Perm.eq_of_pairwise (fun _ _ _ _ hab hba => absurd hba hab.asymm) h hothers hperm

end PlacedEvent

theorem mem_logNames {names : List String} {name : String} :
    name ∈ logNames names ↔ name ∈ names ∧ isLogName name = true := by
  rw [logNames, List.mem_mergeSort, List.mem_filter]

/-- The names of the logs are in strict order, if the directory lists none twice. -/
theorem logNames_increasing {names : List String} (h : names.Nodup) :
    (logNames names).Pairwise (· < ·) := by
  have hdistinct : (logNames names).Nodup :=
    (List.mergeSort_perm _ _).nodup_iff.2 (h.filter _)
  refine (logNames_sorted names).and hdistinct |>.imp fun ⟨hle, hne⟩ => ?_
  exact Std.lt_of_le_of_ne hle hne

variable {names : List String} {texts : String → List Char}

theorem placedEvents_before (h : names.Nodup) (texts : String → List Char) :
    ((logNames names).flatMap fun name => placedEvents name (texts name)).Pairwise
      PlacedEvent.Before := by
  refine List.pairwise_flatMap.2 ⟨fun name _ => ?_, ?_⟩
  · refine (placedEvents_increasing name (texts name)).imp_of_mem fun ha hb hlt => ?_
    exact .inr ⟨by rw [name_of_mem_placedEvents ha, name_of_mem_placedEvents hb], hlt⟩
  · refine (logNames_increasing h).imp fun hlt a ha b hb => .inl ?_
    rwa [name_of_mem_placedEvents ha, name_of_mem_placedEvents hb]

/-! ## A directory of logs -/

/-- A directory that lists these names, in any order, and whose logs hold each a text in UTF-8. -/
structure Files.FileSystem.HoldsLogs (files : FileSystem) (path : Path) (names : List String)
    (texts : String → List Char) : Prop where
  listed : files.find path.text = .ok (.directory names)
  readable : ∀ name ∈ names, isLogName name = true → files.HoldsText (path.child name) (texts name)

/-- The events in the logs of a directory, in the order of their starts. -/
def mergedEvents (names : List String) (texts : String → List Char) : List NetworkEvent :=
  ((logNames names).flatMap fun name => loggedEvents (texts name)).mergeSort startsNoLater

theorem mergedEvents_perm (names : List String) (texts : String → List Char) :
    (mergedEvents names texts).Perm
      ((names.filter isLogName).flatMap fun name => loggedEvents (texts name)) :=
  (List.mergeSort_perm _ _).trans ((List.mergeSort_perm _ _).flatMap_right _)

/-- **The events of a directory have places in order**, of which each is that of an event in a line
of one of the logs. -/
theorem exists_placed (h : names.Nodup) (texts : String → List Char) :
    ∃ placed : List PlacedEvent, placed.map PlacedEvent.event = mergedEvents names texts ∧
      placed.Perm ((names.filter isLogName).flatMap fun name => placedEvents name (texts name)) ∧
      placed.Pairwise PlacedEvent.Precedes := by
  let noLater : PlacedEvent → PlacedEvent → Bool := fun a b => startsNoLater a.event b.event
  let found := (logNames names).flatMap fun name => placedEvents name (texts name)
  have htrans : ∀ a b c, noLater a b = true → noLater b c = true → noLater a c = true :=
    fun a b c => startsNoLater_trans a.event b.event c.event
  have htotal : ∀ a b, (noLater a b || noLater b a) = true :=
    fun a b => startsNoLater_total a.event b.event
  have hstable := List.pairwise_mergeSort_stable htrans htotal (placedEvents_before h texts)
  refine ⟨found.mergeSort noLater, ?_, ?_, hstable.imp ?_⟩
  · rw [List.map_mergeSort (s := startsNoLater) fun _ _ _ _ => rfl, List.map_flatMap]
    simp only [placedEvents_events]
    rfl
  · exact (List.mergeSort_perm _ _).trans ((List.mergeSort_perm _ _).flatMap_right _)
  · rintro a b ⟨hle, hbefore⟩
    rcases Int.lt_or_eq_of_le (startsNoLater_iff.1 hle) with hlt | heq
    · exact .inl hlt
    · exact .inr ⟨heq, hbefore (startsNoLater_iff.2 (Int.le_of_eq heq.symm))⟩

variable {files : FileSystem} {path : Path}

theorem loadDirectory_of_listed (h : files.find path.text = .ok (.directory names)) :
    loadDirectory files path = (do
      let events ← (logNames names).mapM fun name => loadLog files (path.child name)
      return events.flatten.mergeSort startsNoLater) := by
  have hnames : files.names path.text = .ok names := by
    rw [FileSystem.names, h]
  unfold loadDirectory
  rw [hnames]
  rfl

theorem Files.FileSystem.HoldsLogs.loadLog_result (h : files.HoldsLogs path names texts)
    {name : String} (hname : name ∈ names ∧ isLogName name = true) :
    (loadLog files (path.child name)).result = .ok (loggedEvents (texts name)) :=
  NetTimeline.loadLog_result (h.readable name hname.1 hname.2)

/-- The events and the records of a directory of readable logs. -/
theorem loadDirectory_of_holdsLogs (h : files.HoldsLogs path names texts) :
    loadDirectory files path =
      ⟨(logNames names).flatMap fun name => (loadLog files (path.child name)).records,
        .ok (mergedEvents names texts)⟩ := by
  have hlogs : ∀ name ∈ logNames names,
      (loadLog files (path.child name)).result = .ok (loggedEvents (texts name)) :=
    fun _ hname => h.loadLog_result (mem_logNames.1 hname)
  rw [loadDirectory_of_listed h.listed, Logged.mapM_eq_of_results hlogs, mergedEvents]
  simp [bind, Logged.bind, pure, List.flatMap_def]

/-- **The order in which a directory lists its names does not matter**, to the events or an error as
little as to the records. -/
theorem loadDirectory_congr {others : FileSystem} {listed : List String}
    (h : files.find path.text = .ok (.directory names))
    (hlisted : others.find path.text = .ok (.directory listed)) (hperm : listed.Perm names)
    (hlogs : ∀ name ∈ names, isLogName name = true →
      others.find (path.child name).text = files.find (path.child name).text) :
    loadDirectory others path = loadDirectory files path := by
  rw [loadDirectory_of_listed h, loadDirectory_of_listed hlisted, logNames_eq_of_perm hperm]
  congr 1
  refine List.mapM_congr_of_mem fun name hname => ?_
  obtain ⟨hmem, hlog⟩ := mem_logNames.1 hname
  exact loadLog_congr (hlogs name hmem hlog)

/-- **Loading a directory merges its logs without loss.** The events are those of the logs, in the
order of their starts; events that start together stand in the order of the names of their logs and
then of their lines. The records are those of the logs in the order of the names. The order in which
the directory lists the names matters to none of this. -/
theorem loadDirectory_merges (h : files.HoldsLogs path names texts) :
    ∃ events,
      loadDirectory files path =
        ⟨(logNames names).flatMap fun name => (loadLog files (path.child name)).records,
          .ok events⟩ ∧
      (∃ logs, ((names.filter isLogName).mapM fun name =>
          (loadLog files (path.child name)).result) = .ok logs ∧ events.Perm logs.flatten) ∧
      events.Pairwise (fun a b => a.startTime.units ≤ b.startTime.units) ∧
      (names.Nodup → ∃ placed : List PlacedEvent, placed.map PlacedEvent.event = events ∧
        placed.Perm ((names.filter isLogName).flatMap fun name => placedEvents name (texts name)) ∧
        placed.Pairwise PlacedEvent.Precedes) ∧
      ∀ (others : FileSystem) (listed : List String),
        others.find path.text = .ok (.directory listed) → listed.Perm names →
        (∀ name ∈ names, isLogName name = true →
          others.find (path.child name).text = files.find (path.child name).text) →
        loadDirectory others path = loadDirectory files path := by
  refine ⟨mergedEvents names texts, loadDirectory_of_holdsLogs h, ?_, ?_, ?_, ?_⟩
  · have hlogs : ∀ name ∈ names.filter isLogName,
        (loadLog files (path.child name)).result = .ok (loggedEvents (texts name)) :=
      fun _ hname => h.loadLog_result (List.mem_filter.1 hname)
    refine ⟨(names.filter isLogName).map fun name => loggedEvents (texts name), ?_, ?_⟩
    · rw [← Logged.result_mapM_eq, Logged.mapM_eq_of_results hlogs]
    · rw [← List.flatMap_def]
      exact mergedEvents_perm names texts
  · exact mergeSort_startsNoLater_sorted _
  · exact fun hdistinct => exists_placed hdistinct texts
  · exact fun others listed hlisted hperm hlogs => loadDirectory_congr h.listed hlisted hperm hlogs

/-- Two logs. In the first two events start at 5, on both sides of a line that is rejected; in the
second one starts at 5 and the next one at 1. -/
def tiedText (name : String) : List Char :=
  (if name == "a.jsonl" then
    "\x7b\"startTime\": 5, \"endTime\": 7\x7d\n[]\n\x7b\"startTime\": 5, \"endTime\": 6\x7d\n"
  else
    "\x7b\"startTime\": 5, \"endTime\": 5\x7d\n\x7b\"startTime\": 1, \"endTime\": 3\x7d\n").toList

/-- A directory with the two logs, and a file that is none, which it lists in this order. -/
def tiedFiles (names : List String) : FileSystem :=
  .ofList [
    ("logs", .ok (.directory names)),
    ("logs/a.jsonl", .ok (.file ((tiedText "a.jsonl").flatMap String.utf8EncodeChar))),
    ("logs/b.jsonl", .ok (.file ((tiedText "b.jsonl").flatMap String.utf8EncodeChar)))]

def tiedNames : List String := ["b.jsonl", "notes.txt", "a.jsonl"]

theorem mem_tiedNames : ∀ name ∈ tiedNames, isLogName name = true →
    name = "a.jsonl" ∨ name = "b.jsonl" := by decide +kernel

theorem tiedFiles_holdsText (names : List String) {name : String}
    (h : name = "a.jsonl" ∨ name = "b.jsonl") :
    (tiedFiles names).HoldsText ((Path.ofString "logs").child name) (tiedText name) := by
  have hpaths : ((Path.ofString "logs").child "a.jsonl").text = "logs/a.jsonl" ∧
      ((Path.ofString "logs").child "b.jsonl").text = "logs/b.jsonl" := by decide +kernel
  unfold FileSystem.HoldsText
  rcases h with rfl | rfl
  · rw [hpaths.1]
    rfl
  · rw [hpaths.2]
    rfl

theorem tiedFiles_holdsLogs :
    (tiedFiles tiedNames).HoldsLogs (.ofString "logs") tiedNames tiedText where
  listed := by decide +kernel
  readable := fun name hname hlog => tiedFiles_holdsText tiedNames (mem_tiedNames name hname hlog)

/-- Events that start together come in the order of their logs, whichever of these the directory
lists first. -/
theorem loadDirectory_merges_ties :
    ∃ (events : List NetworkEvent) (placed : List PlacedEvent),
      (loadDirectory (tiedFiles tiedNames) (.ofString "logs")).result = .ok events ∧
      placed.map PlacedEvent.event = events ∧
      placed.map (fun p => (p.name, p.line)) =
        [("b.jsonl", 1), ("a.jsonl", 0), ("a.jsonl", 2), ("b.jsonl", 0)] ∧
      loadDirectory (tiedFiles tiedNames.reverse) (.ofString "logs") =
        loadDirectory (tiedFiles tiedNames) (.ofString "logs") := by
  let found := (tiedNames.filter isLogName).flatMap fun name => placedEvents name (tiedText name)
  obtain ⟨hordered, hplaces⟩ : (found.rotate 1).Pairwise PlacedEvent.Precedes ∧
      (found.rotate 1).map (fun p => (p.name, p.line)) =
        [("b.jsonl", 1), ("a.jsonl", 0), ("a.jsonl", 2), ("b.jsonl", 0)] := by decide +kernel
  obtain ⟨events, hload, -, -, hplaced, hlisted⟩ := loadDirectory_merges tiedFiles_holdsLogs
  obtain ⟨placed, hevents, hperm, hprecedes⟩ := hplaced (by decide)
  have hrotated : placed = found.rotate 1 :=
    PlacedEvent.eq_of_perm (hperm.trans (List.rotate_perm found 1).symm) hprecedes hordered
  refine ⟨events, placed, by rw [hload], hevents, by rw [hrotated, hplaces], ?_⟩
  refine hlisted _ tiedNames.reverse (by decide +kernel) (List.reverse_perm _) ?_
  intro name hname hlog
  have hname' := mem_tiedNames name hname hlog
  rw [tiedFiles_holdsText _ hname', tiedFiles_holdsText _ hname']

end NetTimeline
