import NetTimeline.Proofs.Command.Mishap
import NetTimeline.Proofs.Files.Addition

/-!
# What else stands in a directory of logs

Of the entries of a directory only those count whose names are names of request logs. So an entry of
any other name can be added, be it a file, a link or a directory with all its contents: the events,
the records and the axes stay the same. The names are all that is looked at, however. A directory
whose name is that of a log is opened like one, which fails, and then the events of all the logs are
lost with it.

Principal results:

* `loadDirectory_of_new_name` — an entry that is not named like a log changes nothing;
* `loadDirectory_of_new_failure` — one that is and cannot be opened fails the whole directory;
* `loadDirectory_gains` — both, for a tree that gains an entry.
-/

set_option autoImplicit false

namespace NetTimeline

open Files

/-! ## Logs that are still there -/

section Logs

variable {files grown : FileSystem} {path : Path} {name : String} {names : List String}
  {events : List NetworkEvent}

/-- A log that could be loaded is a file. -/
theorem find_of_loadLog (h : (loadLog files path).result = .ok events) :
    ∃ bytes, files.find path.text = .ok (.file bytes) := by
  unfold loadLog at h
  rw [Logged.result_bind] at h
  obtain ⟨bytes, hbytes, -⟩ := Except.bind_eq_ok.1 h
  have hread : files.read path.text = .ok bytes := Except.mapError_eq_ok.1 hbytes
  unfold FileSystem.read at hread
  split at hread
  · rename_i found hfind
    exact ⟨found, hfind⟩
  · cases hread
  · cases hread

/-- If a directory could be loaded, so could each of its logs. -/
theorem loadLog_of_loadDirectory (hlisted : files.find path.text = .ok (.directory names))
    (hload : (loadDirectory files path).result = .ok events) {log : String}
    (hlog : log ∈ logNames names) :
    ∃ loaded, (loadLog files (path.child log)).result = .ok loaded := by
  rw [loadDirectory_of_listed hlisted, Logged.result_bind, Logged.result_mapM_eq] at hload
  obtain ⟨logs, hlogs, -⟩ := Except.bind_eq_ok.1 hload
  exact List.exists_of_mapM_eq_ok hlogs hlog

/-- Files are kept: what could be read can still be read, and holds the same. -/
def KeepsFiles (files grown : FileSystem) : Prop :=
  ∀ path bytes, files.find path = .ok (.file bytes) → grown.find path = .ok (.file bytes)

/-- The logs of a directory that could be loaded are loaded again where files are kept. -/
theorem loadLog_kept (hfiles : KeepsFiles files grown)
    (hlisted : files.find path.text = .ok (.directory names))
    (hload : (loadDirectory files path).result = .ok events) {log : String}
    (hlog : log ∈ logNames names) :
    loadLog grown (path.child log) = loadLog files (path.child log) := by
  obtain ⟨loaded, hloaded⟩ := loadLog_of_loadDirectory hlisted hload hlog
  obtain ⟨bytes, hfind⟩ := find_of_loadLog hloaded
  exact loadLog_congr ((hfiles _ _ hfind).trans hfind.symm)

theorem logNames_append_of_not_log (names : List String) (hname : isLogName name = false) :
    logNames (names ++ [name]) = logNames names := by
  have hfilter : [name].filter isLogName = [] := by
    rw [List.filter_cons_of_neg (Bool.eq_false_iff.1 hname), List.filter_nil]
  rw [logNames, logNames, List.filter_append, hfilter, List.append_nil]

/-- **An entry that is not named like a log changes nothing**, neither events nor records. -/
theorem loadDirectory_of_new_name (hfiles : KeepsFiles files grown)
    (hlisted : files.find path.text = .ok (.directory names))
    (hgrown : grown.find path.text = .ok (.directory (names ++ [name])))
    (hload : (loadDirectory files path).result = .ok events) (hname : isLogName name = false) :
    loadDirectory grown path = loadDirectory files path := by
  rw [loadDirectory_of_listed hgrown, loadDirectory_of_listed hlisted,
    logNames_append_of_not_log names hname]
  congr 1
  refine List.mapM_congr_of_mem fun log hlog => ?_
  exact loadLog_kept hfiles hlisted hload hlog

/-- **An entry that is named like a log and cannot be opened fails the whole directory**: all other
logs can be loaded, so it is the first that fails. -/
theorem loadDirectory_of_new_failure (hfiles : KeepsFiles files grown)
    (hlisted : files.find path.text = .ok (.directory names))
    (hgrown : grown.find path.text = .ok (.directory (names ++ [name])))
    (hload : (loadDirectory files path).result = .ok events) (hname : isLogName name = true)
    {error : FileError} (hread : grown.read (path.child name).text = .error error) :
    (loadDirectory grown path).result = .error (.file error) := by
  rw [loadDirectory_eq_error hgrown]
  have hmem : name ∈ logNames (names ++ [name]) :=
    mem_logNames.2 ⟨List.mem_append_right _ List.mem_cons_self, hname⟩
  refine .of_single hmem (loadLog_eq_file.2 hread) ?_
  intro log hlog hne
  obtain ⟨hlogmem, hlogname⟩ := mem_logNames.1 hlog
  have hold : log ∈ names := by
    rcases List.mem_append.1 hlogmem with hold | hnew
    · exact hold
    · exact absurd (List.mem_singleton.1 hnew) hne
  have hlogold : log ∈ logNames names := mem_logNames.2 ⟨hold, hlogname⟩
  rw [directoryLog, loadLog_kept hfiles hlisted hload hlogold]
  exact loadLog_of_loadDirectory hlisted hload hlogold

end Logs

/-! ## Axes -/

section Axes

variable {files grown : FileSystem} {path : Path}

theorem loadPath_directory {names : List String}
    (hlisted : files.find path.text = .ok (.directory names)) :
    loadPath files path = loadDirectory files path := by
  have hisFile : ¬ files.isFile path.text = true := by
    rw [FileSystem.isFile, hlisted]
    exact Bool.false_ne_true
  rw [loadPath, if_neg hisFile]

/-- The axis of a path depends on the files through what the path leads to and is loaded from it. -/
theorem axisByReader_congr {query : TimelineQuery}
    (hexists : grown.exists? query.path.text = files.exists? query.path.text)
    (hload : loadPath grown query.path = loadPath files query.path) (read : DateReader) :
    axisByReader grown read query = axisByReader files read query := by
  unfold axisByReader
  rw [hexists, hload]

end Axes

/-! ## Trees -/

theorem keepsFiles_of_gains {tree grown : Entries} {name : String} {node : Node}
    (hgains : Gains name node tree grown) : KeepsFiles (Tree.system tree) (Tree.system grown) := by
  intro path bytes hfind
  obtain ⟨kept, hkept, hentry⟩ := Tree.find_kept hgains hfind
  cases hentry
  exact hkept

/-- **What an entry does that a directory of logs gains.** If it is not named like a log, nothing:
the events, the records and the axes stay the same, whatever the entry is and whatever reads the
dates of an axis. If it is named like a log and is a directory, then nothing can be loaded any more.
-/
theorem loadDirectory_gains {tree grown : Entries} {name : String} {node : Node} {path : Path}
    {names : List String} {events : List NetworkEvent} (hgains : Gains name node tree grown)
    (hlisted : (Tree.system tree).find path.text = .ok (.directory names))
    (hgrown : (Tree.system grown).find path.text = .ok (.directory (names ++ [name])))
    (hload : (loadDirectory (Tree.system tree) path).result = .ok events) :
    (isLogName name = false →
      loadDirectory (Tree.system grown) path = loadDirectory (Tree.system tree) path ∧
      ∀ (read : DateReader) (ticks : TickRequest) (start stop : Option String),
        axisByReader (Tree.system grown) read ⟨path, ticks, start, stop⟩ =
          axisByReader (Tree.system tree) read ⟨path, ticks, start, stop⟩) ∧
    (isLogName name = true → ∀ inner,
      (Tree.system grown).find (path.child name).text = .ok (.directory inner) →
      (loadDirectory (Tree.system grown) path).result =
        .error (.file ⟨.isDirectory, (path.child name).text⟩) ∧
      ∀ (read : DateReader) (ticks : TickRequest) (start stop : Option String),
        (axisByReader (Tree.system grown) read ⟨path, ticks, start, stop⟩).result =
          .error (.load (.file ⟨.isDirectory, (path.child name).text⟩))) := by
  have hfiles := keepsFiles_of_gains hgains
  constructor
  · intro hname
    have hsame := loadDirectory_of_new_name hfiles hlisted hgrown hload hname
    refine ⟨hsame, fun read ticks start stop => axisByReader_congr ?_ ?_ read⟩
    · rw [FileSystem.exists?, FileSystem.exists?, hlisted, hgrown]
    · rw [loadPath_directory hgrown, loadPath_directory hlisted, hsame]
  · intro hname inner hinner
    have hread : (Tree.system grown).read (path.child name).text =
        .error ⟨.isDirectory, (path.child name).text⟩ := by
      rw [FileSystem.read, hinner]
    have hfails := loadDirectory_of_new_failure hfiles hlisted hgrown hload hname hread
    refine ⟨hfails, fun read ticks start stop => (axisByReader_eq_error hgrown).2 (.inl ?_)⟩
    exact ⟨_, (congrArg Logged.result (loadPath_directory hgrown)).trans hfails, rfl⟩

/-- A directory with one log, and then other entries. -/
def logsTree (bytes : List UInt8) (others : Entries) : Entries :=
  [("logs", .directory (("a.jsonl", .file bytes) :: others))]

section

variable (bytes : List UInt8) (others : Entries)

theorem logsTree_gains {name : String} (hname : "a.jsonl" ≠ name) (node : Node) :
    Gains name node (logsTree bytes []) (logsTree bytes [(name, node)]) := by
  have hinner : Gains name node [("a.jsonl", .file bytes)] _ :=
    .here (by simp [Entries.lookup?, hname])
  have hgrown : Gains name node (logsTree bytes [])
      (Entries.set "logs" (.directory _) (logsTree bytes [])) := .inside rfl hinner
  simpa [Entries.set, logsTree, hname] using hgrown

/-- What the paths below the directory lead to. -/
theorem logsTree_find {path : String} (steps : List String)
    (hparts : components path = "logs" :: steps)
    (hplain : path.toList.contains '\x00' = false ∧ path ≠ "" ∧
      path.utf8ByteSize ≤ maxPathBytes ∧ isAbsolute path = false) :
    (Tree.system (logsTree bytes others)).find path =
      Tree.resolve maxLinks [("a.jsonl", .file bytes) :: others, logsTree bytes others] steps := by
  obtain ⟨hnull, hempty, hshort, hrelative⟩ := hplain
  simp only [Tree.system, Tree.find, hnull, hempty, Nat.not_lt.2 hshort, hrelative, hparts,
    Bool.false_eq_true, if_false]
  exact Tree.resolve_directory (by decide) (by decide) (by decide) (by decide +kernel) rfl

theorem logsTree_listed : (Tree.system (logsTree bytes others)).find (Path.ofString "logs").text =
    .ok (.directory ("a.jsonl" :: others.names)) :=
  (logsTree_find bytes others [] (by decide +kernel) (by decide +kernel)).trans
    (Tree.resolve_nil maxLinks _)

theorem logsTree_directory (entries : Entries) :
    (Tree.system (logsTree bytes [("b.jsonl", .directory entries)])).find
      ((Path.ofString "logs").child "b.jsonl").text = .ok (.directory entries.names) := by
  refine (logsTree_find bytes _ ["b.jsonl"] (by decide +kernel) (by decide +kernel)).trans ?_
  rw [Tree.resolve_directory (by decide) (by decide) (by decide) (by decide +kernel) rfl]
  exact Tree.resolve_nil maxLinks _

end

/-- A line with an event. -/
def plainLine : List Char := "\x7b\"startTime\": 0, \"endTime\": 25\x7d\n".toList

/-- Next to a log, a directory with anything in it does not matter under one name, and costs all
events under another. -/
theorem loadDirectory_gains_directory :
    (loadDirectory (Tree.system (logsTree (plainLine.flatMap String.utf8EncodeChar)
        [("archive", .directory [("b.jsonl", .file [])])])) (.ofString "logs")).result =
      .ok (mergedEvents ["a.jsonl"] fun _ => plainLine) ∧
    (loadDirectory (Tree.system (logsTree (plainLine.flatMap String.utf8EncodeChar)
        [("b.jsonl", .directory [("b.jsonl", .file [])])])) (.ofString "logs")).result =
      .error (.file ⟨.isDirectory, "logs/b.jsonl"⟩) := by
  generalize hbytes : plainLine.flatMap String.utf8EncodeChar = bytes
  have hholds : (Tree.system (logsTree bytes [])).HoldsLogs (.ofString "logs") ["a.jsonl"]
      fun _ => plainLine := by
    refine ⟨logsTree_listed bytes [], fun name hname _ => ?_⟩
    cases List.mem_singleton.1 hname
    refine (logsTree_find bytes [] ["a.jsonl"] (by decide +kernel) (by decide +kernel)).trans ?_
    rw [hbytes]
    exact Tree.resolve_file (by decide) (by decide) (by decide) (by decide) rfl
  have hload := congrArg Logged.result (loadDirectory_of_holdsLogs hholds)
  constructor
  · have harchive := loadDirectory_gains
      (logsTree_gains bytes (by decide) (.directory [("b.jsonl", .file [])]))
      hholds.listed (logsTree_listed bytes [("archive", _)]) hload
    exact (congrArg Logged.result (harchive.1 (by decide)).1).trans hload
  · have hlog := loadDirectory_gains
      (logsTree_gains bytes (by decide) (.directory [("b.jsonl", .file [])]))
      hholds.listed (logsTree_listed bytes [("b.jsonl", _)]) hload
    have htext : ((Path.ofString "logs").child "b.jsonl").text = "logs/b.jsonl" := by
      decide +kernel
    rw [← htext]
    exact (hlog.2 (by decide) ["b.jsonl"] (logsTree_directory bytes _)).1

end NetTimeline
