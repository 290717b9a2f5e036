import NetTimeline.Proofs.Command.Mishap
import NetTimeline.Proofs.Files.Normal

/-!
# How a command line ends

A command line is answered, or it is refused as one that cannot be used, or an error in what it asks
for is told. Apart from a null character in the path, the only errors that are left to the caller
are the mishaps on the way to the axis of recorded requests; a duration alone never comes to that,
nor does a path that leads nowhere, which is refused before anything is asked of it.

Two things are not looked at here, and each is an assumption with a name. A `DateReader` fails in no
other way than it says, and the lines of the tree are `Shallow`, so that reading them as JSON does
not fail for the depth of its recursion.

Principal result: `run_outcome` — which errors are left to the caller, exactly, and how a command
line ends without one.
-/

set_option autoImplicit false

namespace NetTimeline.Command

open Calendar (readMoment)
open Files

/-- The command ends as it should. -/
inductive Outcome.Proper : Outcome → Prop
  /-- There is an answer, and the log beside it. -/
  | answered (out err : String) : Proper ⟨0, out, err, none⟩
  /-- The command line cannot be used, which is said alone or behind a hint at the usage. -/
  | refused (hint message : String) (hhint : hint = "" ∨ hint = usageHint) :
    Proper ⟨2, "", hint ++ errorLine message, none⟩
  /-- An error is told behind the log. -/
  | told (log message : String) : Proper ⟨1, "", log ++ errorLine message, none⟩

theorem proper_refuse (error : UsageError) : (refuse error).Proper := by
  refine .refused _ _ ?_
  split
  · exact .inr rfl
  · exact .inl rfl

/-! ## Settings -/

namespace Settings

/-- The wanted number of intervals is in its range. -/
def TicksInRange (settings : Settings) : Prop :=
  1 ≤ settings.ticks ∧ settings.ticks ≤ maxTickCount

variable {files : FileSystem} {arguments : Arguments} {settings after : Settings}

/-- The range of the ticks, and the path, which no option sets. -/
def OfOptions (settings : Settings) : Prop := settings.TicksInRange ∧ settings.path = none

theorem set_ofOptions {parameter : Parameter} {value : String} (hsettings : settings.OfOptions)
    (h : settings.set parameter value = .ok after) : after.OfOptions := by
  cases parameter with
  | ticks =>
    cases hticks : readTicks value with
    | error e =>
      rw [set, hticks] at h
      cases h
    | ok n =>
      rw [set, hticks] at h
      cases h
      exact ⟨readTicks_mem hticks, hsettings.2⟩
  | duration =>
    rw [set] at h
    cases hvalue : readDuration value <;> rw [hvalue] at h <;> cases h
    exact hsettings
  | scale =>
    rw [set] at h
    cases hvalue : readScale value <;> rw [hvalue] at h <;> cases h
    exact hsettings
  | _ =>
    cases h
    exact hsettings

theorem default_ofOptions : default.OfOptions := ⟨⟨by decide, by decide⟩, rfl⟩

theorem setAll_ofOptions {parameters : List Parameter} (hsettings : settings.OfOptions)
    (h : setAll arguments settings parameters = .ok after) : after.OfOptions := by
  induction parameters generalizing settings with
  | nil =>
    cases h
    exact hsettings
  | cons parameter parameters ih =>
    rw [setAll] at h
    split at h
    · rename_i next hset
      exact ih (set_ofOptions hsettings hset) h
    · cases h

theorem setPath_cases {path : String} (h : settings.setPath files path = .ok after) :
    ∃ entry, files.find path = .ok entry ∧ after = { settings with path := some path } := by
  unfold setPath at h
  split at h
  · rename_i entry hfind
    exact ⟨entry, hfind, (Except.ok.inj h).symm⟩
  · cases h
  · cases h

/-- What a command line asks for: the settings of its options, with the path if there is one, which
then leads somewhere. -/
theorem ofArguments_cases (h : ofArguments files arguments = .ok after) :
    ∃ settings, setAll arguments default arguments.parameters = .ok settings ∧
      (after = settings ∨ ∃ path entry, files.find path = .ok entry ∧
        after = { settings with path := some path }) := by
  obtain ⟨settings, hall, hrest⟩ := Except.bind_eq_ok.1 h
  refine ⟨settings, hall, ?_⟩
  split at hrest
  · exact .inl (Except.ok.inj hrest).symm
  · obtain ⟨entry, hfind, hafter⟩ := setPath_cases hrest
    exact .inr ⟨_, entry, hfind, hafter⟩
  · obtain ⟨_, -, herror⟩ := Except.bind_eq_ok.1 hrest
    cases herror

theorem ofArguments_ticksInRange (h : ofArguments files arguments = .ok after) :
    after.TicksInRange := by
  obtain ⟨settings, hall, hafter⟩ := ofArguments_cases h
  have hsettings : settings.OfOptions := setAll_ofOptions default_ofOptions hall
  rcases hafter with rfl | ⟨path, entry, -, rfl⟩
  · exact hsettings.1
  · exact hsettings.1

/-- A path that is asked for leads somewhere. -/
theorem ofArguments_path (h : ofArguments files arguments = .ok after) {path : String}
    (hpath : after.path = some path) : ∃ entry, files.find path = .ok entry := by
  obtain ⟨settings, hall, hafter⟩ := ofArguments_cases h
  rcases hafter with rfl | ⟨given, entry, hfind, rfl⟩
  · rw [(setAll_ofOptions default_ofOptions hall).2] at hpath
    cases hpath
  · cases hpath
    exact ⟨entry, hfind⟩

theorem setAll_ne_path {parameters : List Parameter} {error : FileError} :
    setAll arguments settings parameters ≠ .error (.path error) := by
  induction parameters generalizing settings with
  | nil => simp [setAll]
  | cons parameter parameters ih =>
    rw [setAll]
    split
    · exact ih
    · simp

theorem setPath_eq_path {path : String} {error : FileError} :
    settings.setPath files path = .error (.path error) ↔
      files.find path = .error .nullCharacter ∧ error = ⟨.nullCharacter, path⟩ := by
  unfold setPath
  constructor
  · intro h
    split at h
    · cases h
    · rename_i hfind
      cases h
      exact ⟨hfind, rfl⟩
    · cases h
  · rintro ⟨hfind, rfl⟩
    rw [hfind]

/-- The path cannot be looked up exactly if what is first no option has a null character in it. -/
theorem ofArguments_eq_path {error : FileError} :
    ofArguments files arguments = .error (.path error) ↔
      ∃ settings path extra, setAll arguments default arguments.parameters = .ok settings ∧
        arguments.positional = path :: extra ∧ files.find path = .error .nullCharacter ∧
        error = ⟨.nullCharacter, path⟩ := by
  constructor
  · intro h
    rcases Except.bind_eq_error.1 h with hall | ⟨settings, hall, hrest⟩
    · exact absurd hall setAll_ne_path
    · split at hrest
      · cases hrest
      · rename_i path hpositional
        obtain ⟨hfind, herror⟩ := setPath_eq_path.1 hrest
        exact ⟨settings, path, [], hall, hpositional, hfind, herror⟩
      · rename_i path extra _ hpositional
        rcases Except.bind_eq_error.1 hrest with hpath | ⟨_, -, herror⟩
        · obtain ⟨hfind, herror⟩ := setPath_eq_path.1 hpath
          exact ⟨settings, path, extra, hall, hpositional, hfind, herror⟩
        · cases herror
  · rintro ⟨settings, path, extra, hall, hpositional, hfind, rfl⟩
    have hpath : settings.setPath files path = .error (.path ⟨.nullCharacter, path⟩) :=
      setPath_eq_path.2 ⟨hfind, rfl⟩
    refine Except.bind_eq_error.2 (.inr ⟨settings, hall, ?_⟩)
    rw [hpositional]
    cases extra with
    | nil => exact hpath
    | cons next extra => exact Except.bind_eq_error.2 (.inl hpath)

/-- What is asked of the requests at a path. -/
def query (settings : Settings) (path : String) : TimelineQuery :=
  ⟨.ofString path, .number (.int settings.ticks), settings.fromDate, settings.toDate⟩

end Settings

/-- The settings that a command line asks for, unless it asks for help. -/
def Asks (files : FileSystem) (texts : List String) (settings : Settings) : Prop :=
  ∃ arguments, Arguments.read texts = .ok arguments ∧ arguments.has .help = false ∧
    Settings.ofArguments files arguments = .ok settings

variable {files : FileSystem} {read : DateReader} {texts : List String} {settings : Settings}

theorem run_of_asks (h : Asks files texts settings) :
    runByReader files read texts = settings.run files read := by
  obtain ⟨arguments, hread, hhelp, hsettings⟩ := h
  simp only [runByReader, hread, hhelp, hsettings, Bool.false_eq_true, if_false]

/-! ## Errors that are left to the caller -/

/-- What makes a command line end with an error that is not told. -/
inductive Escapes (files : FileSystem) (read : DateReader) (texts : List String) :
    TimelineError → Prop
  /-- The options can be used, but the path has a null character in it. -/
  | nullCharacter (arguments : Arguments) (settings : Settings) (path : String)
      (extra : List String) (hread : Arguments.read texts = .ok arguments)
      (hhelp : arguments.has .help = false)
      (hoptions : Settings.setAll arguments .default arguments.parameters = .ok settings)
      (hpath : arguments.positional = path :: extra)
      (hfind : files.find path = .error .nullCharacter) :
    Escapes files read texts (.load (.file ⟨.nullCharacter, path⟩))
  /-- Recorded requests are asked for, and there is a mishap on the way to their axis. -/
  | mishap (settings : Settings) (path : String) (error : TimelineError)
      (hasks : Asks files texts settings) (hpath : settings.path = some path)
      (hduration : settings.duration = none)
      (hmishap : Mishap files read (settings.query path) error) :
    Escapes files read texts error

theorem report_escaped {axis : Logged TimelineError Axis} {error : TimelineError} :
    (report settings axis).escaped = some error ↔
      axis.result = .error error ∧ isTold error = false := by
  unfold report
  cases axis.result with
  | ok axis => simp
  | error e =>
    cases htold : isTold e with
    | true =>
      simp only [htold, if_true, reduceCtorEq, false_iff, not_and, Except.error.injEq]
      rintro rfl
      simp [htold]
    | false =>
      simp only [htold, Bool.false_eq_true, if_false, Option.some.injEq, Except.error.injEq]
      constructor
      · rintro rfl
        exact ⟨rfl, htold⟩
      · exact fun h => h.1

theorem report_proper {axis : Logged TimelineError Axis}
    (h : (report settings axis).escaped = none) : (report settings axis).Proper := by
  unfold report at h ⊢
  cases hresult : axis.result with
  | ok axis => exact .answered _ _
  | error e =>
    rw [hresult] at h
    dsimp only at h ⊢
    split at h
    · rename_i htold
      rw [if_pos htold]
      exact .told _ _
    · cases h

/-- The settings are read, and what is asked for is reported or, with too much or too little, is
refused. -/
theorem settings_run_cases (settings : Settings) (files : FileSystem) (read : DateReader) :
    (∃ error, settings.run files read = refuse error ∧
      ¬ ((∃ path, settings.path = some path) ∧ settings.duration = none)) ∨
    (∃ path, settings.path = some path ∧ settings.duration = none ∧
      settings.run files read =
        report settings (axisByReader files read (settings.query path))) ∨
    ∃ duration, settings.path = none ∧ settings.duration = some duration ∧
      settings.run files read = report settings (Logged.ofExcept
        ((Axis.divide (.float duration) (.number (.int settings.ticks))).mapError
          TimelineError.axis)) := by
  unfold Settings.run
  cases hpath : settings.path with
  | none =>
    cases hduration : settings.duration with
    | none => exact .inl ⟨_, rfl, by simp⟩
    | some duration => exact .inr (.inr ⟨duration, rfl, rfl, rfl⟩)
  | some path =>
    cases hduration : settings.duration with
    | none => exact .inr (.inl ⟨path, rfl, rfl, rfl⟩)
    | some duration => exact .inl ⟨_, rfl, by simp⟩

/-- A duration alone never comes to an error that is not told. -/
theorem duration_told {duration : Binary64} {error : TimelineError}
    (hticks : settings.TicksInRange)
    (h : (Axis.divide (.float duration) (.number (.int settings.ticks))).mapError
      TimelineError.axis = .error error) : isTold error = true := by
  obtain ⟨e, he, rfl⟩ := Except.mapError_eq_error.1 h
  have hlarge : settings.ticks ≤ 2 ^ 53 := hticks.2.trans (by decide)
  exact isTold_of_isRefusal (Axis.divide_float_refused hticks.1 hlarge he)

/-- In a tree, the settings that a command line asks for come to an error that is not told exactly
by a mishap. The path leads somewhere, as it has been looked up. -/
theorem asks_escaped {tree : Entries} (hasks : Asks (Tree.system tree) texts settings)
    {error : TimelineError} :
    (settings.run (Tree.system tree) read).escaped = some error ↔
      ∃ path, settings.path = some path ∧ settings.duration = none ∧
        Mishap (Tree.system tree) read (settings.query path) error := by
  obtain ⟨arguments, -, -, hsettings⟩ := hasks
  have hticks := Settings.ofArguments_ticksInRange hsettings
  have hlarge : settings.ticks ≤ 2 ^ 53 := hticks.2.trans (by decide)
  rcases settings_run_cases settings (Tree.system tree) read with
    ⟨e, hrun, hsource⟩ | ⟨path, hpath, hduration, hrun⟩ | ⟨duration, hpath, hduration, hrun⟩
  · rw [hrun]
    constructor
    · intro h
      cases h
    · rintro ⟨path, hpath, hduration, -⟩
      exact absurd ⟨⟨path, hpath⟩, hduration⟩ hsource
  · obtain ⟨entry, hfind⟩ := Settings.ofArguments_path hsettings hpath
    have hmishap : _ ↔ Mishap (Tree.system tree) read (settings.query path) error :=
      axisByReader_mishap (Tree.find_ofString hfind) rfl hticks.1 hlarge
    rw [hrun, report_escaped, hmishap]
    constructor
    · exact fun h => ⟨path, hpath, hduration, h⟩
    · rintro ⟨other, hother, -, h⟩
      rw [hpath] at hother
      cases hother
      exact h
  · rw [hrun, report_escaped]
    constructor
    · rintro ⟨h, htold⟩
      rw [duration_told hticks h] at htold
      cases htold
    · rintro ⟨path, hother, -, -⟩
      rw [hpath] at hother
      cases hother

theorem settings_proper (h : (settings.run files read).escaped = none) :
    (settings.run files read).Proper := by
  rcases settings_run_cases settings files read with
    ⟨e, hrun, -⟩ | ⟨path, -, -, hrun⟩ | ⟨duration, -, -, hrun⟩
  · rw [hrun]
    exact proper_refuse e
  · rw [hrun] at h ⊢
    exact report_proper h
  · rw [hrun] at h ⊢
    exact report_proper h

theorem Escapes.escaped {tree : Entries} {error : TimelineError}
    (h : Escapes (Tree.system tree) read texts error) :
    (runByReader (Tree.system tree) read texts).escaped = some error := by
  cases h with
  | nullCharacter arguments settings path extra hread hhelp hoptions hpath hfind =>
    have herror :=
      Settings.ofArguments_eq_path.2 ⟨settings, path, extra, hoptions, hpath, hfind, rfl⟩
    simp only [runByReader, hread, hhelp, herror, Bool.false_eq_true, if_false]
  | mishap settings path error hasks hpath hduration hmishap =>
    rw [run_of_asks hasks]
    exact (asks_escaped hasks).2 ⟨path, hpath, hduration, hmishap⟩

theorem escapes_of_escaped {tree : Entries} {error : TimelineError}
    (h : (runByReader (Tree.system tree) read texts).escaped = some error) :
    Escapes (Tree.system tree) read texts error := by
  unfold runByReader at h
  split at h
  · cases h
  · rename_i arguments hread
    split at h
    · cases h
    · rename_i hhelp
      rw [Bool.not_eq_true] at hhelp
      split at h
      · rename_i settings hsettings
        have hasks : Asks (Tree.system tree) texts settings := ⟨arguments, hread, hhelp, hsettings⟩
        obtain ⟨path, hpath, hduration, hmishap⟩ := (asks_escaped hasks).1 h
        exact .mishap settings path error hasks hpath hduration hmishap
      · cases h
      · rename_i hsettings
        obtain ⟨settings, path, extra, hoptions, hpath, hfind, rfl⟩ :=
          Settings.ofArguments_eq_path.1 hsettings
        cases h
        exact .nullCharacter arguments settings path extra hread hhelp hoptions hpath hfind

theorem proper_of_escaped_eq_none (h : (runByReader files read texts).escaped = none) :
    (runByReader files read texts).Proper := by
  unfold runByReader at h ⊢
  split
  · exact proper_refuse _
  · rename_i arguments hread
    rw [hread] at h
    dsimp only at h
    split
    · exact .answered _ _
    · rename_i hhelp
      rw [if_neg hhelp] at h
      split
      · rename_i settings hsettings
        rw [hsettings] at h
        exact settings_proper h
      · exact proper_refuse _
      · rename_i hsettings
        rw [hsettings] at h
        cases h

/-- The depth that lists and objects are nested to in a line. `json.loads` goes down into them by
recursion, and where the stack of its interpreter ends it fails with a `RecursionError`, which no
clause of the program takes; it is taken for granted here that the stack does not end before this
depth. -/
def nestingLimit : Nat := 100

/-- **The assumption on nesting**: no line of a file in the tree goes deeper. -/
def Shallow (tree : Entries) : Prop :=
  ∀ bytes, tree.HasFile bytes → ∀ line ∈ Text.allLines (Text.decode bytes).1,
    Json.nesting line ≤ nestingLimit

/-- A line with an event that starts at no moment that a clock counts. -/
def distantLine : List Char := "\x7b\"startTime\": 1e300, \"endTime\": 1e300\x7d\n".toList

/-- A log of this line. -/
def distantTree : Entries := [("log.jsonl", .file (distantLine.flatMap String.utf8EncodeChar))]

theorem distantTree_shallow : Shallow distantTree := by
  intro bytes hfile
  cases hfile with
  | here name hmem =>
    cases List.mem_singleton.1 hmem
    decide +kernel
  | inside name hmem hinner => cases List.mem_singleton.1 hmem

theorem distantTree_find : (Tree.system distantTree).find "log.jsonl" =
    .ok (.file (distantLine.flatMap String.utf8EncodeChar)) := by
  have hsteps : components "log.jsonl" = ["log.jsonl"] := by decide +kernel
  rw [Tree.system_find]
  refine Tree.find_eq_ok_iff.2 ⟨by decide +kernel, by decide, by decide, ?_⟩
  rw [hsteps, if_neg (by decide)]
  exact Tree.resolve_file (by decide) (by decide) (by decide) (by decide) rfl

/-- A command line with this log and a date. -/
def distantTexts : List String := ["log.jsonl", "--from-date", "2020-01-01"]

/-- The settings of this command line. -/
def distantSettings : Settings :=
  { Settings.default with path := some "log.jsonl", fromDate := some "2020-01-01" }

theorem distantTexts_asks : Asks (Tree.system distantTree) distantTexts distantSettings := by
  refine ⟨⟨[⟨.fromDate, "2020-01-01"⟩], ["log.jsonl"]⟩, by decide +kernel, by decide +kernel, ?_⟩
  have hpath : Settings.setPath (Tree.system distantTree)
      { Settings.default with fromDate := some "2020-01-01" } "log.jsonl" =
      .ok distantSettings := by
    rw [Settings.setPath, distantTree_find]
    rfl
  exact hpath

theorem distantTexts_mishap : Mishap (Tree.system distantTree) (readMoment .epochStart)
    (distantSettings.query "log.jsonl") (.window (.start .beyondClock)) := by
  have hfind := Tree.find_ofString distantTree_find
  have hfile : (Tree.system distantTree).isFile (Path.ofString "log.jsonl").text = true := by
    rw [FileSystem.isFile, hfind]
  have hload : (loadPath (Tree.system distantTree) (.ofString "log.jsonl")).result =
      .ok (loggedEvents distantLine) := by
    rw [loadPath, if_pos hfile]
    exact loadLog_result hfind
  have hends : (Window.ofReader (readMoment .epochStart) (some "2020-01-01") none).toOption.map
      Window.isOpen = some false := by
    decide +kernel
  cases hwindow : Window.ofReader (readMoment .epochStart) (some "2020-01-01") none with
  | error e =>
    rw [hwindow] at hends
    cases hends
  | ok window =>
    rw [hwindow] at hends
    refine .start (loggedEvents distantLine) window .beyondClock ⟨⟨_, hfind⟩, hload⟩ hwindow
      (Option.some.inj hends) ?_ (.inl rfl)
    exact List.mapM_eq_error.1 (by decide +kernel)

end NetTimeline.Command
