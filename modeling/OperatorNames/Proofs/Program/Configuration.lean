import OperatorNames.Proofs.Config.Failing
import OperatorNames.Proofs.Program.Invocations

/-!
# Runs and the configuration

Where the configuration cannot be loaded, a command that needs it ends before anything is written, asked
for or spooled (`EndsEarly`).  A command that needs none writes its text whatever the configuration file
is, and neither looks at that file nor makes it (`WritesRegardless`).  `run_unconfigured` has both.
-/

namespace OperatorNames

open FileSystem Surroundings Text

/-- The text that a command writes whatever its surroundings are.  Commands about a document, which
need the configuration, have none. -/
def Command.text? : Command → Option Text
  | .operators .. => none
  | .digest _ => none
  | .completions shell => some shell.script
  | .manual => some CommandLine.manualPage

/-- What an invocation may change that comes to no configuration.  The configuration file may have been
begun. -/
def Surroundings.unconfigured (s : Surroundings) : Footprint :=
  { s.own with
    files := fun place content => place = destination s.here s.configPath ∧
      ∃ fault, Config.Makes s.configStorage (.error (.file fault)) content }

/-- What stands in the place of the configuration file stays there. -/
theorem Surroundings.configuration_present {s : Surroundings} {files : FileSystem} {entry : Entry}
    (hcovers : s.unconfigured.Covers s.files files)
    (hstands : s.files.at? (destination s.here s.configPath) = some entry) :
    files.at? (destination s.here s.configPath) = some entry := by
  have hturn := hcovers (destination s.here s.configPath)
  rw [hstands] at hturn
  exact hturn.entry_stays (Log.destination_configPath_ne s s)

/-- A configuration file stood there before, or is a first part of one. -/
theorem Surroundings.configuration_begun {s : Surroundings} {files : FileSystem} {content : Bytes}
    (hcovers : s.unconfigured.Covers s.files files)
    (hfile : files.at? (destination s.here s.configPath) = some (.file content)) :
    s.files.at? (destination s.here s.configPath) = some (.file content) ∨
      s.files.at? (destination s.here s.configPath) = none ∧
        ∃ fault, Config.Makes s.configStorage (.error (.file fault)) content := by
  have hturn := hcovers (destination s.here s.configPath)
  rw [hfile] at hturn
  obtain hwas | ⟨hfree, -, hmakes⟩ := hturn.file_was (Log.destination_configPath_ne s s)
  · exact .inl hwas
  · exact .inr ⟨hfree, hmakes⟩

/-- Starting the log makes no configuration file and changes none. -/
theorem Log.configuration_of_covers {s : Surroundings} {files : FileSystem}
    (hcovers : (Log.starting s).Covers s.files files) (content : Bytes) :
    files.at? (destination s.here s.configPath) = some (.file content) ↔
      s.files.at? (destination s.here s.configPath) = some (.file content) := by
  have hturn := hcovers (destination s.here s.configPath)
  have hlogs : ¬ (Log.starting s).logs (destination s.here s.configPath) :=
    Log.destination_configPath_ne s s
  constructor
  · intro hfile
    rw [hfile] at hturn
    exact (hturn.file_was hlogs).resolve_right fun hmade => hmade.2
  · intro hfile
    rw [hfile] at hturn
    exact hturn.entry_stays hlogs

theorem Surroundings.starting_le_unconfigured (s : Surroundings) :
    (Log.starting s).Le s.unconfigured where
  directories _ hplace := .inl hplace
  logs _ hplace := hplace
  files _ _ hplace := hplace.elim

/-- A load that fails changes no more. -/
theorem Surroundings.loading_le_unconfigured {s : Surroundings} (hfresh : s.log = none)
    (problem : Problem) : (Config.loading (Log.start s) (.error problem)).Le s.unconfigured := by
  rw [loading_start hfresh]
  exact
    { directories := fun _ hplace => .inr hplace
      logs := fun _ hplace => Log.logsTo_start hfresh hplace
      files := by
        rintro place content ⟨hplace, hmakes⟩
        cases hmakes with
        | part hover => exact ⟨hplace, _, .part hover⟩ }

namespace Program

variable {s t : Surroundings} {arguments : List Text} {command : Command} {explicit : Bool}
  {text : Text} {place : Place}

/-! ## A load that fails -/

/-- The configuration cannot be loaded. -/
inductive LoadFails (s : Surroundings) : Prop
  /-- Loading fails when its turn comes. -/
  | inTurn {problem : Problem} (hload : (Config.load (Log.start s)).1 = .error problem)
  /-- Loading would fail at the very beginning, in a directory that is there. -/
  | before {problem : Problem} (hhere : s.files.at? s.here = some .directory)
      (hload : (Config.load s).1 = .error problem)

/-- Starting the log does not mend the configuration. -/
theorem LoadFails.exists_load (hfails : LoadFails s) (hfresh : s.log = none) :
    ∃ problem s', Config.load (Log.start s) = (.error problem, s') := by
  cases hfails with
  | inTurn hload => exact ⟨_, _, Prod.ext hload rfl⟩
  | before hhere hload =>
      obtain ⟨config, s', hstart⟩ | hproblem := Job.apply_cases Config.load (Log.start s)
      · -- what succeeds once the log has been started would have succeeded before
        have hcovers := Log.covers_start hfresh
        obtain ⟨files, log, messages, hstarted⟩ := Log.exists_start_eq hfresh
        have horigin : s.files.at? (origin s.here s.configDirectory) = some .directory := by
          unfold origin
          split
          · exact at?_root s.files
          · exact hhere
        have hbefore := Config.fst_load_of_covers (by rw [hstarted]) (by rw [hstarted])
          (by rw [hstarted]) (by rw [hstarted]) hcovers (Log.destination_configPath_ne s s)
          (fun _ => id) horigin (congrArg Prod.fst hstart)
        rw [hload] at hbefore
        cases hbefore
      · exact hproblem

/-- A run that has told of a problem and has done nothing else but start the log, make directories and
perhaps begin a configuration file. -/
structure EndsEarly (s : Surroundings) (done : Nat × Surroundings) : Prop where
  /-- The run tells of a problem. -/
  status : done.1 = 1
  /-- Nothing has been written. -/
  output : done.2.output = s.output
  /-- Nothing has been asked for. -/
  requests : done.2.requests = s.requests
  /-- No temporary file has been made. -/
  temporaries : done.2.temporaries = s.temporaries
  /-- Directories may have been made, and the log; there is no other new file but a configuration file
  that could not be written to its end. -/
  files : s.unconfigured.Covers s.files done.2.files
  /-- What stood in the place of the configuration file stands there. -/
  present : ∀ entry, s.files.at? (destination s.here s.configPath) = some entry →
    done.2.files.at? (destination s.here s.configPath) = some entry
  /-- A configuration file stood there, or it could not be written to its end. -/
  configuration : ∀ content,
    done.2.files.at? (destination s.here s.configPath) = some (.file content) →
    s.files.at? (destination s.here s.configPath) = some (.file content) ∨
      s.files.at? (destination s.here s.configPath) = none ∧
        ∃ fault, Config.Makes s.configStorage (.error (.file fault)) content

/-- Whoever needs the configuration comes to the problem of loading it. -/
theorem runLogged_of_load_error {problem : Problem} {s' : Surroundings}
    (hread : CommandLine.read arguments = .ok (.command command explicit))
    (hneeds : command.text? = none) (hload : Config.load s = (.error problem, s')) :
    runLogged arguments s = conclude problem s' := by
  have hconfiguration : configuration s = (.error problem, s') := Job.bind_of_error hload _
  have hperform : perform command s = (.error problem, s') := by
    cases command with
    | operators style url file => exact Job.bind_of_error hconfiguration _
    | digest url => exact Job.bind_of_error hconfiguration _
    | completions shell => cases hneeds
    | manual => cases hneeds
  unfold runLogged
  rw [hread]
  dsimp only
  rw [hperform]

theorem conclude_of_isLoadProblem {problem : Problem} (hproblem : Config.IsLoadProblem problem)
    (s : Surroundings) :
    ∃ told, conclude problem s = (1, tell told (Job.noted (.failed problem) s)) := by
  cases hproblem with
  | file fault => exact ⟨_, rfl⟩
  | configuration problem => exact ⟨_, rfl⟩

theorem endsEarly_of_load_error {problem : Problem} {s' : Surroundings} (hfresh : s.log = none)
    (hread : CommandLine.read arguments = .ok (.command command explicit))
    (hneeds : command.text? = none) (hload : Config.load (Log.start s) = (.error problem, s')) :
    EndsEarly s (run arguments s) := by
  obtain ⟨hproblem, files', rfl⟩ := Config.load_eq_error hload
  obtain ⟨told, hconclude⟩ := conclude_of_isLoadProblem hproblem _
  have hrun := (runLogged_of_load_error hread hneeds hload).trans hconclude
  have hlogs : (Log.start s).LogsWithin s.unconfigured := fun place hplace =>
    Log.logsTo_start hfresh hplace
  have hstart := (Log.covers_start hfresh).mono s.starting_le_unconfigured
  have hloaded := Config.covers_load (Log.start s)
  rw [hload] at hloaded
  have hmade : s.unconfigured.Covers (Log.start s).files files' :=
    hloaded.mono (loading_le_unconfigured hfresh problem)
  obtain ⟨files, log, messages, hstarted⟩ := Log.exists_start_eq hfresh
  unfold run
  rw [hrun]
  generalize Log.start s = started at hlogs hstart hmade hstarted ⊢
  subst hstarted
  -- what is left is the notice of the problem
  have htold := Config.covers_noted (.failed problem)
    (s := { s with files := files', log, messages }) hlogs
  have hcovers := hstart.trans (hmade.trans htold)
  exact
    { status := rfl
      output := Job.noted_output _ _
      requests := Job.noted_requests _ _
      temporaries := Job.noted_temporaries _ _
      files := hcovers
      present := fun entry => configuration_present hcovers
      configuration := fun content => configuration_begun hcovers }

/-! ## Commands that write a text -/

theorem runLogged_of_text (hread : CommandLine.read arguments = .ok (.command command explicit))
    (htext : command.text? = some text) :
    ∃ problem : Fault → Problem, ∀ s : Surroundings, runLogged arguments s =
      match s.output.write (Utf8.encode text) with
      | (.ok (), output) => (0, { s with output })
      | (.error fault, output) => conclude (problem fault) { s with output } := by
  have hperform : ∃ problem, perform command = print problem text := by
    cases command with
    | operators style url file => cases htext
    | digest url => cases htext
    | completions shell =>
        cases htext
        exact ⟨_, rfl⟩
    | manual =>
        cases htext
        exact ⟨_, rfl⟩
  obtain ⟨problem, hprint⟩ := hperform
  refine ⟨problem, fun s => ?_⟩
  unfold runLogged
  rw [hread]
  dsimp only
  rw [hprint]
  unfold print
  obtain ⟨result, output⟩ := s.output.write (Utf8.encode text)
  cases result with
  | ok done => rfl
  | error fault => rfl

/-- The status that a problem gives is the same everywhere. -/
theorem fst_conclude (problem : Problem) (s t : Surroundings) :
    (conclude problem t).1 = (conclude problem s).1 := by
  unfold conclude
  split <;> rfl

theorem output_conclude (problem : Problem) (s : Surroundings) :
    (conclude problem s).2.output = s.output := by
  unfold conclude
  split
  · rfl
  · exact Job.noted_output _ _

theorem output_start (hfresh : s.log = none) : (Log.start s).output = s.output := by
  obtain ⟨files, log, messages, hstarted⟩ := Log.exists_start_eq hfresh
  rw [hstarted]

/-! ## Surroundings that differ at one place -/

/-- The surroundings are the same but for what stands at a place. -/
structure SameBesides (place : Place) (s t : Surroundings) : Prop where
  /-- Only the files differ. -/
  rest : t = { s with files := t.files }
  /-- Elsewhere they are the same. -/
  elsewhere : ∀ other, other ≠ place → t.files.at? other = s.files.at? other

namespace SameBesides

theorem exists_files (hsame : SameBesides place s t) :
    ∃ files, t = { s with files } ∧ ∀ other, other ≠ place → files.at? other = s.files.at? other :=
  ⟨t.files, hsame.rest, hsame.elsewhere⟩

theorem noted (hsame : SameBesides place s t) (notice : Log.Notice) :
    SameBesides place (Job.noted notice s) (Job.noted notice t) := by
  have hlog : t.log = s.log := by rw [hsame.rest]
  have htime : t.time = s.time := by rw [hsame.rest]
  have htemporaries : t.temporaries = s.temporaries := by rw [hsame.rest]
  unfold Job.noted
  rw [hlog, htime, htemporaries]
  cases s.log with
  | none => exact hsame
  | some log =>
      obtain ⟨files, rfl, hfiles⟩ := hsame.exists_files
      dsimp only
      split
      · split
        · exact ⟨rfl, hfiles⟩
        · split
          · exact ⟨rfl, hfiles⟩
          · refine ⟨rfl, ?_⟩
            intro other hother
            rw [at?_append, at?_append, hfiles other hother]
      · exact ⟨rfl, hfiles⟩

theorem tell (hsame : SameBesides place s t) (told : Text) :
    SameBesides place (Program.tell told s) (Program.tell told t) := by
  obtain ⟨files, rfl, hfiles⟩ := hsame.exists_files
  exact ⟨rfl, hfiles⟩

theorem conclude (hsame : SameBesides place s t) (problem : Problem) :
    SameBesides place (Program.conclude problem s).2 (Program.conclude problem t).2 := by
  unfold Program.conclude
  split
  · exact hsame.tell _
  · exact (hsame.noted _).tell _

/-- A log that is kept elsewhere, on a path where the same kinds of entries stand, is opened alike. -/
theorem opening (hsame : SameBesides place s t) (hplace : place ≠ destination s.here s.logPath)
    (hkind : place ∈ trail s.here s.logPath → SameKind s.files t.files place) :
    (Log.opening t).1 = (Log.opening s).1 ∧
    ∀ other, other ≠ place → (Log.opening t).2.at? other = (Log.opening s).2.at? other := by
  obtain ⟨files, rfl, hfiles⟩ := hsame.exists_files
  let alike : Place → Prop := fun other => other ∈ trail s.here s.logPath ∨ other ≠ place
  have hkinds : ∀ other, alike other → SameKind s.files files other := by
    intro other halike
    by_cases hother : other = place
    · subst hother
      exact hkind (halike.resolve_right fun hne => hne rfl)
    · exact .of_eq (hfiles other hother)
  obtain ⟨hmade, hstay⟩ := makeAll_congr s.here s.logDirectory hkinds fun other hother =>
    .inl (mem_trail_join Log.isStep_logName hother)
  have hlogPath : ({ s with files } : Surroundings).logPath = s.logPath := rfl
  have hlogDirectory : ({ s with files } : Surroundings).logDirectory = s.logDirectory := rfl
  unfold Log.opening
  rw [hlogPath, hlogDirectory]
  dsimp only
  generalize s.files.makeAll s.here s.logDirectory = first at hmade hstay ⊢
  generalize files.makeAll s.here s.logDirectory = first' at hmade hstay ⊢
  obtain ⟨result, after⟩ := first
  obtain ⟨result', after'⟩ := first'
  cases (hmade : result' = result)
  have hafter : ∀ other, other ≠ place → after'.at? other = after.at? other := fun other hother =>
    hstay.entries other (.inr hother) (hfiles other hother)
  cases result with
  | error fault => exact ⟨rfl, hafter⟩
  | ok done =>
      have hfile : after'.fileToWrite s.here s.logPath = after.fileToWrite s.here s.logPath :=
        fileToWrite_congr (fun other hother => hstay.kinds other (.inl hother))
          (hafter _ hplace.symm)
      dsimp only
      unfold openToAppend
      rw [hfile]
      cases after.fileToWrite s.here s.logPath with
      | error fault => exact ⟨rfl, hafter⟩
      | ok found =>
          obtain ⟨kept, content⟩ := found
          cases content with
          | some content => exact ⟨rfl, hafter⟩
          | none =>
              have hput := StayAlike.put hstay.kinds kept (.file [])
              exact ⟨rfl, fun other hother => hput.entries other (.inr hother) (hafter other hother)⟩

theorem start (hsame : SameBesides place s t) (hfresh : s.log = none)
    (hplace : place ≠ destination s.here s.logPath)
    (hkind : place ∈ trail s.here s.logPath → SameKind s.files t.files place) :
    SameBesides place (Log.start s) (Log.start t) := by
  have hfresh' : t.log = none := by
    rw [hsame.rest]
    exact hfresh
  obtain ⟨hopen, hfiles⟩ := hsame.opening hplace hkind
  obtain ⟨files, rfl, -⟩ := hsame.exists_files
  rw [Log.start_eq hfresh, Log.start_eq hfresh', hopen]
  refine SameBesides.noted ?_ (Log.greeting s (Log.opening s).1)
  generalize Log.opening s = opened at hopen hfiles ⊢
  generalize Log.opening { s with files } = opened' at hopen hfiles ⊢
  obtain ⟨result, after⟩ := opened
  obtain ⟨result', after'⟩ := opened'
  cases (hopen : result' = result)
  cases result with
  | error problem => exact ⟨rfl, hfiles⟩
  | ok kept => exact ⟨rfl, hfiles⟩

/-- What stands at the place makes no difference to a command that writes a text. -/
theorem runLogged (hsame : SameBesides place s t)
    (hread : CommandLine.read arguments = .ok (.command command explicit))
    (htext : command.text? = some text) :
    (Program.runLogged arguments t).1 = (Program.runLogged arguments s).1 ∧
    SameBesides place (Program.runLogged arguments s).2 (Program.runLogged arguments t).2 := by
  obtain ⟨problem, hrun⟩ := runLogged_of_text hread htext
  rw [hrun, hrun]
  obtain ⟨files, rfl, hfiles⟩ := hsame.exists_files
  dsimp only
  obtain ⟨result, output⟩ := s.output.write (Utf8.encode text)
  have hwritten : SameBesides place { s with output } { s with files, output } := ⟨rfl, hfiles⟩
  cases result with
  | ok done => exact ⟨rfl, hwritten⟩
  | error fault => exact ⟨fst_conclude _ _ _, hwritten.conclude _⟩

end SameBesides

/-! ## Both kinds of commands -/

/-- A run that writes a text, and to which the configuration is nothing. -/
structure WritesRegardless (s : Surroundings) (arguments : List Text) (text : Text) : Prop where
  /-- The text has been written, as far as it could be. -/
  output : (run arguments s).2.output = (s.output.write (Utf8.encode text)).2
  /-- The run has succeeded if all of it could be written. -/
  status : (s.output.write (Utf8.encode text)).1 = .ok () → (run arguments s).1 = 0
  /-- The same comes about in all other surroundings. -/
  regardless : ∀ t : Surroundings, t.log = none → t.output = s.output →
    (run arguments t).1 = (run arguments s).1 ∧
    (run arguments t).2.output = (run arguments s).2.output
  /-- Nothing is made but the log and the directories on the way to it. -/
  files : (Log.starting s).Covers s.files (run arguments s).2.files
  /-- The configuration file is what it was, and none has been made. -/
  configuration : ∀ content,
    (run arguments s).2.files.at? (destination s.here s.configPath) = some (.file content) ↔
      s.files.at? (destination s.here s.configPath) = some (.file content)
  /-- What stands at the place of the configuration file leaves no trace elsewhere, unless the log is
  below that place. -/
  unseen : ∀ t, SameBesides (destination s.here s.configPath) s t →
    (destination s.here s.configPath ∈ trail s.here s.logPath →
      SameKind s.files t.files (destination s.here s.configPath)) →
    (run arguments t).1 = (run arguments s).1 ∧
    SameBesides (destination s.here s.configPath) (run arguments s).2 (run arguments t).2

theorem covers_run_of_text (hfresh : s.log = none)
    (hread : CommandLine.read arguments = .ok (.command command explicit))
    (htext : command.text? = some text) :
    (Log.starting s).Covers s.files (run arguments s).2.files := by
  obtain ⟨problem, hrun⟩ := runLogged_of_text hread htext
  have hlogs : (Log.start s).LogsWithin (Log.starting s) := fun place hplace =>
    Log.logsTo_start hfresh hplace
  refine (Log.covers_start hfresh).trans ?_
  unfold run
  rw [hrun]
  obtain ⟨result, output⟩ := (Log.start s).output.write (Utf8.encode text)
  cases result with
  | ok done => exact .refl _ _
  | error fault => exact (leads_conclude (problem fault) { Log.start s with output } hlogs).2

theorem output_runLogged_of_text (hread : CommandLine.read arguments = .ok (.command command explicit))
    (htext : command.text? = some text) (s : Surroundings) :
    (runLogged arguments s).2.output = (s.output.write (Utf8.encode text)).2 ∧
    ((s.output.write (Utf8.encode text)).1 = .ok () → (runLogged arguments s).1 = 0) := by
  obtain ⟨problem, hrun⟩ := runLogged_of_text hread htext
  rw [hrun]
  obtain ⟨result, output⟩ := s.output.write (Utf8.encode text)
  cases result with
  | ok done => exact ⟨rfl, fun _ => rfl⟩
  | error fault => exact ⟨output_conclude _ _, fun hwritten => by cases hwritten⟩

theorem fst_runLogged_of_text (hread : CommandLine.read arguments = .ok (.command command explicit))
    (htext : command.text? = some text) (houtput : t.output = s.output) :
    (runLogged arguments t).1 = (runLogged arguments s).1 := by
  obtain ⟨problem, hrun⟩ := runLogged_of_text hread htext
  rw [hrun, hrun, houtput]
  obtain ⟨result, output⟩ := s.output.write (Utf8.encode text)
  cases result with
  | ok done => rfl
  | error fault => exact fst_conclude _ _ _

theorem writesRegardless (hfresh : s.log = none)
    (hread : CommandLine.read arguments = .ok (.command command explicit))
    (htext : command.text? = some text) : WritesRegardless s arguments text := by
  have houtcome := fun t => output_runLogged_of_text hread htext (Log.start t)
  have hcovers := covers_run_of_text hfresh hread htext
  exact
    { output := by
        rw [← output_start hfresh]
        exact (houtcome s).1
      status := by
        rw [← output_start hfresh]
        exact (houtcome s).2
      regardless := by
        intro t hfresh' houtput
        have hstarted : (Log.start t).output = (Log.start s).output := by
          rw [output_start hfresh, output_start hfresh', houtput]
        refine ⟨fst_runLogged_of_text hread htext hstarted, ?_⟩
        unfold run
        rw [(houtcome t).1, (houtcome s).1, hstarted]
      files := hcovers
      configuration := Log.configuration_of_covers hcovers
      unseen := fun t hsame hkind =>
        (hsame.start hfresh (Log.destination_configPath_ne s s) hkind).runLogged hread htext }

/-- **Runs without a configuration.**  Where the configuration cannot be loaded, whatever the reason, a
command about a document tells of the problem and has done nothing else but start the log, make
directories and perhaps begin a configuration file where there was none: it writes nothing, asks no
server, makes no temporary file and leaves a configuration file that is there as it is.  The commands
that only write a text do so there as everywhere; they make no configuration file, and what stands in
its place is nothing to them. -/
theorem run_unconfigured (hfresh : s.log = none)
    (hread : CommandLine.read arguments = .ok (.command command explicit)) :
    (command.text? = none → LoadFails s → EndsEarly s (run arguments s)) ∧
    ∀ text, command.text? = some text → WritesRegardless s arguments text := by
  refine ⟨?_, fun text htext => writesRegardless hfresh hread htext⟩
  intro hneeds hfails
  obtain ⟨problem, s', hload⟩ := hfails.exists_load hfresh
  exact endsEarly_of_load_error hfresh hread hneeds hload

/-- A home directory with a configuration file that has a string in place of a number. -/
def mistypedHome : Surroundings :=
  { files :=
      { entries :=
          [(["home".toList], .directory),
            (["home".toList, ".config".toList], .directory),
            (["home".toList, ".config".toList, "opname".toList], .directory),
            (["home".toList, ".config".toList, "opname".toList, "config.toml".toList],
              .file (Utf8.encode "skip_lines = \"two\"\n".toList))] }
    values := [("HOME".toList, "/home".toList)] }

/-- The same with a configuration. -/
def mendedHome : Surroundings :=
  { mistypedHome with
    files := mistypedHome.files.put (destination [] mistypedHome.configPath)
      (.file Config.standardContent) }

theorem run_unconfigured_mistypedHome :
    LoadFails mistypedHome ∧
    EndsEarly mistypedHome (run ["pairs".toList, "--url=http://h/".toList] mistypedHome) ∧
    (run ["man".toList] mistypedHome).1 = 0 ∧
    (run ["man".toList] mendedHome).1 = 0 ∧
    (run ["man".toList] mendedHome).2.output = (run ["man".toList] mistypedHome).2.output := by
  have hfails : LoadFails mistypedHome := by
    have hnone : (Config.load mistypedHome).1.toOption.isNone = true := by decide +kernel
    cases hload : (Config.load mistypedHome).1 with
    | error problem => exact .before rfl hload
    | ok config =>
        rw [hload] at hnone
        cases hnone
  have hpairs : CommandLine.read ["pairs".toList, "--url=http://h/".toList] =
      .ok (.command (.operators .pair (some "http://h/".toList) none) true) := rfl
  have hmanual : CommandLine.read ["man".toList] = .ok (.command .manual true) := rfl
  obtain ⟨hearly, -⟩ := run_unconfigured (s := mistypedHome) rfl hpairs
  obtain ⟨-, hwrites⟩ := run_unconfigured (s := mistypedHome) rfl hmanual
  have hregardless := hwrites _ rfl
  obtain ⟨hstatus, houtput⟩ := hregardless.regardless mendedHome rfl rfl
  have hsuccess := hregardless.status rfl
  exact ⟨hfails, hearly rfl hfails, hsuccess, hstatus.trans hsuccess, houtput⟩

end Program

end OperatorNames
