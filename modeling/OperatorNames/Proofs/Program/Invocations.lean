import OperatorNames.Program
import OperatorNames.Proofs.Log.Start
import OperatorNames.Proofs.Run.Leftover

/-!
# What invocations change

An invocation of the program makes directories on the way to its log and to its configuration file,
these two files where they are missing, and adds to its log; nothing else changes (`covers_run`).  So
in a sequence of invocations, each with its own surroundings, what was there stays there, and only
logs grow (`changes_carriedOut`).  A configuration file that could not be written to its end stays as
it was left, since no later invocation changes it (`configuration_cut_short`).
-/

namespace OperatorNames

open FileSystem Surroundings Text

/-! ## Jobs within a footprint -/

/-- Records go only where files may be added to. -/
def Surroundings.LogsWithin (f : Footprint) (s : Surroundings) : Prop :=
  ∀ place, s.LogsTo place → f.logs place

/-- The files change only within a footprint, and records still go only where they may. -/
def Footprint.Leads (f : Footprint) (before after : Surroundings) : Prop :=
  before.LogsWithin f → after.LogsWithin f ∧ f.Covers before.files after.files

section Leads

variable {f : Footprint} {before after : Surroundings}

theorem Footprint.Leads.trans {s t u : Surroundings} (hfirst : f.Leads s t) (hsecond : f.Leads t u) :
    f.Leads s u := by
  intro hlogs
  obtain ⟨hlogs', hcovers⟩ := hfirst hlogs
  obtain ⟨hlogs'', hcovers'⟩ := hsecond hlogs'
  exact ⟨hlogs'', hcovers.trans hcovers'⟩

instance : Std.Refl f.Leads :=
  ⟨fun s hlogs => ⟨hlogs, .refl f s.files⟩⟩

instance : Trans f.Leads f.Leads f.Leads :=
  ⟨Footprint.Leads.trans⟩

theorem Surroundings.LogsWithin.of_log (hlogs : before.LogsWithin f) (hlog : after.log = before.log) :
    after.LogsWithin f :=
  fun place hplace => hlogs place ((logsTo_congr hlog place).mp hplace)

theorem Footprint.leads_of_eq (hlog : after.log = before.log) (hfiles : after.files = before.files) :
    f.Leads before after := by
  intro hlogs
  rw [hfiles]
  exact ⟨hlogs.of_log hlog, .refl f before.files⟩

/-- Where files are kept, only the log may have grown. -/
theorem Footprint.leads_of_keepsFiles (hkeeps : KeepsFiles before after) : f.Leads before after := by
  intro hlogs
  refine ⟨hlogs.of_log hkeeps.log, ?_⟩
  intro place
  by_cases hplace : before.LogsTo place
  · obtain ⟨more, hmore⟩ := hkeeps.logFile place hplace
    rw [hmore]
    cases before.files.at? place with
    | none => exact .kept _
    | some entry =>
        cases entry with
        | directory => exact .kept _
        | file content => exact .grown (hlogs place hplace) content more
  · rw [hkeeps.elsewhere place hplace]
    exact .kept _

theorem Job.Within.leads {job : Job α} (hjob : Job.Within KeepsFiles job) : Job.Within f.Leads job :=
  fun s => Footprint.leads_of_keepsFiles (hjob s)

end Leads

/-! ## One invocation -/

/-- What an invocation may change: directories on the way to its log and to its configuration file,
and these two files.  The configuration file is made with as much of the standard configuration as
there is room for. -/
def Surroundings.own (s : Surroundings) : Footprint where
  directories place := place ∈ trail s.here s.logDirectory ∨ place ∈ trail s.here s.configDirectory
  logs place := place = destination s.here s.logPath
  files place content := place = destination s.here s.configPath ∧
    content = s.configStorage.kept Config.standardContent

theorem starting_le_own (s : Surroundings) : (Log.starting s).Le s.own where
  directories _ hplace := .inl hplace
  logs _ hplace := hplace
  files _ _ hplace := hplace.elim

/-- Starting the log leaves it where the configuration file is looked for and what becomes of it. -/
theorem loading_start {s : Surroundings} (hfresh : s.log = none) (result : Except Problem Config) :
    Config.loading (Log.start s) result =
      { Config.loading s result with logs := (Log.start s).LogsTo } := by
  obtain ⟨files, log, messages, hstarted⟩ := Log.exists_start_eq hfresh
  rw [hstarted]
  rfl

theorem loading_le_own {s : Surroundings} (hfresh : s.log = none) (result : Except Problem Config) :
    (Config.loading (Log.start s) result).Le s.own := by
  rw [loading_start hfresh]
  exact
    { directories := fun _ hplace => .inr hplace
      logs := fun _ hplace => Log.logsTo_start hfresh hplace
      files := fun _ _ hplace => ⟨hplace.1, hplace.2.eq_kept⟩ }

namespace Program

theorem log_load (s : Surroundings) : (Config.load s).2.log = s.log := by
  have hatPath : ∀ t : Surroundings, (Config.atPath s.configPath t).2.log = t.log := by
    intro t
    unfold Config.atPath
    split
    · rw [Config.ofFile_apply]
      unfold Config.afterReading
      split
      · exact Job.noted_log _ _
      · rfl
    · rw [Config.create_apply]
      split
      · rfl
      · exact Job.noted_log _ _
  rw [Config.load_apply]
  split
  · rfl
  · exact hatPath _

theorem keepsFiles_print (problem : Fault → Problem) (t : Text) :
    Job.Within KeepsFiles (print problem t) := by
  intro s
  unfold print
  dsimp only
  cases (s.output.write (Utf8.encode t)).1 with
  | ok done => exact .of_eq rfl rfl rfl rfl rfl
  | error fault => exact .of_eq rfl rfl rfl rfl rfl

theorem keepsFiles_writeOperators (config : Config) (style : Style) (url file : Option Text) :
    Job.Within KeepsFiles (writeOperators config style url file) := by
  refine .bind (keepsFiles_run _ config style) fun summary => ?_
  cases summary.digest with
  | none => exact .pure ()
  | some digest => exact KeepsFiles.noted _

theorem keepsFiles_writeDigest (config : Config) (url : Option Text) :
    Job.Within KeepsFiles (writeDigest config url) :=
  .bind (keepsFiles_digestOfUrl _ config) fun _ => keepsFiles_print _ _

/-- A command changes files only as the loading of the configuration does, and adds to the log. -/
theorem leads_perform {s : Surroundings} {f : Footprint}
    (hload : f.Leads s (Config.load s).2) (command : Command) :
    f.Leads s (perform command s).2 := by
  have hconfiguration : f.Leads s (configuration s).2 :=
    Job.Within.bind_at hload fun config =>
      Job.Within.bind (Job.Within.leads (KeepsFiles.noted _)) fun _ => .pure config
  cases command with
  | operators style url file =>
      exact Job.Within.bind_at hconfiguration fun config =>
        (keepsFiles_writeOperators config style url file).leads
  | digest url =>
      exact Job.Within.bind_at hconfiguration fun config => (keepsFiles_writeDigest config url).leads
  | completions shell => exact (keepsFiles_print _ _).leads s
  | manual => exact (keepsFiles_print _ _).leads s

theorem leads_tell {f : Footprint} (t : Text) (s : Surroundings) : f.Leads s (tell t s) :=
  Footprint.leads_of_eq rfl rfl

theorem leads_conclude {f : Footprint} (problem : Problem) (s : Surroundings) :
    f.Leads s (conclude problem s).2 := by
  have hnoted : f.Leads s (Job.noted (.failed problem) s) :=
    Footprint.leads_of_keepsFiles (KeepsFiles.noted _ s)
  unfold conclude
  split
  · exact leads_tell _ s
  · exact hnoted.trans (leads_tell _ _)

theorem leads_runLogged {f : Footprint} {s : Surroundings}
    (hload : f.Leads s (Config.load s).2) (arguments : List Text) :
    f.Leads s (runLogged arguments s).2 := by
  unfold runLogged
  split
  · exact leads_tell _ s
  · exact (keepsFiles_print _ _).leads s
  · next command _ _ =>
      have hperform := leads_perform hload command
      split
      · next hrun =>
          rw [hrun] at hperform
          exact hperform
      · next hrun =>
          rw [hrun] at hperform
          exact hperform.trans (leads_conclude _ _)

/-- **An invocation keeps to its footprint**, whatever its arguments are and whatever it comes to. -/
theorem covers_run {s : Surroundings} (hfresh : s.log = none) (arguments : List Text) :
    s.own.Covers s.files (run arguments s).2.files := by
  have hlogs : (Log.start s).LogsWithin s.own := fun place hplace => Log.logsTo_start hfresh hplace
  have hstart := (Log.covers_start hfresh).mono (starting_le_own s)
  have hload : s.own.Leads (Log.start s) (Config.load (Log.start s)).2 := by
    intro _
    exact ⟨hlogs.of_log (log_load _), (Config.covers_load _).mono (loading_le_own hfresh _)⟩
  exact hstart.trans (leads_runLogged hload arguments hlogs).2

end Program

/-! ## A sequence of invocations -/

/-- An invocation of the program. -/
structure Invocation where
  /-- The arguments, without the name of the program. -/
  arguments : List Text
  /-- The surroundings; the files are those that are there when its turn comes, and no log has been
  installed then. -/
  conditions : Surroundings

namespace Invocation

/-- The surroundings in which an invocation finds itself. -/
def found (i : Invocation) (files : FileSystem) : Surroundings :=
  { i.conditions with files, log := none }

/-- The files after an invocation. -/
def leaves (files : FileSystem) (i : Invocation) : FileSystem :=
  (Program.run i.arguments (i.found files)).2.files

/-- The place of the log of an invocation. -/
def logPlace (i : Invocation) : Place :=
  destination i.conditions.here i.conditions.logPath

/-- The place of the configuration file of an invocation. -/
def configPlace (i : Invocation) : Place :=
  destination i.conditions.here i.conditions.configPath

/-- The files after invocations, one after the other. -/
def carriedOut (files : FileSystem) (invocations : List Invocation) : FileSystem :=
  invocations.foldl leaves files

/-- What some of a number of invocations may change. -/
def footprint (invocations : List Invocation) : Footprint where
  directories place := ∃ i ∈ invocations, i.conditions.own.directories place
  logs place := ∃ i ∈ invocations, place = i.logPlace
  files place content := ∃ i ∈ invocations, i.conditions.own.files place content

theorem own_le_footprint {i : Invocation} {invocations : List Invocation} (hi : i ∈ invocations) :
    i.conditions.own.Le (footprint invocations) where
  directories _ hplace := ⟨i, hi, hplace⟩
  logs _ hplace := ⟨i, hi, hplace⟩
  files _ _ hplace := ⟨i, hi, hplace⟩

theorem covers_leaves (i : Invocation) (files : FileSystem) :
    i.conditions.own.Covers files (leaves files i) :=
  Program.covers_run (s := i.found files) rfl i.arguments

theorem covers_next (files : FileSystem) (before : List Invocation) (i : Invocation) :
    i.conditions.own.Covers (carriedOut files before) (carriedOut files (before ++ [i])) := by
  unfold carriedOut
  rw [List.foldl_append]
  exact covers_leaves i _

theorem covers_carriedOut {f : Footprint} (files : FileSystem) (invocations : List Invocation)
    (hle : ∀ i ∈ invocations, i.conditions.own.Le f) :
    f.Covers files (carriedOut files invocations) := by
  induction invocations generalizing files with
  | nil => exact .refl f files
  | cons i later ih =>
      have hfirst := (covers_leaves i files).mono (hle i List.mem_cons_self)
      exact hfirst.trans (ih _ fun j hj => hle j (List.mem_cons_of_mem i hj))

theorem configPlace_ne_logPlace (i j : Invocation) : i.configPlace ≠ j.logPlace :=
  Log.destination_configPath_ne i.conditions j.conditions

end Invocation

open Invocation

/-- **What a sequence of invocations changes.**  Each of them, whatever its arguments are, whatever
surroundings it finds and whatever it comes to, makes directories on the way to its log and to its
configuration file, its log where it is missing, its configuration file where that is missing, and
adds to its log; every other place is left as it is.  A configuration file that is made holds the
standard configuration or, where there was no room for all of it, a first part.  So over the whole
sequence places outside all these stay as they are, directories stay directories, files keep what they
held as the beginning of what they hold, and what stands at a place that is the log of none of the
invocations is not changed; a configuration file never is. -/
theorem changes_carriedOut (files : FileSystem) (invocations : List Invocation) :
    (∀ before i after, invocations = before ++ i :: after →
      i.conditions.own.Covers (carriedOut files before) (carriedOut files (before ++ [i]))) ∧
    (∀ before i after, invocations = before ++ i :: after →
      (carriedOut files before).at? i.configPlace = none → ∀ content,
      (carriedOut files (before ++ [i])).at? i.configPlace = some (.file content) →
      ∃ document, Config.standard.toToml = .ok document ∧ content <+: Utf8.encode document ∧
        (i.conditions.configStorage.overflow? (Utf8.encode document) = none →
          content = Utf8.encode document)) ∧
    (∀ place, (∀ i ∈ invocations, ¬ i.conditions.own.directories place ∧ place ≠ i.logPlace ∧
        place ≠ i.configPlace) →
      (carriedOut files invocations).at? place = files.at? place) ∧
    (∀ place, files.at? place = some .directory →
      (carriedOut files invocations).at? place = some .directory) ∧
    (∀ place content, files.at? place = some (.file content) →
      ∃ more, (carriedOut files invocations).at? place = some (.file (content ++ more))) ∧
    (∀ place entry, files.at? place = some entry → (∀ i ∈ invocations, place ≠ i.logPlace) →
      (carriedOut files invocations).at? place = some entry) ∧
    (∀ i : Invocation, ∀ entry, files.at? i.configPlace = some entry →
      (carriedOut files invocations).at? i.configPlace = some entry) := by
  have hcovers := covers_carriedOut files invocations fun i hi => own_le_footprint hi
  have hstays : ∀ place entry, files.at? place = some entry →
      (∀ i ∈ invocations, place ≠ i.logPlace) →
      (carriedOut files invocations).at? place = some entry := by
    intro place entry hstands hplace
    have hturn := hcovers place
    rw [hstands] at hturn
    refine hturn.entry_stays ?_
    rintro ⟨i, hi, hlog⟩
    exact hplace i hi hlog
  refine ⟨fun before i _ _ => covers_next files before i, ?_, ?_, ?_, ?_, hstays, ?_⟩
  · rintro before i after - hfree content hmade
    have hturn := covers_next files before i i.configPlace
    rw [hmade] at hturn
    obtain hwas | ⟨-, -, rfl⟩ := hturn.file_was (configPlace_ne_logPlace i i)
    · rw [hfree] at hwas
      cases hwas
    · exact ⟨Config.standardDocument, Config.toToml_standard, Storage.kept_isPrefix _ _,
        Storage.kept_of_overflow?_none⟩
  · intro place houtside
    refine (hcovers place).untouched ?_ ?_ ?_
    · rintro ⟨i, hi, hdirectory⟩
      exact (houtside i hi).1 hdirectory
    · rintro ⟨i, hi, hlog⟩
      exact (houtside i hi).2.1 hlog
    · rintro content ⟨i, hi, hconfig, -⟩
      exact (houtside i hi).2.2 hconfig
  · intro place hstands
    have hturn := hcovers place
    rw [hstands] at hturn
    exact hturn.directory_stays
  · intro place content hstands
    have hturn := hcovers place
    rw [hstands] at hturn
    exact hturn.file_stays
  · intro i entry hstands
    exact hstays _ entry hstands fun j _ => configPlace_ne_logPlace i j

/-- The writing of operators where the device has room for twenty octets of the configuration file. -/
def crampedInvocation : Invocation where
  arguments := ["names".toList, "--file".toList, "/doc.md".toList]
  conditions :=
    { values := [("HOME".toList, "/home".toList)], configStorage := .limited 20 .noSpace }

/-- The writing of operators where the configuration file is named as the document. -/
def selfNamingInvocation : Invocation where
  arguments := ["names".toList, "--file".toList, "/home/.config/opname/config.toml".toList]
  conditions := { values := [("HOME".toList, "/home".toList)] }

/-- A configuration file that could not be written to its end is left as it is, by that invocation and
by the next one; and a document that is named may come about as the configuration file. -/
theorem configuration_cut_short :
    (carriedOut {} []).at? crampedInvocation.configPlace = none ∧
    (carriedOut {} [crampedInvocation]).at? crampedInvocation.configPlace =
      some (.file (Utf8.encode "source_url = \"https:".toList)) ∧
    (carriedOut {} [crampedInvocation, crampedInvocation]).at? crampedInvocation.configPlace =
      some (.file (Utf8.encode "source_url = \"https:".toList)) ∧
    Config.standard.toToml.toOption ≠ some "source_url = \"https:".toList ∧
    destination [] "/home/.config/opname/config.toml".toList = selfNamingInvocation.configPlace ∧
    selfNamingInvocation.configPlace ≠ selfNamingInvocation.logPlace ∧
    (carriedOut {} []).at? selfNamingInvocation.configPlace = none ∧
    (carriedOut {} [selfNamingInvocation]).at? selfNamingInvocation.configPlace =
      some (.file Config.standardContent) := by
  refine ⟨rfl, ?_, ?_, ?_, ?_, ?_, rfl, ?_⟩ <;> decide +kernel

end OperatorNames
