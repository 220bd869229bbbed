import OperatorNames.Config.Store
import OperatorNames.Proofs.Config.RoundTrip
import OperatorNames.Proofs.FileSystem.MakeAll
import OperatorNames.Proofs.Surroundings.KeepsFiles
import OperatorNames.Proofs.Text.Utf8

/-!
# Loading the configuration

What loading comes to, read off the files (`load_apply`): the directories of the configuration file
are made, and then the file is read if it is there (`ofFile_apply`) and made if it is not
(`create_apply`).  Files and directories are changed only within `loading` (`covers_load`); with what
octets the file is made, and what loading comes to then, is said by `Makes`.
-/

namespace OperatorNames

open FileSystem Surroundings Text

theorem Job.makeAll_apply (path : Text) (s : Surroundings) :
    Job.makeAll path s =
      match s.files.makeAll s.here path with
      | (.error fault, files) => (.error (.file fault), { s with files })
      | (.ok (), files) => (.ok (), { s with files }) :=
  Job.alter_apply _ s

namespace Config

/-! ## The standard configuration in writing -/

/-- The document of the standard configuration. -/
def standardDocument : Text :=
  "source_url = \"https://raw.githubusercontent.com/WebAssembly/simd/main/".toList
    ++ "proposals/simd/ImplementationStatus.md\"\nskip_lines = 2\nmax_redirections = 10\n".toList

/-- The octets of the configuration file that is made. -/
def standardContent : Bytes :=
  Utf8.encode standardDocument

theorem toToml_standard : standard.toToml = .ok standardDocument := by
  have hwritten : standard.toToml.toOption = some standardDocument := by decide +kernel
  exact eq_ok_of_toOption hwritten

theorem fits_standard : standard.Fits where
  skipLines := by decide
  connectTimeout n hn := by cases hn
  timeout n hn := by cases hn

theorem ofToml_standardDocument : ofToml standardDocument = .ok standard := by
  have hwrite := toToml_of_fits fits_standard
  rw [toToml_standard, Except.ok.injEq] at hwrite
  rw [hwrite]
  exact ofToml_of_fits fits_standard

/-! ## Reading and making the file -/

/-- The configuration that octets hold. -/
def ofContent (content : Bytes) : Except Problem Config :=
  match Utf8.decode content with
  | none => .error (.file .notUtf8)
  | some document =>
    match ofToml document with
    | .ok config => .ok config
    | .error problem => .error (.configuration problem)

/-- The configuration in the file at a path. -/
def reading (files : FileSystem) (here : Place) (path : Text) : Except Problem Config :=
  match files.read here path with
  | .error fault => .error (.file fault)
  | .ok content => ofContent content

theorem ofContent_standardContent : ofContent standardContent = .ok standard := by
  unfold ofContent standardContent
  rw [Utf8.decode_encode]
  dsimp only
  rw [ofToml_standardDocument]

/-- Only a file that holds a configuration is told of; all else is left as it is. -/
def afterReading (path : Text) (s : Surroundings) : Surroundings :=
  match reading s.files s.here path with
  | .ok _ => Job.noted (.configRead path) s
  | .error _ => s

theorem ofFile_apply (path : Text) (s : Surroundings) :
    ofFile path s = (reading s.files s.here path, afterReading path s) := by
  unfold ofFile afterReading reading
  rw [Job.bind_apply]
  unfold Job.inspect
  dsimp only
  cases s.files.read s.here path with
  | error fault => rfl
  | ok content =>
      rw [Job.orProblem_ok]
      dsimp only
      unfold ofContent
      cases Utf8.decode content with
      | none => rfl
      | some document =>
          dsimp only
          rw [Job.bind_apply]
          cases ofToml document with
          | error problem => rfl
          | ok config => rfl

theorem create_apply (path : Text) (s : Surroundings) :
    create path s =
      match s.files.writeWithin s.configStorage s.here path standardContent with
      | (.error fault, files) => (.error (.file fault), { s with files })
      | (.ok (), files) => (.ok standard, Job.noted (.configCreated path) { s with files }) := by
  unfold create standardContent
  rw [toToml_standard, Job.bind_of_ok (Job.orProblem_ok _ _ s), Job.bind_apply, Job.alter_apply]
  obtain ⟨result, files⟩ := s.files.writeWithin s.configStorage s.here path
    (Utf8.encode standardDocument)
  cases result with
  | error fault => rfl
  | ok done => rfl

/-- The configuration once the directories are there. -/
def atPath (path : Text) : Job Config :=
  fun s => if s.files.has s.here path then ofFile path s else create path s

theorem load_apply (s : Surroundings) :
    load s =
      match s.files.makeAll s.here s.configDirectory with
      | (.error fault, files) => (.error (.file fault), { s with files })
      | (.ok (), files) => atPath s.configPath { s with files } := by
  unfold load locate
  rw [Job.bind_apply, Job.bind_of_ok (Job.see_apply _ s), Job.bind_apply, Job.makeAll_apply]
  obtain ⟨result, files⟩ := s.files.makeAll s.here s.configDirectory
  cases result with
  | error fault => rfl
  | ok done =>
      show (if files.has s.here s.configPath then ofFile s.configPath else create s.configPath)
        { s with files } = atPath s.configPath { s with files }
      unfold atPath
      split <;> rfl

/-! ## The place of the file -/

theorem isStep_programName : IsStep programName := by
  constructor <;> decide

theorem isStep_configName : IsStep "config.toml".toList := by
  constructor <;> decide

theorem destination_configPath (s : Surroundings) :
    destination s.here s.configPath =
      destination s.here s.configDirectory ++ ["config.toml".toList] := by
  unfold configPath
  rw [destination_join isStep_configName, advance_of_name (by decide) (by decide)]

theorem configDirectory_congr {s t : Surroundings} (hvalues : t.values = s.values)
    (haccount : t.accountHome = s.accountHome) : t.configDirectory = s.configDirectory := by
  unfold configDirectory ownDirectory home valueOf?
  rw [hvalues, haccount]

theorem configPath_congr {s t : Surroundings} (hvalues : t.values = s.values)
    (haccount : t.accountHome = s.accountHome) : t.configPath = s.configPath := by
  unfold configPath
  rw [configDirectory_congr hvalues haccount]

theorem asksForDirectory_configPath (s : Surroundings) :
    asksForDirectory s.configPath = false :=
  asksForDirectory_join isStep_configName _

/-- A file is where its path leads, unless the path cannot be walked. -/
theorem has_eq_false {files : FileSystem} {here place : Place} {path : Text}
    (hpath : asksForDirectory path = false) (hhas : files.has here path = false)
    (hwalk : files.walk here path = .ok place) : files.at? place = none := by
  unfold has find at hhas
  rw [hwalk] at hhas
  simp only [bind, Except.bind, hpath] at hhas
  cases hstands : files.at? place with
  | none => rfl
  | some entry =>
      rw [hstands] at hhas
      cases entry <;> cases hhas

/-! ## What loading changes -/

/-- With what octets the configuration file is made, and what loading comes to then. -/
inductive Makes (storage : Storage) : Except Problem Config → Bytes → Prop
  /-- The standard configuration has been written in whole. -/
  | whole (hfits : storage.overflow? standardContent = none) :
      Makes storage (.ok standard) standardContent
  /-- Writing it has failed after a first part. -/
  | part {fault : Fault} (hover : storage.overflow? standardContent = some fault) :
      Makes storage (.error (.file fault)) (storage.kept standardContent)

theorem Makes.eq_kept {storage : Storage} {result : Except Problem Config} {content : Bytes}
    (hmakes : Makes storage result content) : content = storage.kept standardContent := by
  cases hmakes with
  | whole hfits => exact (Storage.kept_of_overflow?_none hfits).symm
  | part hover => rfl

/-- What loading may change if it comes to a result: directories on the way to the configuration file
are made, and the file itself; the log may grow. -/
def loading (s : Surroundings) (result : Except Problem Config) : Footprint where
  directories := (· ∈ trail s.here s.configDirectory)
  logs := s.LogsTo
  files place content :=
    place = destination s.here s.configPath ∧ Makes s.configStorage result content

/-- A notice only adds to the log. -/
theorem covers_noted {f : Footprint} (notice : Log.Notice) {s : Surroundings}
    (hlogs : ∀ place, s.LogsTo place → f.logs place) :
    f.Covers s.files (Job.noted notice s).files := by
  obtain h | ⟨record, h⟩ | ⟨log, place, record, hlog, hsink, -, h⟩ := Job.noted_cases notice s
  · rw [h]
    exact .refl f s.files
  · rw [h]
    exact .refl f s.files
  · rw [h]
    exact .append (hlogs place ⟨log, hlog, hsink⟩) record

/-- A file that is made takes a place that was free. -/
theorem covers_made {s : Surroundings} {result : Except Problem Config} {content : Bytes}
    {found : Option Bytes} (hhas : s.files.has s.here s.configPath = false)
    (hfile : s.files.fileToWrite s.here s.configPath =
      .ok (destination s.here s.configPath, found))
    (hmakes : Makes s.configStorage result content) :
    (loading s result).Covers s.files
      (s.files.put (destination s.here s.configPath) (.file content)) := by
  obtain ⟨hwalk, -, -⟩ := fileToWrite_eq_ok hfile
  refine .put ?_
  rw [has_eq_false (asksForDirectory_configPath s) hhas hwalk]
  exact .made ⟨rfl, hmakes⟩

theorem covers_atPath (s : Surroundings) :
    (loading s (atPath s.configPath s).1).Covers s.files (atPath s.configPath s).2.files := by
  unfold atPath
  split
  · rw [ofFile_apply]
    unfold afterReading
    split
    · exact covers_noted _ fun _ hlogs => hlogs
    · exact .refl _ _
  · next hhas =>
      have hhas : s.files.has s.here s.configPath = false := by simpa using hhas
      rw [create_apply]
      obtain ⟨fault, hwrite⟩ | ⟨found, hfile, ⟨fault, hover, hwrite⟩ | ⟨hfits, hwrite⟩⟩ :=
        writeWithin_cases s.files s.configStorage s.here s.configPath standardContent
      · rw [hwrite]
        exact .refl _ _
      · rw [hwrite]
        exact covers_made hhas hfile (.part hover)
      · rw [hwrite]
        have hmade := covers_made hhas hfile (.whole hfits)
        exact hmade.trans (covers_noted (s := { s with files := _ }) _ fun _ hlogs => hlogs)

/-- **Loading changes nothing but** the directories that lead to the configuration file, that file
where it is missing, and the log. -/
theorem covers_load (s : Surroundings) : (loading s (load s).1).Covers s.files (load s).2.files := by
  have hmade := fun result => covers_makeAll (f := loading s result) s.files s.here s.configDirectory
    fun _ hother => hother
  rw [load_apply]
  split
  · next hall =>
      rw [hall] at hmade
      exact hmade _
  · next files hall =>
      rw [hall] at hmade
      exact (hmade _).trans (covers_atPath { s with files })

end Config

end OperatorNames
