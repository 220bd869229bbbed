import OperatorNames.Proofs.Config.FirstRun
import OperatorNames.Proofs.FileSystem.Passage

/-!
# Loading that fails

A load that fails has changed files within its footprint and has done nothing else (`load_eq_error`):
it has made directories and, where the configuration file could not be written to its end, left the
first part.  A load that succeeds does so because of the configuration file and of what is not in the
way to it, so that it succeeds without other files and directories too (`fst_load_of_covers`).
-/

namespace OperatorNames

open FileSystem Surroundings Text

namespace Config

/-! ## What a failing load has done -/

/-- A problem that loading comes to. -/
inductive IsLoadProblem : Problem → Prop
  /-- Something cannot be made, read or written. -/
  | file (fault : Fault) : IsLoadProblem (.file fault)
  /-- The file holds no configuration. -/
  | configuration (problem : ReadProblem) : IsLoadProblem (.configuration problem)

theorem isLoadProblem_of_ofContent {content : Bytes} {problem : Problem}
    (hcontent : ofContent content = .error problem) : IsLoadProblem problem := by
  unfold ofContent at hcontent
  split at hcontent
  · cases hcontent
    exact .file _
  · split at hcontent
    · cases hcontent
    · cases hcontent
      exact .configuration _

theorem isLoadProblem_of_reading {files : FileSystem} {here : Place} {path : Text}
    {problem : Problem} (hread : reading files here path = .error problem) :
    IsLoadProblem problem := by
  unfold reading at hread
  split at hread
  · cases hread
    exact .file _
  · exact isLoadProblem_of_ofContent hread

/-- A file that cannot be read is left as it is, one that cannot be made holds what could be written of
it, and nothing is told of either. -/
theorem atPath_eq_error {path : Text} {problem : Problem} {s s' : Surroundings}
    (hpath : atPath path s = (.error problem, s')) :
    IsLoadProblem problem ∧ ∃ files, s' = { s with files } := by
  unfold atPath at hpath
  split at hpath
  · rw [ofFile_apply, Prod.mk.injEq] at hpath
    obtain ⟨hread, hafter⟩ := hpath
    refine ⟨isLoadProblem_of_reading hread, s.files, ?_⟩
    unfold afterReading at hafter
    rw [hread] at hafter
    exact hafter.symm
  · rw [create_apply] at hpath
    split at hpath
    · cases hpath
      exact ⟨.file _, _, rfl⟩
    · cases hpath

/-- **A failing load** has changed files, and that is all; which files, is said by `covers_load`. -/
theorem load_eq_error {s s' : Surroundings} {problem : Problem}
    (hload : load s = (.error problem, s')) :
    IsLoadProblem problem ∧ ∃ files, s' = { s with files } := by
  rw [load_apply] at hload
  generalize s.files.makeAll s.here s.configDirectory = all at hload
  obtain ⟨result, files⟩ := all
  cases result with
  | error fault =>
      cases hload
      exact ⟨.file fault, files, rfl⟩
  | ok done =>
      obtain ⟨hproblem, files', hs'⟩ := atPath_eq_error (s := { s with files }) hload
      exact ⟨hproblem, files', hs'⟩

/-! ## What a load that succeeds needs -/

theorem walk_of_reading {files : FileSystem} {here : Place} {path : Text} {config : Config}
    (hread : reading files here path = .ok config) :
    files.walk here path = .ok (destination here path) := by
  unfold reading FileSystem.read at hread
  cases hfind : files.find here path with
  | error fault =>
      rw [hfind] at hread
      cases hread
  | ok found =>
      obtain ⟨place, entry⟩ := found
      obtain ⟨hwalk, rfl, -⟩ := find_eq_ok hfind
      exact hwalk

/-- Once the directories have been made, the path of the file can be walked, and there is a file at its
end or nothing. -/
theorem walk_of_load {s : Surroundings} {config : Config} (hload : (load s).1 = .ok config) :
    ∃ files, s.files.makeAll s.here s.configDirectory = (.ok (), files) ∧
      files.walk s.here s.configPath = .ok (destination s.here s.configPath) ∧
      files.at? (destination s.here s.configPath) ≠ some .directory := by
  obtain ⟨files, hmade, ⟨hread, -⟩ | ⟨hhas, -, ⟨found, hfile⟩, -⟩⟩ := load_eq_ok hload
  · refine ⟨files, hmade, walk_of_reading hread, ?_⟩
    obtain ⟨content, hstands, -⟩ := reading_eq_ok hread
    rw [hstands]
    exact fun hdirectory => by cases hdirectory
  · obtain ⟨hwalk, -, hstands⟩ := fileToWrite_eq_ok hfile
    refine ⟨files, hmade, hwalk, ?_⟩
    rw [has_eq_false (asksForDirectory_configPath s) hhas hwalk]
    exact fun hdirectory => by cases hdirectory

/-- **A load that succeeds** does so without all that has been made in the meantime, if that is not the
configuration file. -/
theorem fst_load_of_covers {s t : Surroundings} {f : Footprint} {config : Config}
    (hhere : t.here = s.here) (hvalues : t.values = s.values)
    (haccount : t.accountHome = s.accountHome) (hstorage : t.configStorage = s.configStorage)
    (hcovers : f.Covers s.files t.files)
    (hlogs : ¬ f.logs (destination s.here s.configPath))
    (hfiles : ∀ content, ¬ f.files (destination s.here s.configPath) content)
    (horigin : s.files.at? (origin s.here s.configDirectory) = some .directory)
    (hload : (load t).1 = .ok config) : (load s).1 = .ok config := by
  have hdirectory := configDirectory_congr hvalues haccount
  have hpath := configPath_congr hvalues haccount
  obtain ⟨files', hmade', hwalk', hstands'⟩ := walk_of_load hload
  rw [load_apply, hmade', hpath] at hload
  rw [hhere, hdirectory] at hmade'
  rw [hhere, hpath] at hwalk' hstands'
  have hwalkJoin : files'.walk s.here (join s.configDirectory "config.toml".toList) = _ := hwalk'
  have hnamed : s.configDirectory ≠ [] := join_ne_nil isStep_programName _
  obtain ⟨above, hwalkAbove, habove⟩ := walk_of_walk_join isStep_configName hnamed hwalkJoin
  obtain ⟨hmade, htrails⟩ := makeAll_of_covers hcovers horigin hmade' hwalkAbove habove
  -- the place of the file is on no trail, so that the same stands there in both
  have hplace : destination s.here s.configPath ∉ trail s.here s.configDirectory :=
    fun hmem => hstands' (htrails _ hmem).1
  have hsame : files'.at? (destination s.here s.configPath) =
      (s.files.makeAll s.here s.configDirectory).2.at? (destination s.here s.configPath) := by
    have hlater := at?_makeAll_of_not_mem t.files hplace
    rw [hmade'] at hlater
    have hturn := hcovers (destination s.here s.configPath)
    rw [← hlater] at hturn
    rw [at?_makeAll_of_not_mem s.files hplace]
    generalize s.files.at? (destination s.here s.configPath) = first at hturn ⊢
    generalize files'.at? (destination s.here s.configPath) = last at hstands' hturn ⊢
    cases hturn with
    | kept => rfl
    | directory => exact absurd rfl hstands'
    | begun hlog => exact absurd hlog hlogs
    | grown hlog => exact absurd hlog hlogs
    | made hfile => exact absurd hfile (hfiles _)
  have hkinds : ∀ other ∈ trail s.here s.configPath,
      SameKind (s.files.makeAll s.here s.configDirectory).2 files' other := by
    intro other hother
    obtain hmem | rfl := mem_trail_of_mem_trail_join isStep_configName hother
    · obtain ⟨hlater, hfirst⟩ := htrails other hmem
      exact .of_eq (hlater.trans hfirst.symm)
    · exact .of_eq hsame
  rw [load_apply]
  generalize s.files.makeAll s.here s.configDirectory = all at hmade hkinds hsame ⊢
  obtain ⟨result, files⟩ := all
  cases (hmade : result = .ok ())
  have hresult : (atPath s.configPath { t with files := files' }).1 =
      (atPath s.configPath { s with files }).1 := fst_atPath_congr hhere hstorage hkinds hsame
  exact hresult.symm.trans hload

end Config

end OperatorNames
