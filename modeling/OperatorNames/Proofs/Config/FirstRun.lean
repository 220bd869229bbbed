import OperatorNames.Proofs.Config.Loading

/-!
# The first run and those after it

The first run makes the configuration file, and every later one reads from it what the first one had
(`load_stable`).  A file that is there is only read.  It may be that a file is there but cannot be
reached, since its path climbs out of a directory that is missing; making the directories of the
path then makes it reachable, and it is read as well.
-/

namespace OperatorNames

open FileSystem Surroundings Text

namespace Config

/-! ## The path of the file -/

/-- The directory below which the configuration is kept: the one that the variable names, if that is
an absolute path, and else one in the home directory. -/
inductive Base (s : Surroundings) : Text → Prop
  /-- The variable names it. -/
  | named {given : Text} (hvalue : s.valueOf? "XDG_CONFIG_HOME" = some given)
      (habsolute : isAbsolute given = true) : Base s given
  /-- It is the usual one. -/
  | usual {home : Text} (hhome : s.valueOf? "HOME" = some home) (habsolute : isAbsolute home = true)
      (hvalue : ∀ given, s.valueOf? "XDG_CONFIG_HOME" = some given → isAbsolute given = false) :
      Base s (join home ".config".toList)

theorem configDirectory_of_base {s : Surroundings} {base : Text} (hbase : Base s base) :
    s.configDirectory = join base programName := by
  unfold configDirectory ownDirectory
  cases hbase with
  | named hvalue habsolute =>
      rw [hvalue]
      dsimp only
      rw [if_pos habsolute]
  | usual hhome habsolute hvalue =>
      have husual : s.home = _ := congrArg (·.getD s.accountHome) hhome
      rw [Option.getD_some] at husual
      rw [husual]
      cases hgiven : s.valueOf? "XDG_CONFIG_HOME" with
      | none => rfl
      | some given =>
          dsimp only
          rw [if_neg (by simp [hvalue given hgiven])]

/-! ## What the result depends on -/

/-- The result depends on no file but the one at the path. -/
theorem fst_atPath_congr {s t : Surroundings} {path : Text} (hhere : t.here = s.here)
    (hstorage : t.configStorage = s.configStorage)
    (hkinds : ∀ other ∈ trail s.here path, SameKind s.files t.files other)
    (hstands : t.files.at? (destination s.here path) = s.files.at? (destination s.here path)) :
    (atPath path t).1 = (atPath path s).1 := by
  have hfind := find_congr hkinds hstands
  have hhas : t.files.has t.here path = s.files.has s.here path := by
    unfold has
    rw [hhere, hfind]
  unfold atPath
  rw [hhas]
  split
  · rw [ofFile_apply, ofFile_apply]
    unfold reading FileSystem.read
    rw [hhere, hfind]
  · obtain ⟨hwrite, -⟩ := writeWithin_congr s.configStorage standardContent hkinds
      (fileToWrite_congr hkinds hstands)
    rw [create_apply, create_apply, hhere, hstorage]
    generalize s.files.writeWithin s.configStorage s.here path standardContent = one at hwrite ⊢
    generalize t.files.writeWithin s.configStorage s.here path standardContent = other at hwrite ⊢
    obtain ⟨result, files⟩ := one
    obtain ⟨result', files'⟩ := other
    cases (hwrite : result' = result)
    cases result with
    | error fault => rfl
    | ok done => rfl

theorem fst_load_congr {s t : Surroundings} (hhere : t.here = s.here) (hvalues : t.values = s.values)
    (haccount : t.accountHome = s.accountHome) (hstorage : t.configStorage = s.configStorage)
    (halike : s.files.Alike t.files)
    (hstands : t.files.at? (destination s.here s.configPath) =
      s.files.at? (destination s.here s.configPath)) :
    (load t).1 = (load s).1 := by
  obtain ⟨hmade, hstay⟩ : _ ∧ StayAlike s.files t.files _ _ fun _ => True :=
    makeAll_congr s.here s.configDirectory (fun other _ => halike other) fun _ _ => trivial
  rw [load_apply, load_apply, hhere, configDirectory_congr hvalues haccount,
    configPath_congr hvalues haccount]
  generalize s.files.makeAll s.here s.configDirectory = all at hmade hstay ⊢
  generalize t.files.makeAll s.here s.configDirectory = all' at hmade hstay ⊢
  obtain ⟨result, files⟩ := all
  obtain ⟨result', files'⟩ := all'
  cases (hmade : result' = result)
  cases result with
  | error fault => rfl
  | ok done =>
      have hkinds : ∀ other ∈ trail s.here s.configPath, SameKind files files' other :=
        fun other _ => hstay.kinds other trivial
      exact @fst_atPath_congr { s with files } { t with files := files', here := s.here } _ rfl
        hstorage hkinds (hstay.entries _ trivial hstands)

/-! ## A file that is there -/

theorem find_of_has {files : FileSystem} {here : Place} {path : Text}
    (hhas : files.has here path = true) :
    ∃ entry, files.find here path = .ok (destination here path, entry) := by
  unfold has at hhas
  cases hfind : files.find here path with
  | error fault =>
      rw [hfind] at hhas
      cases hhas
  | ok found =>
      obtain ⟨place, entry⟩ := found
      obtain ⟨-, rfl, -⟩ := find_eq_ok hfind
      exact ⟨entry, rfl⟩

theorem reading_eq_ok {files : FileSystem} {here : Place} {path : Text} {config : Config}
    (hread : reading files here path = .ok config) :
    ∃ content, files.at? (destination here path) = some (.file content) ∧
      ofContent content = .ok config := by
  unfold reading FileSystem.read at hread
  cases hfind : files.find here path with
  | error fault =>
      rw [hfind] at hread
      cases hread
  | ok found =>
      obtain ⟨place, entry⟩ := found
      obtain ⟨-, rfl, hstands⟩ := find_eq_ok hfind
      rw [hfind] at hread
      cases entry with
      | directory => cases hread
      | file content => exact ⟨content, hstands, hread⟩

/-- A file that can be reached is read, and no directory has to be made for that. -/
theorem load_of_has {s : Surroundings} (hhas : s.files.has s.here s.configPath = true) :
    load s = (reading s.files s.here s.configPath, afterReading s.configPath s) := by
  obtain ⟨entry, hfind⟩ := find_of_has hhas
  have hdirectory : s.configDirectory ≠ [] := join_ne_nil isStep_programName _
  obtain ⟨above, hwalk, hstands⟩ :=
    walk_of_walk_join isStep_configName hdirectory (find_eq_ok hfind).1
  rw [load_apply, makeAll_of_walk hwalk hstands]
  show atPath s.configPath s = _
  unfold atPath
  rw [if_pos hhas, ofFile_apply]

/-- What comes to a configuration after the directories have been made. -/
theorem load_eq_ok {s : Surroundings} {config : Config} (hload : (load s).1 = .ok config) :
    ∃ files, s.files.makeAll s.here s.configDirectory = (.ok (), files) ∧
      ((reading files s.here s.configPath = .ok config ∧
          (load s).2 = Job.noted (.configRead s.configPath) { s with files }) ∨
        (files.has s.here s.configPath = false ∧ config = standard ∧
          (∃ found, files.fileToWrite s.here s.configPath =
            .ok (destination s.here s.configPath, found)) ∧
          (load s).2 = Job.noted (.configCreated s.configPath)
            { s with
              files := files.put (destination s.here s.configPath) (.file standardContent) })) := by
  rw [load_apply] at hload ⊢
  generalize s.files.makeAll s.here s.configDirectory = all at hload ⊢
  obtain ⟨result, files⟩ := all
  cases result with
  | error fault => cases hload
  | ok done =>
      refine ⟨files, rfl, ?_⟩
      dsimp only at hload ⊢
      unfold atPath at hload ⊢
      split at hload
      · next hhas =>
          rw [if_pos hhas]
          rw [ofFile_apply] at hload ⊢
          have hread : reading files s.here s.configPath = .ok config := hload
          refine .inl ⟨hread, ?_⟩
          show afterReading s.configPath { s with files } = _
          unfold afterReading
          rw [hread]
      · next hhas =>
          rw [if_neg hhas]
          rw [create_apply] at hload ⊢
          dsimp only at hload ⊢
          obtain ⟨fault, hwrite⟩ | ⟨found, hfile, ⟨fault, -, hwrite⟩ | ⟨-, hwrite⟩⟩ :=
            writeWithin_cases files s.configStorage s.here s.configPath standardContent
          · rw [hwrite] at hload
            cases hload
          · rw [hwrite] at hload
            cases hload
          · rw [hwrite] at hload ⊢
            cases hload
            exact .inr ⟨by simpa using hhas, rfl, ⟨found, hfile⟩, rfl⟩

/-! ## A file that is made -/

/-- The configuration file holds the standard configuration, and the log is kept elsewhere. -/
structure Settled (s : Surroundings) : Prop where
  find : s.files.find s.here s.configPath =
    .ok (destination s.here s.configPath, .file standardContent)
  unlogged : ¬ s.LogsTo (destination s.here s.configPath)

theorem configPath_noted (notice : Log.Notice) (s : Surroundings) :
    (Job.noted notice s).configPath = s.configPath :=
  configPath_congr (by simp) (by simp)

theorem Settled.noted {s : Surroundings} (hsettled : Settled s) (notice : Log.Notice) :
    Settled (Job.noted notice s) := by
  have hkeeps := KeepsFiles.noted notice s
  constructor
  · rw [configPath_noted, hkeeps.here, ← hsettled.find]
    exact find_congr (fun other _ => hkeeps.alike other) (hkeeps.elsewhere _ hsettled.unlogged)
  · rw [configPath_noted, hkeeps.here, logsTo_congr hkeeps.log]
    exact hsettled.unlogged

/-- What was made is read, as often as one likes. -/
theorem load_of_settled {s : Surroundings} (hsettled : Settled s) :
    load s = (.ok standard, Job.noted (.configRead s.configPath) s) := by
  have hhas : s.files.has s.here s.configPath = true := by
    unfold has
    rw [hsettled.find]
  have hread : reading s.files s.here s.configPath = .ok standard := by
    unfold reading FileSystem.read
    rw [hsettled.find]
    exact ofContent_standardContent
  rw [load_of_has hhas, hread]
  unfold afterReading
  rw [hread]

/-- Where nothing stands, what loading comes to is the standard configuration, and it is settled. -/
theorem settled_load {s : Surroundings} {config : Config}
    (hfree : s.files.at? (destination s.here s.configPath) = none)
    (hlog : ¬ s.LogsTo (destination s.here s.configPath)) (hload : (load s).1 = .ok config) :
    config = standard ∧ Settled (load s).2 ∧ (load s).2.here = s.here ∧
    (load s).2.configPath = s.configPath := by
  obtain ⟨files, hmade, ⟨hread, -⟩ | ⟨hhas, rfl, ⟨found, hfile⟩, hafter⟩⟩ := load_eq_ok hload
  · -- making directories makes no file that could have been read
    obtain ⟨content, hstands, -⟩ := reading_eq_ok hread
    have hmadeFree := at?_makeAll_of_none s.here s.configDirectory hfree
    rw [hmade] at hmadeFree
    rcases hmadeFree with hnone | hdirectory
    · rw [hnone] at hstands
      cases hstands
    · rw [hdirectory] at hstands
      cases hstands
  · obtain ⟨hwalk, -, -⟩ := fileToWrite_eq_ok hfile
    have hnone := has_eq_false (asksForDirectory_configPath s) hhas hwalk
    -- the file is at the end of its path, so that the path leads on through the same directories
    have hdirectories : ∀ place, files.at? place = some .directory →
        (files.put (destination s.here s.configPath) (.file standardContent)).at? place =
          some .directory := by
      intro place hplace
      have hne : place ≠ destination s.here s.configPath := by
        rintro rfl
        rw [hnone] at hplace
        cases hplace
      rw [at?_put_of_ne _ _ hne, hplace]
    have hfind := find_file (walk_of_directories hdirectories hwalk)
      (at?_put_self files _ (ne_root_of_at?_eq_none hnone)) (asksForDirectory_configPath s)
    have hsettled : Settled { s with files := files.put _ _ } := ⟨hfind, hlog⟩
    rw [hafter]
    exact ⟨rfl, hsettled.noted _, Job.noted_here _ _, configPath_noted _ _⟩

/-- The surroundings after loading a number of times. -/
def afterLoads (s : Surroundings) : Nat → Surroundings
  | 0 => s
  | n + 1 => (load (afterLoads s n)).2

theorem settled_afterLoads {s : Surroundings} (hsettled : Settled (load s).2) (n : Nat) :
    Settled (afterLoads s (n + 1)) ∧
    (afterLoads s (n + 1)).configPath = (load s).2.configPath := by
  induction n with
  | zero => exact ⟨hsettled, rfl⟩
  | succ n ih =>
      obtain ⟨hbefore, hpath⟩ := ih
      rw [afterLoads, load_of_settled hbefore]
      exact ⟨hbefore.noted _, (configPath_noted _ _).trans hpath⟩

/-! ## Loading -/

/-- What loading does, with the configuration file at a path in a directory. -/
structure Loads (s : Surroundings) (directory path : Text) : Prop where
  /-- Nothing changes but that directories may be made on the way to the file, and the file itself
  where nothing stood: with the standard configuration, or with a first part of it if the writing
  fails, and then that is what loading comes to.  Only the log may grow. -/
  changes : Footprint.Covers
    { directories := (· ∈ trail s.here directory)
      logs := s.LogsTo
      files := fun place content =>
        place = destination s.here path ∧ Makes s.configStorage (load s).1 content }
    s.files (load s).2.files
  /-- No file but the one at the path is read. -/
  reads : ∀ t : Surroundings, t.here = s.here → t.values = s.values →
    t.accountHome = s.accountHome → t.configStorage = s.configStorage → s.files.Alike t.files →
    t.files.at? (destination s.here path) = s.files.at? (destination s.here path) →
    (load t).1 = (load s).1
  /-- A file that is there is read, and all is left as it is but for a notice in the log; the
  result is what the file comes to, whatever stands there. -/
  present : s.files.has s.here path = true →
    (load s).1 = reading s.files s.here path ∧
    ((load s).2 = s ∨ (load s).2 = Job.noted (.configRead path) s)
  /-- A file that cannot be reached before directories have been made is read as well. -/
  unreached : ∀ entry, s.files.has s.here path = false →
    s.files.at? (destination s.here path) = some entry → ∀ config, (load s).1 = .ok config →
    ∃ content files, entry = .file content ∧ ofContent content = .ok config ∧
      s.files.makeAll s.here directory = (.ok (), files) ∧
      (load s).2 = Job.noted (.configRead path) { s with files }
  /-- Where nothing stands, the file is made with the standard configuration, and every later call
  gives that configuration and changes nothing but for a notice in the log. -/
  absent : s.files.at? (destination s.here path) = none → ¬ s.LogsTo (destination s.here path) →
    ∀ config, (load s).1 = .ok config → config = standard ∧
    (∃ document, standard.toToml = .ok document ∧
      (load s).2.files.read s.here path = .ok (Utf8.encode document)) ∧
    ∀ n, load (afterLoads s (n + 1)) =
      (.ok standard, Job.noted (.configRead path) (afterLoads s (n + 1)))

theorem loads_own (s : Surroundings) : Loads s s.configDirectory s.configPath where
  changes := covers_load s
  reads t hhere hvalues haccount hstorage halike hstands :=
    fst_load_congr hhere hvalues haccount hstorage halike hstands
  present hhas := by
    rw [load_of_has hhas]
    refine ⟨rfl, ?_⟩
    dsimp only
    unfold afterReading
    split
    · exact .inr rfl
    · exact .inl rfl
  unreached entry hhas hstands config hload := by
    obtain ⟨files, hmade, ⟨hread, hafter⟩ | ⟨hnone, -, ⟨found, hfile⟩, -⟩⟩ := load_eq_ok hload
    · obtain ⟨content, hfound, hcontent⟩ := reading_eq_ok hread
      have hstays := at?_makeAll_of_some s.here s.configDirectory hstands
      rw [hmade, hfound, Option.some.injEq] at hstays
      exact ⟨content, files, hstays.symm, hcontent, hmade, hafter⟩
    · -- nothing is written over what stands there
      obtain ⟨hwalk, -, -⟩ := fileToWrite_eq_ok hfile
      have hstays := at?_makeAll_of_some s.here s.configDirectory hstands
      rw [hmade, has_eq_false (asksForDirectory_configPath s) hnone hwalk] at hstays
      cases hstays
  absent hfree hlog config hload := by
    obtain ⟨rfl, hsettled, hhere, hpath⟩ := settled_load hfree hlog hload
    refine ⟨rfl, ⟨standardDocument, toToml_standard, ?_⟩, ?_⟩
    · have hfind := hsettled.find
      rw [hpath, hhere] at hfind
      unfold FileSystem.read
      rw [hfind]
      rfl
    · intro n
      obtain ⟨hlater, hlaterPath⟩ := settled_afterLoads hsettled n
      rw [load_of_settled hlater, hlaterPath, hpath]

/-- **The first run is stable.**  Let the configuration file be the one in the program's directory
below the base that the variables give.  Loading changes no file but that one and makes no directory
but on the way to it, and its result depends on no other file.  A file that is there is read and left
as it is, also where it can only be reached once directories have been made.  Where nothing stands
and the file can be written, loading comes to the standard configuration, the file holds it in
writing, and every later call comes to the same and leaves all as it is. -/
theorem load_stable {s : Surroundings} {base : Text} (hbase : Base s base) :
    Loads s (join base programName) (join (join base programName) "config.toml".toList) := by
  have hown := loads_own s
  unfold configPath at hown
  rwa [configDirectory_of_base hbase] at hown

/-- A home directory in which nothing has been made yet. -/
def freshHome : Surroundings :=
  { files := { entries := [(["home".toList], .directory), (["home".toList, "u".toList], .directory)] }
    values := [("HOME".toList, "/home/u".toList), ("XDG_CONFIG_HOME".toList, "config".toList)] }

theorem load_stable_freshHome :
    Base freshHome "/home/u/.config".toList ∧
    Loads freshHome "/home/u/.config/opname".toList "/home/u/.config/opname/config.toml".toList ∧
    freshHome.files.at? (destination [] "/home/u/.config/opname/config.toml".toList) = none ∧
    (load freshHome).1.toOption = some standard := by
  have hbase : Base freshHome (join "/home/u".toList ".config".toList) := by
    refine .usual rfl rfl ?_
    intro given hgiven
    cases hgiven
    rfl
  exact ⟨hbase, load_stable hbase, rfl, by decide +kernel⟩

/-- A home directory with a configuration file whose path climbs out of a directory that is missing. -/
def climbingHome : Surroundings :=
  { files :=
      { entries :=
          [(["home".toList], .directory), (["home".toList, "b".toList], .directory),
            (["home".toList, "b".toList, "opname".toList], .directory),
            (["home".toList, "b".toList, "opname".toList, "config.toml".toList],
              .file (Utf8.encode "source_url = \"http://[::1]/\"\nskip_lines = 7\n".toList))] }
    values :=
      [("HOME".toList, "/home".toList), ("XDG_CONFIG_HOME".toList, "/home/a/../b".toList)] }

/-- A path that leads to nothing is no reason for the standard configuration, nor is a file at the
place that it names one for making no directory. -/
theorem load_climbingHome :
    Base climbingHome "/home/a/../b".toList ∧
    climbingHome.files.has [] "/home/a/../b/opname/config.toml".toList = false ∧
    (load climbingHome).1.toOption = some { sourceUrl := "http://[::1]/".toList, skipLines := 7 } ∧
    climbingHome.files.at? (destination [] "/home/a/../b/opname/config.toml".toList) ≠ none ∧
    climbingHome.files.at? ["home".toList, "a".toList] = none ∧
    (load climbingHome).2.files.at? ["home".toList, "a".toList] = some .directory := by
  refine ⟨.named rfl rfl, ?_, ?_, ?_, ?_, ?_⟩ <;> decide +kernel

end Config

end OperatorNames
