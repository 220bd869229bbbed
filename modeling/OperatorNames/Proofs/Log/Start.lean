import OperatorNames.Log.Install
import OperatorNames.Proofs.Config.Loading

/-!
# Starting the log

What starting the log comes to is settled by the files alone (`opening`): whether records go to a file
of the program's own, and which directories are made for it.  The user's choice of records plays no
part in that (`start_eq`).
-/

namespace OperatorNames

open FileSystem Surroundings Text

namespace Log

/-- The place of the log's file once it is open, or why it cannot be opened, and the files after
that. -/
def opening (s : Surroundings) : Except Problem Place × FileSystem :=
  match s.files.makeAll s.here s.logDirectory with
  | (.error fault, files) => (.error (.file fault), files)
  | (.ok (), files) =>
    match files.openToAppend s.here s.logPath with
    | .error fault => (.error (.file fault), files)
    | .ok (place, files) => (.ok place, files)

/-- Surroundings with a log in a file or, where that cannot be, on the stream for messages. -/
def opened (s : Surroundings) : Except Problem Place × FileSystem → Surroundings
  | (.ok place, files) => { s with files, log := some { sink := .file place, filter := wanted s } }
  | (.error _, files) => { s with files, log := some { sink := .messages, filter := wanted s } }

/-- What is told once the log has been started. -/
def greeting (s : Surroundings) : Except Problem Place → Notice
  | .ok _ => .started s.logPath
  | .error problem => .fallback problem

theorem start_eq {s : Surroundings} (hfresh : s.log = none) :
    start s = Job.noted (greeting s (opening s).1) (opened s (opening s)) := by
  have hinstall : ∀ (sink : Sink) (files : FileSystem), install sink { s with files } =
      (.ok (), { s with files, log := some { sink, filter := wanted s } }) := by
    intro sink files
    unfold install
    dsimp only
    rw [hfresh]
    rfl
  have hmessages : ∀ files : FileSystem, toMessages { s with files } =
      { s with files, log := some { sink := .messages, filter := wanted s } } := by
    intro files
    unfold toMessages
    rw [hinstall]
  unfold start toFile opening
  rw [Job.bind_of_ok (Job.see_apply _ s), Job.bind_apply, Job.makeAll_apply]
  obtain ⟨result, files⟩ := s.files.makeAll s.here s.logDirectory
  cases result with
  | error fault =>
      dsimp only
      rw [hmessages]
      rfl
  | ok done =>
      have hpath : ({ s with files } : Surroundings).logPath = s.logPath := rfl
      dsimp only
      rw [Job.bind_of_ok (Job.see_apply _ _), Job.bind_apply, hpath, openFile]
      dsimp only
      cases files.openToAppend s.here s.logPath with
      | error fault =>
          dsimp only
          rw [hmessages]
          rfl
      | ok found =>
          obtain ⟨place, files⟩ := found
          dsimp only
          rw [Job.bind_apply, hinstall]
          rfl

/-! ## What starting changes -/

/-- Nothing but the files, the log and the stream for messages is touched. -/
theorem exists_start_eq {s : Surroundings} (hfresh : s.log = none) :
    ∃ files log messages, start s = { s with files, log, messages } := by
  have hopened : ∃ files log, opened s (opening s) = { s with files, log } := by
    unfold opened
    split
    · exact ⟨_, _, rfl⟩
    · exact ⟨_, _, rfl⟩
  obtain ⟨files, log, hopened⟩ := hopened
  rw [start_eq hfresh, hopened]
  obtain h | ⟨_, h⟩ | ⟨_, _, _, -, -, -, h⟩ := Job.noted_cases (greeting s (opening s).1)
    { s with files, log }
  · exact ⟨_, _, _, h⟩
  · exact ⟨_, _, _, h⟩
  · exact ⟨_, _, _, h⟩

theorem isStep_logName : IsStep "opname.log".toList := by
  constructor <;> decide

theorem destination_logPath (s : Surroundings) :
    destination s.here s.logPath = destination s.here s.logDirectory ++ ["opname.log".toList] := by
  unfold logPath
  rw [destination_join isStep_logName, advance_of_name (by decide) (by decide)]

/-- No configuration file is a log. -/
theorem destination_configPath_ne (s t : Surroundings) :
    destination s.here s.configPath ≠ destination t.here t.logPath := by
  rw [Config.destination_configPath, destination_logPath]
  intro hsame
  have hnames := List.append_inj_right' hsame rfl
  revert hnames
  decide

/-- What starting the log may change: directories on the way to its file, and that file. -/
def starting (s : Surroundings) : Footprint where
  directories := (· ∈ trail s.here s.logDirectory)
  logs := (· = destination s.here s.logPath)
  files _ _ := False

theorem place_opening {s : Surroundings} {place : Place} (hopen : (opening s).1 = .ok place) :
    place = destination s.here s.logPath := by
  unfold opening at hopen
  split at hopen
  · cases hopen
  · split at hopen
    · cases hopen
    · next hfile =>
        cases hopen
        exact (openToAppend_eq_ok hfile).1

theorem covers_opening (s : Surroundings) : (starting s).Covers s.files (opening s).2 := by
  have hmade := covers_makeAll (f := starting s) s.files s.here s.logDirectory fun _ hother => hother
  unfold opening
  split
  · next hall =>
      rw [hall] at hmade
      exact hmade
  · next hall =>
      rw [hall] at hmade
      split
      · exact hmade
      · next hfile => exact hmade.trans (covers_openToAppend (f := starting s) rfl hfile)

theorem logsTo_opened {s : Surroundings} {place : Place}
    (hlogs : (opened s (opening s)).LogsTo place) : place = destination s.here s.logPath := by
  obtain ⟨log, hlog, hsink⟩ := hlogs
  unfold opened at hlog
  split at hlog
  · next found files hopen =>
      cases hlog
      cases hsink
      exact place_opening (by rw [hopen])
  · cases hlog
    cases hsink

theorem files_opened (s : Surroundings) : (opened s (opening s)).files = (opening s).2 := by
  unfold opened
  split
  · next hopen => rw [hopen]
  · next hopen => rw [hopen]

/-- The log is started in its own file or in none. -/
theorem logsTo_start {s : Surroundings} (hfresh : s.log = none) {place : Place}
    (hlogs : (start s).LogsTo place) : place = destination s.here s.logPath := by
  rw [start_eq hfresh, logsTo_congr (Job.noted_log _ _)] at hlogs
  exact logsTo_opened hlogs

/-- **Starting the log changes nothing but** the directories that lead to its file, and that file. -/
theorem covers_start {s : Surroundings} (hfresh : s.log = none) :
    (starting s).Covers s.files (start s).files := by
  have hopened := covers_opening s
  rw [← files_opened] at hopened
  rw [start_eq hfresh]
  exact hopened.trans (Config.covers_noted _ fun _ hlogs => logsTo_opened hlogs)

end Log

end OperatorNames
