import OperatorNames.Proofs.FileSystem.Places
import OperatorNames.Proofs.Job.Steps

/-!
# Surroundings whose files are kept

A run may add records to the end of the file of its log.  Where that is all that has become of the
files, they are kept (`KeepsFiles`): the same places have something on them, in the same order, and
what stands there is what stood there.  Giving notices keeps files, and a change that takes away
what stands at one place does not come between surroundings that are related so.
-/

namespace OperatorNames

namespace Surroundings

/-- Whether the log is the file at a place. -/
def LogsTo (s : Surroundings) (place : Place) : Prop :=
  ∃ log, s.log = some log ∧ log.sink = .file place

/-- The files are the same before and after, but for records at the end of the log. -/
structure KeepsFiles (before after : Surroundings) : Prop where
  /-- The log is still the same. -/
  log : after.log = before.log
  /-- Paths still lead on from the same directory. -/
  here : after.here = before.here
  /-- The variables still have their values. -/
  values : after.values = before.values
  /-- The storage still does the same with temporary files. -/
  storage : after.storage = before.storage
  /-- Nothing was made that is still there, and nothing was taken away. -/
  places : after.files.places = before.files.places
  /-- What stands outside the log is what stood there. -/
  elsewhere : ∀ place, ¬ before.LogsTo place → after.files.at? place = before.files.at? place
  /-- The log may have grown. -/
  logFile : ∀ place, before.LogsTo place →
    ∃ more, after.files.at? place = (before.files.at? place).map (·.grown more)

theorem LogsTo.unique {s : Surroundings} {place other : Place} (hplace : s.LogsTo place)
    (hother : s.LogsTo other) : place = other := by
  obtain ⟨log, hlog, hsink⟩ := hplace
  obtain ⟨log', hlog', hsink'⟩ := hother
  rw [hlog, Option.some.injEq] at hlog'
  subst hlog'
  rw [hsink, Log.Sink.file.injEq] at hsink'
  exact hsink'

theorem logsTo_congr {s s' : Surroundings} (hlog : s'.log = s.log) (place : Place) :
    s'.LogsTo place ↔ s.LogsTo place := by
  rw [LogsTo, LogsTo, hlog]

namespace KeepsFiles

/-- Surroundings with the same files are related. -/
theorem of_eq {before after : Surroundings} (hlog : after.log = before.log)
    (hhere : after.here = before.here) (hvalues : after.values = before.values)
    (hstorage : after.storage = before.storage) (hfiles : after.files = before.files) :
    KeepsFiles before after where
  log := hlog
  here := hhere
  values := hvalues
  storage := hstorage
  places := by rw [hfiles]
  elsewhere place _ := by rw [hfiles]
  logFile place _ := ⟨[], by simp [hfiles, Entry.grown_nil]⟩

theorem refl (s : Surroundings) : KeepsFiles s s :=
  of_eq rfl rfl rfl rfl rfl

theorem trans {s t u : Surroundings} (hst : KeepsFiles s t) (htu : KeepsFiles t u) :
    KeepsFiles s u where
  log := htu.log.trans hst.log
  here := htu.here.trans hst.here
  values := htu.values.trans hst.values
  storage := htu.storage.trans hst.storage
  places := htu.places.trans hst.places
  elsewhere place hplace := by
    have hlater : ¬ t.LogsTo place := by rwa [logsTo_congr hst.log]
    rw [htu.elsewhere place hlater, hst.elsewhere place hplace]
  logFile place hplace := by
    -- the log grows by what was added first and then by what was added later
    obtain ⟨b, hb⟩ := hst.logFile place hplace
    obtain ⟨c, hc⟩ := htu.logFile place ((logsTo_congr hst.log place).mpr hplace)
    refine ⟨b ++ c, ?_⟩
    rw [hc, hb, Option.map_map]
    congr 1
    funext entry
    exact entry.grown_grown b c

instance : Std.Refl KeepsFiles := ⟨refl⟩

instance : Trans KeepsFiles KeepsFiles KeepsFiles := ⟨trans⟩

/-- A notice leaves the files alone, except that it may add a record to the log. -/
theorem noted (notice : Log.Notice) (s : Surroundings) : KeepsFiles s (Job.noted notice s) := by
  obtain h | ⟨record, h⟩ | ⟨log, place, record, hlog, hsink, -, h⟩ := Job.noted_cases notice s
  · rw [h]
    exact refl s
  · rw [h]
    exact of_eq rfl rfl rfl rfl rfl
  -- the one change of the files that a notice makes is at the end of the log
  · have hlogs : s.LogsTo place := ⟨log, hlog, hsink⟩
    rw [h]
    exact
      { log := rfl
        here := rfl
        values := rfl
        storage := rfl
        places := FileSystem.places_append s.files place record
        elsewhere := by
          intro other hother
          have hne : other ≠ place := by
            rintro rfl
            exact hother hlogs
          rw [FileSystem.at?_append, if_neg hne]
        logFile := by
          intro other hother
          refine ⟨record, ?_⟩
          rw [FileSystem.at?_append, if_pos (hother.unique hlogs)] }

/-- What is a directory or a file stays one, and what is free stays free. -/
theorem alike {before after : Surroundings} (hkeeps : KeepsFiles before after) :
    before.files.Alike after.files := by
  intro place
  by_cases hlogs : before.LogsTo place
  · obtain ⟨more, hmore⟩ := hkeeps.logFile place hlogs
    rw [hmore, Option.map_map]
    congr 1
    funext entry
    exact entry.isDirectory_grown more
  · rw [hkeeps.elsewhere place hlogs]

/-- Taking away what stands at one place leaves kept files kept. -/
theorem erase {before after : Surroundings} (hkeeps : KeepsFiles before after) (place : Place) :
    KeepsFiles { before with files := before.files.erase place }
      { after with files := after.files.erase place } where
  log := hkeeps.log
  here := hkeeps.here
  values := hkeeps.values
  storage := hkeeps.storage
  places := by
    show (after.files.erase place).places = (before.files.erase place).places
    rw [FileSystem.places_erase, FileSystem.places_erase, hkeeps.places]
  elsewhere := by
    intro other hother
    show (after.files.erase place).at? other = (before.files.erase place).at? other
    rw [FileSystem.at?_erase, FileSystem.at?_erase, hkeeps.elsewhere other hother]
  logFile := by
    intro other hother
    show ∃ more, (after.files.erase place).at? other =
      ((before.files.erase place).at? other).map (·.grown more)
    rw [FileSystem.at?_erase, FileSystem.at?_erase]
    split
    · exact ⟨[], rfl⟩
    · exact hkeeps.logFile other hother

end KeepsFiles

end Surroundings

end OperatorNames
