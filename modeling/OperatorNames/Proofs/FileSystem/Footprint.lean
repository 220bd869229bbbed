import OperatorNames.Proofs.FileSystem.Trail

/-!
# Footprints

A footprint says at which places something may happen, and what (`Footprint`).  It covers a change of
the files if each place turned out in one of the ways it allows (`Footprint.Covers`).  What was there
before stays there in any case: directories stay directories, and files can only get longer.
-/

namespace OperatorNames

/-- The places at which something may be made or may grow. -/
structure Footprint where
  /-- Where directories may be made. -/
  directories : Place → Prop
  /-- Where files may be made and added to. -/
  logs : Place → Prop
  /-- Where files may be made, and with which octets. -/
  files : Place → Bytes → Prop

namespace Footprint

/-- The ways in which a place may turn out. -/
inductive Turn (f : Footprint) (place : Place) : Option Entry → Option Entry → Prop
  /-- What stood there stands there, or it is free as before. -/
  | kept (stands : Option Entry) : Turn f place stands stands
  /-- It was free and got a directory. -/
  | directory (hplace : f.directories place) : Turn f place none (some .directory)
  /-- It was free and got a file that is added to. -/
  | begun (hplace : f.logs place) (content : Bytes) : Turn f place none (some (.file content))
  /-- Its file was added to. -/
  | grown (hplace : f.logs place) (content more : Bytes) :
      Turn f place (some (.file content)) (some (.file (content ++ more)))
  /-- It was free and got a file with given octets. -/
  | made {content : Bytes} (hplace : f.files place content) :
      Turn f place none (some (.file content))

/-- A footprint covers what happened to the files: each place turned out in one of the ways. -/
def Covers (f : Footprint) (before after : FileSystem) : Prop :=
  ∀ place, f.Turn place (before.at? place) (after.at? place)

/-- All that may happen in one footprint may happen in another. -/
structure Le (f g : Footprint) : Prop where
  directories : ∀ place, f.directories place → g.directories place
  logs : ∀ place, f.logs place → g.logs place
  files : ∀ place content, f.files place content → g.files place content

variable {f g : Footprint} {place : Place} {x y z : Option Entry}

theorem Turn.trans (hxy : f.Turn place x y) (hyz : f.Turn place y z) : f.Turn place x z := by
  cases hyz with
  | kept => exact hxy
  | directory hplace =>
      cases hxy with
      | kept => exact .directory hplace
  | begun hplace content =>
      cases hxy with
      | kept => exact .begun hplace content
  | made hplace =>
      cases hxy with
      | kept => exact .made hplace
  | grown hplace content more =>
      -- a file that was made, however that was, and was then added to
      cases hxy with
      | kept => exact .grown hplace content more
      | begun => exact .begun hplace _
      | grown _ content first =>
          rw [List.append_assoc]
          exact .grown hplace content (first ++ more)
      | made => exact .begun hplace _

theorem Turn.mono (hle : f.Le g) (hturn : f.Turn place x y) : g.Turn place x y := by
  cases hturn with
  | kept => exact .kept _
  | directory hplace => exact .directory (hle.directories place hplace)
  | begun hplace content => exact .begun (hle.logs place hplace) content
  | grown hplace content more => exact .grown (hle.logs place hplace) content more
  | made hplace => exact .made (hle.files place _ hplace)

/-- A directory stays one. -/
theorem Turn.directory_stays (hturn : f.Turn place (some .directory) y) : y = some .directory := by
  cases hturn with
  | kept => rfl

/-- A file stays one, and what it held is the beginning of what it holds. -/
theorem Turn.file_stays {content : Bytes} (hturn : f.Turn place (some (.file content)) y) :
    ∃ more, y = some (.file (content ++ more)) := by
  cases hturn with
  | kept => exact ⟨[], by rw [List.append_nil]⟩
  | grown hplace _ more => exact ⟨more, rfl⟩

/-- What stands where no file may be added to stays as it is. -/
theorem Turn.entry_stays {entry : Entry} (hnone : ¬ f.logs place)
    (hturn : f.Turn place (some entry) y) : y = some entry := by
  cases hturn with
  | kept => rfl
  | grown hplace => exact absurd hplace hnone

/-- Where no file may be made, a free place stays free or gets a directory. -/
theorem Turn.free_place (hlogs : ¬ f.logs place) (hfiles : ∀ content, ¬ f.files place content)
    (hturn : f.Turn place none y) : y = none ∨ y = some .directory := by
  cases hturn with
  | kept => exact .inl rfl
  | directory => exact .inr rfl
  | begun hplace => exact absurd hplace hlogs
  | made hplace => exact absurd hplace (hfiles _)

/-- Where no file may be added to, a file that stands there stood there, or it was made. -/
theorem Turn.file_was {content : Bytes} (hlogs : ¬ f.logs place)
    (hturn : f.Turn place x (some (.file content))) :
    x = some (.file content) ∨ x = none ∧ f.files place content := by
  generalize hy : some (Entry.file content) = y at hturn
  cases hturn with
  | kept => exact .inl rfl
  | directory => cases hy
  | begun hplace => exact absurd hplace hlogs
  | grown hplace => exact absurd hplace hlogs
  | made hplace =>
      cases hy
      exact .inr ⟨rfl, hplace⟩

/-- A place where nothing may happen stays as it is. -/
theorem Turn.untouched (hdirectories : ¬ f.directories place) (hlogs : ¬ f.logs place)
    (hfiles : ∀ content, ¬ f.files place content) (hturn : f.Turn place x y) : y = x := by
  cases hturn with
  | kept => rfl
  | directory hplace => exact absurd hplace hdirectories
  | begun hplace => exact absurd hplace hlogs
  | grown hplace => exact absurd hplace hlogs
  | made hplace => exact absurd hplace (hfiles _)

namespace Covers

variable {fs fs' fs'' : FileSystem} {here : Place} {path : Text}

theorem refl (f : Footprint) (fs : FileSystem) : f.Covers fs fs :=
  fun _ => .kept _

theorem trans (hfirst : f.Covers fs fs') (hsecond : f.Covers fs' fs'') : f.Covers fs fs'' :=
  fun place => (hfirst place).trans (hsecond place)

theorem mono (hle : f.Le g) (hcovers : f.Covers fs fs') : g.Covers fs fs' :=
  fun place => (hcovers place).mono hle

/-- What a footprint covers is what becomes of the one place where something is put. -/
theorem put {entry : Entry} (hturn : f.Turn place (fs.at? place) (some entry)) :
    f.Covers fs (fs.put place entry) := by
  intro other
  by_cases hother : other = place
  · subst hother
    by_cases hroot : other = []
    · -- whatever is put there, the root is a directory
      subst hroot
      exact .kept _
    · rw [FileSystem.at?_put_self fs entry hroot]
      exact hturn
  · rw [FileSystem.at?_put_of_ne fs entry hother]
    exact .kept _

theorem append (hplace : f.logs place) (more : Bytes) : f.Covers fs (fs.append place more) := by
  intro other
  rw [FileSystem.at?_append]
  split
  · next hother =>
      subst hother
      cases fs.at? other with
      | none => exact .kept _
      | some entry =>
          cases entry with
          | directory => exact .kept _
          | file content => exact .grown hplace content more
  · exact .kept _

end Covers

end Footprint

namespace FileSystem

variable {fs fs' : FileSystem} {here place : Place} {path : Text} {content : Bytes}

/-- What is found where a file is to be written: nothing, or a file. -/
theorem fileToWrite_eq_ok {found : Option Bytes}
    (hfile : fs.fileToWrite here path = .ok (place, found)) :
    fs.walk here path = .ok place ∧ place = destination here path ∧
    fs.at? place = found.map .file := by
  obtain ⟨last, hwalk, hfound⟩ := exists_of_bind_eq_ok hfile
  dsimp only at hfound
  split at hfound
  · cases hfound
  · split at hfound
    · next hstands =>
        cases hfound
        exact ⟨hwalk, (walk_eq_ok hwalk).1, hstands⟩
    · next content hstands =>
        cases hfound
        exact ⟨hwalk, (walk_eq_ok hwalk).1, hstands⟩
    · cases hfound

/-- The three ways in which writing a file ends: nothing has been done, a first part has been written,
or all of it. -/
theorem writeWithin_cases (fs : FileSystem) (storage : Storage) (here : Place) (path : Text)
    (content : Bytes) :
    (∃ fault, fs.writeWithin storage here path content = (.error fault, fs)) ∨
    ∃ found, fs.fileToWrite here path = .ok (destination here path, found) ∧
      ((∃ fault, storage.overflow? content = some fault ∧
        fs.writeWithin storage here path content =
          (.error fault, fs.put (destination here path) (.file (storage.kept content)))) ∨
      (storage.overflow? content = none ∧
        fs.writeWithin storage here path content =
          (.ok (), fs.put (destination here path) (.file content)))) := by
  unfold writeWithin
  cases hfile : fs.fileToWrite here path with
  | error fault => exact .inl ⟨fault, rfl⟩
  | ok target =>
      obtain ⟨place, found⟩ := target
      obtain ⟨-, rfl, -⟩ := fileToWrite_eq_ok hfile
      dsimp only
      split
      · exact .inl ⟨_, rfl⟩
      · refine .inr ⟨_, rfl, ?_⟩
        cases hover : storage.overflow? content with
        | some fault => exact .inl ⟨fault, rfl, rfl⟩
        | none =>
            rw [Storage.kept_of_overflow?_none hover]
            exact .inr ⟨rfl, rfl⟩

/-- A file that is added to is where its path leads, with what it held, if anything. -/
theorem openToAppend_eq_ok (hopen : fs.openToAppend here path = .ok (place, fs')) :
    place = destination here path ∧
    ((∃ content, fs.at? place = some (.file content) ∧ fs' = fs) ∨
      (fs.at? place = none ∧ fs' = fs.put place (.file []))) := by
  obtain ⟨⟨there, found⟩, hfile, hmade⟩ := exists_of_bind_eq_ok hopen
  obtain ⟨-, hthere, hstands⟩ := fileToWrite_eq_ok hfile
  cases found with
  | none =>
      cases hmade
      exact ⟨hthere, .inr ⟨hstands, rfl⟩⟩
  | some content =>
      cases hmade
      exact ⟨hthere, .inl ⟨content, hstands, rfl⟩⟩

theorem covers_openToAppend {f : Footprint} (hlogs : f.logs (destination here path))
    (hopen : fs.openToAppend here path = .ok (place, fs')) : f.Covers fs fs' := by
  obtain ⟨rfl, ⟨content, -, rfl⟩ | ⟨hfree, rfl⟩⟩ := openToAppend_eq_ok hopen
  · exact .refl f fs'
  · refine .put ?_
    rw [hfree]
    exact .begun hlogs []

end FileSystem

end OperatorNames
