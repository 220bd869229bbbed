import OperatorNames.FileSystem.Basic
import OperatorNames.Proofs.Results

/-!
# Places that are taken

Which places have something on them (`places`), and how the elementary changes alter that.  Adding
octets to a file takes no place and frees none, and what stands elsewhere stays.
-/

namespace OperatorNames

/-- An entry after octets have been added to its end; a directory takes none. -/
def Entry.grown (more : Bytes) : Entry → Entry
  | .file content => .file (content ++ more)
  | .directory => .directory

/-- Whether an entry is a directory. -/
def Entry.isDirectory : Entry → Bool
  | .directory => true
  | .file _ => false

theorem Entry.isDirectory_grown (more : Bytes) (entry : Entry) :
    (entry.grown more).isDirectory = entry.isDirectory := by
  cases entry with
  | file content => rfl
  | directory => rfl

theorem Entry.grown_nil (entry : Entry) : entry.grown [] = entry := by
  cases entry with
  | file content => rw [Entry.grown, List.append_nil]
  | directory => rfl

theorem Entry.grown_grown (entry : Entry) (b c : Bytes) :
    (entry.grown b).grown c = entry.grown (b ++ c) := by
  cases entry with
  | file content => rw [Entry.grown, Entry.grown, Entry.grown, List.append_assoc]
  | directory => rfl

namespace FileSystem

/-- The places that have something on them, in order.  The root is not listed. -/
def places (fs : FileSystem) : List Place :=
  fs.entries.map Prod.fst

@[simp]
theorem at?_root (fs : FileSystem) : fs.at? [] = some .directory :=
  rfl

theorem at?_eq_none_iff (fs : FileSystem) (place : Place) :
    fs.at? place = none ↔ place ≠ [] ∧ place ∉ fs.places := by
  unfold at?
  cases place with
  | nil => simp
  | cons name rest =>
      have hmem : name :: rest ∉ fs.places ↔ ∀ e ∈ fs.entries, name :: rest ≠ e.1 := by
        simp only [places, List.mem_map, not_exists, not_and, ne_eq, eq_comm]
      simp [List.lookup_eq_none_iff, hmem]

theorem ne_root_of_at?_eq_none {fs : FileSystem} {place : Place} (hfree : fs.at? place = none) :
    place ≠ [] :=
  ((at?_eq_none_iff fs place).mp hfree).1

theorem places_put_of_at?_ne_none {fs : FileSystem} {place : Place} {old : Entry} (entry : Entry)
    (hold : fs.entries.lookup place = some old) : (fs.put place entry).places = fs.places := by
  simp only [put, hold, Option.isSome_some, if_true, places, List.map_map]
  apply List.map_congr_left
  intro e _
  simp only [Function.comp_apply]
  split <;> rfl

theorem places_erase (fs : FileSystem) (place : Place) :
    (fs.erase place).places = fs.places.filter (· ≠ place) := by
  rw [places, places, erase, List.filter_map]
  rfl

/-- Nothing stands where an entry was taken away, and all else stays; the root cannot go. -/
theorem at?_erase (fs : FileSystem) (place other : Place) :
    (fs.erase place).at? other =
      if other = place ∧ place ≠ [] then none else fs.at? other := by
  split
  · next htaken =>
      rw [htaken.1]
      exact at?_erase_self fs htaken.2
  · next hleft =>
      -- what was not taken away stands elsewhere, or is the root
      by_cases hother : other = place
      · have hroot : other = [] := by
          rw [hother]
          exact Decidable.not_not.mp fun hne => hleft ⟨hother, hne⟩
        rw [hroot]
        rfl
      · exact at?_erase_of_ne fs hother

/-- Adding octets to a file changes what stands at its place and nothing else. -/
theorem at?_append (fs : FileSystem) (place other : Place) (more : Bytes) :
    (fs.append place more).at? other =
      if other = place then (fs.at? other).map (·.grown more) else fs.at? other := by
  unfold append
  by_cases hother : other = place
  · subst hother
    rw [if_pos rfl]
    cases hstands : fs.at? other with
    | none => simpa using hstands
    | some entry =>
        cases entry with
        | directory => simpa [Entry.grown] using hstands
        | file content =>
            -- the root is a directory, so that the place of a file is not the root
            have hne : other ≠ [] := by
              rintro rfl
              simp at hstands
            simpa [Entry.grown] using at?_put_self fs _ hne
  · rw [if_neg hother]
    split
    · exact at?_put_of_ne fs _ hother
    · rfl

@[simp]
theorem places_append (fs : FileSystem) (place : Place) (more : Bytes) :
    (fs.append place more).places = fs.places := by
  unfold append
  split
  · next content hstands =>
      cases place with
      | nil => simp at hstands
      | cons name rest => exact places_put_of_at?_ne_none _ hstands
  · rfl

theorem length_entries_eq {fs fs' : FileSystem} (hplaces : fs'.places = fs.places) :
    fs'.entries.length = fs.entries.length := by
  simpa [places] using congrArg List.length hplaces

/-! ## Walks -/

/-- Nothing stands at a place in both file systems, or a file in both, or a directory in both. -/
def SameKind (fs fs' : FileSystem) (place : Place) : Prop :=
  (fs'.at? place).map Entry.isDirectory = (fs.at? place).map Entry.isDirectory

theorem SameKind.of_eq {fs fs' : FileSystem} {place : Place}
    (heq : fs'.at? place = fs.at? place) : SameKind fs fs' place := by
  rw [SameKind, heq]

theorem SameKind.directory_iff {fs fs' : FileSystem} {place : Place}
    (hkind : SameKind fs fs' place) :
    fs'.at? place = some .directory ↔ fs.at? place = some .directory := by
  have hdirectory : ∀ gs : FileSystem,
      gs.at? place = some .directory ↔ (gs.at? place).map Entry.isDirectory = some true := by
    intro gs
    cases gs.at? place with
    | none => simp
    | some entry => cases entry <;> simp [Entry.isDirectory]
  rw [hdirectory, hdirectory, hkind]

theorem SameKind.none_iff {fs fs' : FileSystem} {place : Place} (hkind : SameKind fs fs' place) :
    fs'.at? place = none ↔ fs.at? place = none := by
  rw [← Option.map_eq_none_iff (f := Entry.isDirectory), hkind, Option.map_eq_none_iff]

theorem enter_congr {fs fs' : FileSystem} {place : Place} (hkind : SameKind fs fs' place) :
    fs'.enter place = fs.enter place := by
  funext step
  unfold SameKind at hkind
  unfold enter
  cases hstands : fs.at? place with
  | none =>
      rw [hstands, Option.map_none, Option.map_eq_none_iff] at hkind
      rw [hkind]
  | some entry =>
      rw [hstands, Option.map_some, Option.map_eq_some_iff] at hkind
      obtain ⟨entry', hstands', hsame⟩ := hkind
      rw [hstands']
      -- two files, whatever they hold, or two directories
      cases entry <;> cases entry' <;> first | rfl | cases hsame

/-- The same places have directories on them, and the same places have files on them. -/
def Alike (fs fs' : FileSystem) : Prop :=
  ∀ place, (fs'.at? place).map Entry.isDirectory = (fs.at? place).map Entry.isDirectory

theorem Alike.enter_eq {fs fs' : FileSystem} (halike : Alike fs fs') : fs'.enter = fs.enter :=
  funext fun place => enter_congr (halike place)

/-- What a path leads to does not depend on the content of files. -/
theorem Alike.walk_eq {fs fs' : FileSystem} (halike : Alike fs fs') (here : Place) (path : Text) :
    fs'.walk here path = fs.walk here path := by
  unfold walk
  rw [halike.enter_eq]

/-- A step that can be taken can be taken wherever there are the same directories. -/
theorem enter_of_directories {fs fs' : FileSystem} {place next : Place} {step : Text}
    (hdirs : ∀ place, fs.at? place = some .directory → fs'.at? place = some .directory)
    (henter : fs.enter place step = .ok next) : fs'.enter place step = .ok next := by
  unfold enter at henter ⊢
  split at henter
  · simp at henter
  · simp at henter
  · next hstands =>
      rw [hdirs place hstands]
      exact henter

theorem foldlM_enter_of_directories {fs fs' : FileSystem} {place last : Place} {steps : List Text}
    (hdirs : ∀ place, fs.at? place = some .directory → fs'.at? place = some .directory)
    (hsteps : steps.foldlM fs.enter place = .ok last) :
    steps.foldlM fs'.enter place = .ok last := by
  induction steps generalizing place with
  | nil => exact hsteps
  | cons step rest ih =>
      rw [List.foldlM_cons] at hsteps ⊢
      cases henter : fs.enter place step with
      | error fault =>
          rw [henter] at hsteps
          simp [bind, Except.bind] at hsteps
      | ok next =>
          rw [henter] at hsteps
          rw [enter_of_directories hdirs henter]
          exact ih hsteps

/-- A path leads to the same place wherever there are the same directories. -/
theorem walk_of_directories {fs fs' : FileSystem} {here place : Place} {path : Text}
    (hdirs : ∀ place, fs.at? place = some .directory → fs'.at? place = some .directory)
    (hwalk : fs.walk here path = .ok place) : fs'.walk here path = .ok place := by
  unfold walk at hwalk ⊢
  split at hwalk
  · simp at hwalk
  · split at hwalk
    · simp at hwalk
    · split at hwalk
      · simp at hwalk
      · next hnul hempty hlong =>
          rw [if_neg hnul, if_neg hempty, if_neg hlong]
          exact foldlM_enter_of_directories hdirs hwalk

/-- A path that asks for no directory finds the file that stands where it leads. -/
theorem find_file {fs : FileSystem} {here place : Place} {path : Text} {content : Bytes}
    (hwalk : fs.walk here path = .ok place) (hstands : fs.at? place = some (.file content))
    (hpath : asksForDirectory path = false) :
    fs.find here path = .ok (place, .file content) := by
  simp only [find, hwalk, hstands, hpath, bind, Except.bind]
  rfl

theorem at?_of_find {fs : FileSystem} {here place : Place} {path : Text} {entry : Entry}
    (hfind : fs.find here path = .ok (place, entry)) : fs.at? place = some entry := by
  obtain ⟨found, -, hentry⟩ := exists_of_bind_eq_ok hfind
  split at hentry
  · cases hentry
  · next content hstands =>
      split at hentry
      · cases hentry
      · cases hentry
        exact hstands
  · next hstands =>
      cases hentry
      exact hstands

end FileSystem

end OperatorNames
