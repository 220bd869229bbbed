import OperatorNames.Proofs.FileSystem.Paths

/-!
# The places on a path

Which places a path leads through does not depend on what stands there (`trail`, `destination`); a
walk only looks whether they are directories.  So a walk that comes to a place has come to the
destination (`walk_eq_ok`), and it does the same wherever the same kinds of entries stand on the trail
(`walk_congr`).
-/

namespace OperatorNames.FileSystem

/-- The place that a step leads to, whatever stands there. -/
def advance (place : Place) (step : Text) : Place :=
  if step = ['.'] then place
  else if step = ['.', '.'] then place.dropLast
  else place ++ [step]

/-- The places that steps lead through from a place on, that place and the last one among them. -/
def through (place : Place) : List Text → List Place
  | [] => [place]
  | step :: more => place :: through (advance place step) more

/-- Where the walk along a path begins. -/
def origin (here : Place) (path : Text) : Place :=
  if isAbsolute path then [] else here

/-- The places that a path leads through or to, seen from a directory. -/
def trail (here : Place) (path : Text) : List Place :=
  through (origin here path) (steps path)

/-- The place that a path leads to, seen from a directory. -/
def destination (here : Place) (path : Text) : Place :=
  (steps path).foldl advance (origin here path)

/-! ## Trails -/

theorem advance_of_name {step : Text} (hhere : step ≠ ['.']) (habove : step ≠ ['.', '.'])
    (place : Place) : advance place step = place ++ [step] := by
  rw [advance, if_neg hhere, if_neg habove]

theorem mem_through_self (place : Place) (l : List Text) : place ∈ through place l := by
  cases l with
  | nil => exact List.mem_singleton.mpr rfl
  | cons step more => exact List.mem_cons_self

theorem last_mem_through (place : Place) (l : List Text) :
    l.foldl advance place ∈ through place l := by
  induction l generalizing place with
  | nil => exact List.mem_singleton.mpr rfl
  | cons step more ih => exact List.mem_cons_of_mem place (ih (advance place step))

theorem mem_through_append {place other : Place} (l : List Text) {first : List Text}
    (hother : other ∈ through place first) : other ∈ through place (first ++ l) := by
  induction first generalizing place with
  | nil =>
      rw [List.mem_singleton.mp hother]
      exact mem_through_self place l
  | cons step more ih =>
      rcases List.mem_cons.mp hother with rfl | hlater
      · exact mem_through_self _ _
      · exact List.mem_cons_of_mem place (ih hlater)

/-- Steps that stay where they are do not count. -/
theorem mem_through_of_mem_filter {place other : Place} {l : List Text}
    (hother : other ∈ through place (l.filter (· ≠ ['.']))) : other ∈ through place l := by
  induction l generalizing place with
  | nil => exact hother
  | cons step more ih =>
      by_cases hstep : step = ['.']
      · subst hstep
        rw [List.filter_cons_of_neg (by simp)] at hother
        exact List.mem_cons_of_mem place (ih hother)
      · rw [List.filter_cons_of_pos (by simpa using hstep)] at hother
        rcases List.mem_cons.mp hother with rfl | hlater
        · exact mem_through_self _ _
        · exact List.mem_cons_of_mem place (ih hlater)

theorem destination_mem_trail (here : Place) (path : Text) :
    destination here path ∈ trail here path :=
  last_mem_through _ _

theorem origin_join {here : Place} {name : Text} (hname : IsStep name) (directory : Text) :
    origin here (join directory name) = origin here directory := by
  have habsolute : isAbsolute (join directory name) = isAbsolute directory := by
    unfold isAbsolute
    cases directory with
    | nil =>
        cases name with
        | nil => exact absurd rfl hname.ne_nil
        | cons c rest =>
            have hc : c ≠ '/' := fun heq => hname.no_slash (heq ▸ List.mem_cons_self)
            simp [join, hc]
    | cons c rest => rw [head?_join (List.cons_ne_nil c rest)]
  unfold origin
  rw [habsolute]

/-- Behind a name in a directory there is one place more. -/
theorem destination_join {here : Place} {name : Text} (hname : IsStep name) (directory : Text) :
    destination here (join directory name) = advance (destination here directory) name := by
  unfold destination
  rw [origin_join hname, steps_join hname, List.foldl_append]
  rfl

theorem mem_trail_join {here place : Place} {directory name : Text} (hname : IsStep name)
    (hplace : place ∈ trail here directory) : place ∈ trail here (join directory name) := by
  unfold trail at hplace ⊢
  rw [origin_join hname, steps_join hname]
  exact mem_through_append [name] hplace

/-! ## Walks -/

variable {fs fs' : FileSystem} {here place last : Place} {path step : Text} {l : List Text}

theorem enter_eq_ok (henter : fs.enter place step = .ok last) :
    last = advance place step ∧ fs.at? place = some .directory := by
  unfold enter at henter
  unfold advance
  split at henter
  · cases henter
  · cases henter
  · next hstands =>
      refine ⟨?_, hstands⟩
      split at henter
      · next hhere =>
          rw [if_pos hhere]
          cases henter
          rfl
      · next hhere =>
          rw [if_neg hhere]
          split at henter
          · next habove =>
              rw [if_pos habove]
              cases henter
              rfl
          · next habove =>
              rw [if_neg habove]
              split at henter
              · cases henter
              · cases henter
                rfl

theorem foldlM_enter_congr (hkinds : ∀ other ∈ through place l, SameKind fs fs' other) :
    l.foldlM fs'.enter place = l.foldlM fs.enter place := by
  induction l generalizing place with
  | nil => rfl
  | cons step more ih =>
      rw [List.foldlM_cons, List.foldlM_cons, enter_congr (hkinds place List.mem_cons_self)]
      cases henter : fs.enter place step with
      | error fault => rfl
      | ok next =>
          obtain ⟨rfl, -⟩ := enter_eq_ok henter
          exact ih fun other hother => hkinds other (List.mem_cons_of_mem place hother)

theorem foldlM_enter_eq_ok (hsteps : l.foldlM fs.enter place = .ok last) :
    last = l.foldl advance place ∧
    ∀ other ∈ through place l, other ≠ last → fs.at? other = some .directory := by
  induction l generalizing place with
  | nil =>
      cases hsteps
      refine ⟨rfl, ?_⟩
      intro other hother hne
      exact absurd (List.mem_singleton.mp hother) hne
  | cons step more ih =>
      rw [List.foldlM_cons] at hsteps
      obtain ⟨next, henter, hmore⟩ := exists_of_bind_eq_ok hsteps
      obtain ⟨rfl, hstands⟩ := enter_eq_ok henter
      obtain ⟨hlast, hrest⟩ := ih hmore
      refine ⟨hlast, ?_⟩
      intro other hother hne
      rcases List.mem_cons.mp hother with rfl | hlater
      · exact hstands
      · exact hrest other hlater hne

/-- Steps that stay where they are can be left out. -/
theorem foldlM_enter_filter (hsteps : l.foldlM fs.enter place = .ok last) :
    (l.filter (· ≠ ['.'])).foldlM fs.enter place = .ok last := by
  induction l generalizing place with
  | nil => exact hsteps
  | cons step more ih =>
      rw [List.foldlM_cons] at hsteps
      obtain ⟨next, henter, hmore⟩ := exists_of_bind_eq_ok hsteps
      by_cases hstep : step = ['.']
      · subst hstep
        obtain ⟨rfl, -⟩ := enter_eq_ok henter
        rw [List.filter_cons_of_neg (by simp)]
        exact ih hmore
      · rw [List.filter_cons_of_pos (by simpa using hstep), List.foldlM_cons, henter]
        exact ih hmore

/-- What stands between a path and a walk along it: nothing but its steps. -/
theorem walk_eq_ok_iff :
    fs.walk here path = .ok last ↔
      (path.contains '\x00' = false ∧ path ≠ [] ∧ Text.Utf8.size path ≤ maxPath) ∧
      (steps path).foldlM fs.enter (origin here path) = .ok last := by
  unfold walk origin
  constructor
  · intro hwalk
    split at hwalk
    · cases hwalk
    · next hnul =>
        split at hwalk
        · cases hwalk
        · next hempty =>
            split at hwalk
            · cases hwalk
            · next hlong =>
                refine ⟨⟨by simpa using hnul, by simpa using hempty, by omega⟩, hwalk⟩
  · rintro ⟨⟨hnul, hempty, hshort⟩, hsteps⟩
    rw [if_neg (by simpa using hnul), if_neg (by simpa using hempty), if_neg (by omega)]
    exact hsteps

/-- A walk comes to the destination, and only through directories. -/
theorem walk_eq_ok (hwalk : fs.walk here path = .ok last) :
    last = destination here path ∧
    ∀ other ∈ trail here path, other ≠ last → fs.at? other = some .directory :=
  foldlM_enter_eq_ok (walk_eq_ok_iff.mp hwalk).2

/-- A path can only be walked if the directory before its last step can be, and is there. -/
theorem walk_of_walk_join {directory name : Text} (hname : IsStep name) (hdirectory : directory ≠ [])
    (hwalk : fs.walk here (join directory name) = .ok place) :
    ∃ above, fs.walk here directory = .ok above ∧ fs.at? above = some .directory := by
  obtain ⟨⟨hnul, -, hshort⟩, hsteps⟩ := walk_eq_ok_iff.mp hwalk
  have hpart := sublist_join directory name
  rw [origin_join hname, steps_join hname, List.foldlM_append] at hsteps
  obtain ⟨above, habove, hlast⟩ := exists_of_bind_eq_ok hsteps
  rw [List.foldlM_cons] at hlast
  obtain ⟨last, henter, -⟩ := exists_of_bind_eq_ok hlast
  refine ⟨above, walk_eq_ok_iff.mpr ⟨⟨?_, hdirectory, ?_⟩, habove⟩, (enter_eq_ok henter).2⟩
  · rw [Bool.eq_false_iff, ne_eq, List.contains_iff_mem] at hnul ⊢
    exact fun hmem => hnul (hpart.subset hmem)
  · exact Nat.le_trans (Text.size_le_of_sublist hpart) hshort

/-- A walk does the same wherever entries of the same kinds stand on the trail. -/
theorem walk_congr (hkinds : ∀ other ∈ trail here path, SameKind fs fs' other) :
    fs'.walk here path = fs.walk here path := by
  unfold walk
  rw [show (steps path).foldlM fs'.enter (if isAbsolute path then [] else here) =
    (steps path).foldlM fs.enter (if isAbsolute path then [] else here) from
      foldlM_enter_congr hkinds]

/-- What is found at a path is what stands at its destination. -/
theorem find_congr (hkinds : ∀ other ∈ trail here path, SameKind fs fs' other)
    (hstands : fs'.at? (destination here path) = fs.at? (destination here path)) :
    fs'.find here path = fs.find here path := by
  unfold find
  rw [walk_congr hkinds]
  cases hwalk : fs.walk here path with
  | error fault => rfl
  | ok place =>
      obtain ⟨rfl, -⟩ := walk_eq_ok hwalk
      simp only [bind, Except.bind, hstands]

/-- Where a file is to be written, and what it holds, is what stands at the destination. -/
theorem fileToWrite_congr (hkinds : ∀ other ∈ trail here path, SameKind fs fs' other)
    (hstands : fs'.at? (destination here path) = fs.at? (destination here path)) :
    fs'.fileToWrite here path = fs.fileToWrite here path := by
  unfold fileToWrite
  rw [walk_congr hkinds]
  cases hwalk : fs.walk here path with
  | error fault => rfl
  | ok place =>
      obtain ⟨rfl, -⟩ := walk_eq_ok hwalk
      simp only [bind, Except.bind, hstands]

theorem find_eq_ok {entry : Entry} (hfind : fs.find here path = .ok (place, entry)) :
    fs.walk here path = .ok place ∧ place = destination here path ∧
    fs.at? place = some entry := by
  obtain ⟨found, hwalk, hentry⟩ := exists_of_bind_eq_ok hfind
  have hfound : found = place := by
    split at hentry
    · cases hentry
    · split at hentry
      · cases hentry
      · cases hentry
        rfl
    · cases hentry
      rfl
  subst hfound
  exact ⟨hwalk, (walk_eq_ok hwalk).1, at?_of_find hfind⟩

end OperatorNames.FileSystem
