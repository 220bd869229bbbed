import OperatorNames.Proofs.FileSystem.MakeAll

/-!
# When directories can be made

Steps can be taken, once the directories are there, if no name among them is too long and no file
stands on the way (`Passable`).  Then a directory can be made with all those above it that are missing,
and every place on its trail is a directory afterwards (`makeAll_of_passable`).
-/

namespace OperatorNames.FileSystem

open Text

/-- Steps from a place on that can be taken as soon as the directories are there. -/
structure Passable (fs : FileSystem) (place : Place) (l : List Text) : Prop where
  /-- No name is too long. -/
  names : ∀ step ∈ l, Utf8.size step ≤ maxName
  /-- No file is in the way. -/
  noFile : ∀ other ∈ through place l, ∀ content, fs.at? other ≠ some (.file content)

variable {fs : FileSystem} {here place last : Place} {path step : Text} {l : List Text}

/-! ## Steps and trails -/

theorem enter_of_directory (hstands : fs.at? place = some .directory)
    (hsize : Utf8.size step ≤ maxName) : fs.enter place step = .ok (advance place step) := by
  unfold enter advance
  rw [hstands]
  dsimp only
  split
  · rfl
  · split
    · rfl
    · rw [if_neg (Nat.not_lt.mpr hsize)]

theorem size_le_of_enter (henter : fs.enter place step = .ok last) : Utf8.size step ≤ maxName := by
  unfold enter at henter
  split at henter
  · cases henter
  · cases henter
  · split at henter
    · next hhere =>
        rw [hhere]
        decide
    · split at henter
      · next habove =>
          rw [habove]
          decide
      · split at henter
        · cases henter
        · next hsize => exact Nat.not_lt.mp hsize

theorem size_le_of_foldlM_enter (hsteps : l.foldlM fs.enter place = .ok last) :
    ∀ step ∈ l, Utf8.size step ≤ maxName := by
  induction l generalizing place with
  | nil =>
      intro step hstep
      cases hstep
  | cons first more ih =>
      rw [List.foldlM_cons] at hsteps
      obtain ⟨next, henter, hmore⟩ := exists_of_bind_eq_ok hsteps
      intro step hstep
      rcases List.mem_cons.mp hstep with rfl | hlater
      · exact size_le_of_enter henter
      · exact ih hmore step hlater

/-- Steps through directories can be taken. -/
theorem foldlM_enter_of_trail (hnames : ∀ step ∈ l, Utf8.size step ≤ maxName)
    (hdirectories : ∀ other ∈ through place l, fs.at? other = some .directory) :
    l.foldlM fs.enter place = .ok (l.foldl advance place) := by
  induction l generalizing place with
  | nil => rfl
  | cons first more ih =>
      have henter := enter_of_directory (hdirectories place List.mem_cons_self)
        (hnames first List.mem_cons_self)
      rw [List.foldlM_cons, henter]
      exact ih (fun step hstep => hnames step (List.mem_cons_of_mem first hstep))
        fun other hother => hdirectories other (List.mem_cons_of_mem place hother)

/-- One step more leads through one place more. -/
theorem mem_through_concat {other : Place} :
    other ∈ through place (l ++ [step]) ↔
      other ∈ through place l ∨ other = advance (l.foldl advance place) step := by
  induction l generalizing place with
  | nil => simp [through]
  | cons first more ih =>
      rw [List.cons_append, through, through, List.mem_cons, List.mem_cons, ih, or_assoc]
      rfl

/-- Behind a name in a directory, a path leads through one place more. -/
theorem mem_trail_of_mem_trail_join {directory name : Text}
    (hname : IsStep name) (hplace : place ∈ trail here (join directory name)) :
    place ∈ trail here directory ∨ place = destination here (join directory name) := by
  rw [destination_join hname]
  unfold trail at hplace
  rw [origin_join hname, steps_join hname] at hplace
  exact mem_through_concat.mp hplace

/-- Steps that stay where they are lead through no other place. -/
theorem mem_through_filter {other : Place} (hother : other ∈ through place l) :
    other ∈ through place (l.filter (· ≠ ['.'])) := by
  induction l generalizing place with
  | nil => exact hother
  | cons first more ih =>
      by_cases hfirst : first = ['.']
      · subst hfirst
        rw [List.filter_cons_of_neg (by simp)]
        rcases List.mem_cons.mp hother with rfl | hlater
        · exact mem_through_self _ _
        · exact ih hlater
      · rw [List.filter_cons_of_pos (by simpa using hfirst)]
        rcases List.mem_cons.mp hother with rfl | hlater
        · exact mem_through_self _ _
        · exact List.mem_cons_of_mem place (ih hlater)

namespace Passable

/-- Where no file is in the way, steps can be taken unless something is missing. -/
theorem foldlM_enter (hpass : Passable fs place l) :
    l.foldlM fs.enter place = .ok (l.foldl advance place) ∨
      l.foldlM fs.enter place = .error .noSuchEntry := by
  induction l generalizing place with
  | nil => exact .inl rfl
  | cons first more ih =>
      rw [List.foldlM_cons]
      cases hstands : fs.at? place with
      | none =>
          right
          unfold enter
          rw [hstands]
          rfl
      | some entry =>
          cases entry with
          | file content => exact absurd hstands (hpass.noFile place List.mem_cons_self content)
          | directory =>
              rw [enter_of_directory hstands (hpass.names first List.mem_cons_self)]
              exact ih
                { names := fun step hstep => hpass.names step (List.mem_cons_of_mem first hstep)
                  noFile := fun other hother =>
                    hpass.noFile other (List.mem_cons_of_mem place hother) }

theorem of_concat (hpass : Passable fs place (l ++ [step])) : Passable fs place l where
  names other hother := hpass.names other (List.mem_append_left [step] hother)
  noFile other hother := hpass.noFile other (mem_through_append [step] hother)

end Passable

/-! ## Making directories -/

/-- A directory that is not there is made where its path can be walked. -/
theorem makeDirectory_of_free (hwalk : fs.walk here path = .ok place)
    (hfree : fs.at? place = none) :
    fs.makeDirectory here path = .ok (fs.put place .directory) := by
  unfold makeDirectory
  rw [hwalk]
  simp only [bind, Except.bind, hfree]
  rfl

/-- A path that leads to a directory leads through nothing but directories. -/
theorem directory_of_walk (hwalk : fs.walk here path = .ok place)
    (hstands : fs.at? place = some .directory) :
    ∀ other ∈ trail here path, fs.at? other = some .directory := by
  intro other hother
  by_cases hlast : other = place
  · rw [hlast, hstands]
  · exact (walk_eq_ok hwalk).2 other hother hlast

/-- Where a path can be walked to a place without a file, all of its trail are directories in the
end. -/
theorem settled_of_walk (hwalk : fs.walk here path = .ok place)
    (hnoFile : ∀ content, fs.at? place ≠ some (.file content)) :
    (fs.settled here path).1 = .ok () ∧
    ∀ other ∈ trail here path, (fs.settled here path).2.at? other = some .directory := by
  unfold settled
  cases hstands : fs.at? place with
  | none =>
      rw [makeDirectory_of_free hwalk hstands]
      refine ⟨rfl, ?_⟩
      intro other hother
      show (fs.put place .directory).at? other = _
      by_cases hlast : other = place
      · rw [hlast, at?_put_self fs _ (ne_root_of_at?_eq_none hstands)]
      · rw [at?_put_of_ne fs _ hlast, (walk_eq_ok hwalk).2 other hother hlast]
  | some entry =>
      cases entry with
      | file content => exact absurd hstands (hnoFile content)
      | directory =>
          rw [makeDirectory_of_walk hwalk hstands]
          dsimp only
          rw [hasDirectory_iff.mpr ⟨place, hwalk, hstands⟩]
          exact ⟨rfl, directory_of_walk hwalk hstands⟩

/-- Where a path can be walked, nothing has to be made above it. -/
theorem makeAllFrom_of_walk {absolute : Bool} {above : List Text}
    (hwalk : fs.walk here (pathOf absolute (step :: above).reverse) = .ok place) :
    fs.makeAllFrom here absolute (step :: above) =
      fs.settled here (pathOf absolute (step :: above).reverse) := by
  rw [makeAllFrom_cons]
  cases hstands : fs.at? place with
  | none => rw [settled, makeDirectory_of_free hwalk hstands]
  | some entry =>
      rw [makeDirectory_of_walk hwalk hstands]
      exact if_neg (by decide)

theorem makeAllFrom_of_passable (hnul : path.contains '\x00' = false)
    (hshort : Utf8.size path ≤ maxPath) (horigin : fs.at? (origin here path) = some .directory)
    (hpart : l.reverse.Sublist (steps path)) (hpass : Passable fs (origin here path) l.reverse) :
    (fs.makeAllFrom here (isAbsolute path) l).1 = .ok () ∧
    ∀ other ∈ through (origin here path) l.reverse,
      (fs.makeAllFrom here (isAbsolute path) l).2.at? other = some .directory := by
  induction l with
  | nil =>
      refine ⟨rfl, ?_⟩
      intro other hother
      rw [List.mem_singleton.mp hother]
      exact horigin
  | cons step above ih =>
      have hsteps : ∀ other ∈ (step :: above).reverse, IsStep other := fun other hother =>
        isStep_of_mem_steps (hpart.subset hother)
      have hwalk := walk_pathOf hnul hshort hpart (by simp)
      have htrail : through (origin here path) (step :: above).reverse =
          trail here (pathOf (isAbsolute path) (step :: above).reverse) := (trail_pathOf hsteps).symm
      rw [htrail]
      obtain hthere | hmissing := hpass.foldlM_enter
      · rw [← hwalk fs here] at hthere
        rw [makeAllFrom_of_walk hthere]
        exact settled_of_walk hthere (hpass.noFile _ (last_mem_through _ _))
      · -- the directories above are made first, and then the path can be walked
        have hunmade : fs.makeDirectory here (pathOf (isAbsolute path) (step :: above).reverse) =
            .error .noSuchEntry := by
          unfold makeDirectory
          rw [hwalk, hmissing]
          rfl
        let f : Footprint :=
          { directories := fun _ => True, logs := fun _ => False, files := fun _ _ => False }
        have hcovers : f.Covers fs (fs.makeAllFrom here (isAbsolute path) above).2 :=
          covers_makeAllFrom fs (fun other hother => hsteps other (by simp [hother]))
            fun _ _ => trivial
        rw [makeAllFrom_cons, hunmade]
        rw [List.reverse_cons] at hpart hpass
        obtain ⟨hdone, hdirectories⟩ :=
          ih ((List.sublist_append_left _ _).trans hpart) hpass.of_concat
        generalize fs.makeAllFrom here (isAbsolute path) above = first
          at hdone hdirectories hcovers ⊢
        obtain ⟨result, after⟩ := first
        cases (hdone : result = .ok ())
        have hthere : after.walk here (pathOf (isAbsolute path) (step :: above).reverse) =
            .ok (advance (above.reverse.foldl advance (origin here path)) step) := by
          rw [hwalk, List.reverse_cons, List.foldlM_append,
            foldlM_enter_of_trail hpass.of_concat.names hdirectories]
          show List.foldlM after.enter _ [step] = _
          rw [List.foldlM_cons, enter_of_directory (hdirectories _ (last_mem_through _ _))
            (hpass.names step (by simp))]
          rfl
        refine settled_of_walk hthere ?_
        intro content hfile
        -- no file has been made, so that it would have been in the way from the beginning
        have hturn := hcovers (advance (above.reverse.foldl advance (origin here path)) step)
        rw [hfile] at hturn
        exact hpass.noFile _ (mem_through_concat.mpr (.inr rfl)) content
          ((hturn.file_was id).resolve_right fun hmade => hmade.2)

/-- **A directory can be made** with all those above it if no name is too long and no file is in the
way, and then its trail consists of directories. -/
theorem makeAll_of_passable (hnul : path.contains '\x00' = false)
    (hshort : Utf8.size path ≤ maxPath) (horigin : fs.at? (origin here path) = some .directory)
    (hpass : Passable fs (origin here path) (steps path)) :
    (fs.makeAll here path).1 = .ok () ∧
    ∀ other ∈ trail here path, (fs.makeAll here path).2.at? other = some .directory := by
  have hgoing : Passable fs (origin here path) (goingSteps path) :=
    { names := fun step hstep => hpass.names step ((goingSteps_sublist path).subset hstep)
      noFile := fun other hother => hpass.noFile other (mem_trail_of_mem_through hother) }
  have hall := makeAllFrom_of_passable (l := (goingSteps path).reverse) hnul hshort horigin
    (by rw [List.reverse_reverse]; exact goingSteps_sublist path) (by rwa [List.reverse_reverse])
  rw [List.reverse_reverse] at hall
  unfold makeAll
  rw [if_neg (Nat.not_lt.mpr hshort)]
  exact ⟨hall.1, fun other hother => hall.2 other (mem_through_filter hother)⟩

/-- Directories that can be made later on can be made before. -/
theorem makeAll_of_covers {later after : FileSystem} {f : Footprint} {above : Place}
    (hcovers : f.Covers fs later) (horigin : fs.at? (origin here path) = some .directory)
    (hlater : later.makeAll here path = (.ok (), after))
    (hwalk : after.walk here path = .ok above) (habove : after.at? above = some .directory) :
    (fs.makeAll here path).1 = .ok () ∧
    ∀ other ∈ trail here path, after.at? other = some .directory ∧
      (fs.makeAll here path).2.at? other = some .directory := by
  have hafter := directory_of_walk hwalk habove
  obtain ⟨⟨hnul, -, hshort⟩, hsteps⟩ := walk_eq_ok_iff.mp hwalk
  have hpass : Passable fs (origin here path) (steps path) :=
    { names := size_le_of_foldlM_enter hsteps
      noFile := by
        -- a file in the way would be there to the end
        intro other hother content hfile
        have hturn := hcovers other
        rw [hfile] at hturn
        obtain ⟨more, hmore⟩ := hturn.file_stays
        have hkept := at?_makeAll_of_some here path hmore
        rw [hlater, hafter other hother] at hkept
        cases hkept }
  obtain ⟨hmade, htrail⟩ := makeAll_of_passable hnul hshort horigin hpass
  exact ⟨hmade, fun other hother => ⟨hafter other hother, htrail other hother⟩⟩

end OperatorNames.FileSystem
