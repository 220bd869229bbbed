import OperatorNames.Proofs.FileSystem.Footprint

/-!
# Making directories

Making a directory with those above it that are missing makes nothing but directories on the trail of
its path (`covers_makeAll`), does nothing where the directory is there (`makeAll_of_walk`), and does
the same in two file systems that have the same kinds of entries on the trail (`makeAll_congr`).  So
does the writing of a file, if the file is the same in both (`writeWithin_congr`).
-/

namespace OperatorNames.FileSystem

variable {fs fs' made : FileSystem} {here place : Place} {path : Text} {absolute : Bool}
  {l : List Text}

/-! ## One directory -/

theorem makeDirectory_eq_ok (hmade : fs.makeDirectory here path = .ok made) :
    fs.at? (destination here path) = none ∧
    made = fs.put (destination here path) .directory := by
  obtain ⟨place, hwalk, hput⟩ := exists_of_bind_eq_ok hmade
  obtain ⟨rfl, -⟩ := walk_eq_ok hwalk
  split at hput
  · cases hput
  · next hfree =>
      cases hput
      exact ⟨hfree, rfl⟩

theorem makeDirectory_of_walk {entry : Entry} (hwalk : fs.walk here path = .ok place)
    (hstands : fs.at? place = some entry) :
    fs.makeDirectory here path = .error .entryExists := by
  unfold makeDirectory
  rw [hwalk]
  simp only [bind, Except.bind, hstands]
  rfl

theorem hasDirectory_iff : fs.hasDirectory here path = true ↔
    ∃ place, fs.walk here path = .ok place ∧ fs.at? place = some .directory := by
  unfold hasDirectory find
  cases hwalk : fs.walk here path with
  | error fault => simp [bind, Except.bind]
  | ok place =>
      simp only [bind, Except.bind, Except.ok.injEq, exists_eq_left']
      cases fs.at? place with
      | none => simp [throw, throwThe, MonadExceptOf.throw]
      | some entry =>
          cases entry with
          | directory => simp [pure, Except.pure]
          | file content =>
              -- with a slash at the end or without, a file is no directory
              cases asksForDirectory path <;>
                simp [pure, Except.pure, throw, throwThe, MonadExceptOf.throw]

/-! ## The steps of a path -/

/-- The steps along which directories are made. -/
def goingSteps (path : Text) : List Text :=
  (steps path).filter (· ≠ ['.'])

theorem goingSteps_sublist (path : Text) : (goingSteps path).Sublist (steps path) :=
  List.filter_sublist

theorem isStep_of_mem_goingSteps {step : Text} (hstep : step ∈ goingSteps path) : IsStep step :=
  isStep_of_mem_steps ((goingSteps_sublist path).subset hstep)

theorem mem_trail_of_mem_through {other : Place}
    (hother : other ∈ through (origin here path) (goingSteps path)) : other ∈ trail here path :=
  mem_through_of_mem_filter hother

theorem origin_pathOf (hsteps : ∀ step ∈ l, IsStep step) :
    origin here (pathOf absolute l) = if absolute then [] else here := by
  unfold origin
  rw [isAbsolute_pathOf absolute hsteps]

theorem trail_pathOf (hsteps : ∀ step ∈ l, IsStep step) :
    trail here (pathOf absolute l) = through (if absolute then [] else here) l := by
  unfold trail
  rw [origin_pathOf hsteps, steps_pathOf absolute hsteps]

theorem destination_pathOf (hsteps : ∀ step ∈ l, IsStep step) :
    destination here (pathOf absolute l) = l.foldl advance (if absolute then [] else here) := by
  unfold destination
  rw [origin_pathOf hsteps, steps_pathOf absolute hsteps]

/-- A path that is put together again from some of its steps is walked by these. -/
theorem walk_pathOf {fewer : List Text} (hnul : path.contains '\x00' = false)
    (hshort : Text.Utf8.size path ≤ maxPath) (hfewer : fewer.Sublist (steps path))
    (hsome : fewer ≠ []) (fs : FileSystem) (here : Place) :
    fs.walk here (pathOf (isAbsolute path) fewer) =
      fewer.foldlM fs.enter (origin here path) := by
  have hsteps : ∀ step ∈ fewer, IsStep step := fun step hstep =>
    isStep_of_mem_steps (hfewer.subset hstep)
  have hpart := pathOf_sublist hfewer
  have hnul' : ¬ (pathOf (isAbsolute path) fewer).contains '\x00' = true := by
    rw [Bool.eq_false_iff, ne_eq, List.contains_iff_mem] at hnul
    rw [List.contains_iff_mem]
    exact fun hmem => hnul (hpart.subset hmem)
  have hsome' : ¬ (pathOf (isAbsolute path) fewer).isEmpty = true := by
    intro hempty
    have hnone := steps_pathOf (isAbsolute path) hsteps
    rw [List.isEmpty_iff.mp hempty] at hnone
    exact hsome hnone.symm
  have hshort' : ¬ maxPath < Text.Utf8.size (pathOf (isAbsolute path) fewer) :=
    Nat.not_lt.mpr (Nat.le_trans (Text.size_le_of_sublist hpart) hshort)
  unfold walk
  rw [if_neg hnul', if_neg hsome', if_neg hshort', steps_pathOf _ hsteps,
    isAbsolute_pathOf _ hsteps]
  rfl

/-! ## All directories -/

/-- What becomes of the files where a directory is made once those above it are there. -/
def settled (fs : FileSystem) (here : Place) (path : Text) : Except Fault Unit × FileSystem :=
  match fs.makeDirectory here path with
  | .ok made => (.ok (), made)
  | .error fault => (if fs.hasDirectory here path then .ok () else .error fault, fs)

theorem makeAllFrom_cons (step : Text) (above : List Text) :
    fs.makeAllFrom here absolute (step :: above) =
      match fs.makeDirectory here (pathOf absolute (step :: above).reverse) with
      | .ok made => (.ok (), made)
      | .error fault =>
        if fault.kind = .notFound then
          match fs.makeAllFrom here absolute above with
          | (.error fault, fs) => (.error fault, fs)
          | (.ok (), fs) => fs.settled here (pathOf absolute (step :: above).reverse)
        else fs.settled here (pathOf absolute (step :: above).reverse) :=
  rfl

section Footprint

variable {f : Footprint}

theorem covers_makeDirectory (hplace : f.directories (destination here path))
    (hmade : fs.makeDirectory here path = .ok made) : f.Covers fs made := by
  obtain ⟨hfree, rfl⟩ := makeDirectory_eq_ok hmade
  refine .put ?_
  rw [hfree]
  exact .directory hplace

theorem covers_settled (fs : FileSystem) (hplace : f.directories (destination here path)) :
    f.Covers fs (fs.settled here path).2 := by
  unfold settled
  split
  · next made hmade => exact covers_makeDirectory hplace hmade
  · exact .refl f fs

theorem covers_makeAllFrom (fs : FileSystem) (hsteps : ∀ step ∈ l, IsStep step)
    (hplaces : ∀ other ∈ through (if absolute then [] else here) l.reverse, f.directories other) :
    f.Covers fs (fs.makeAllFrom here absolute l).2 := by
  induction l with
  | nil => exact .refl f fs
  | cons step above ih =>
      have hreversed : ∀ other ∈ (step :: above).reverse, IsStep other := fun other hother =>
        hsteps other (List.mem_reverse.mp hother)
      -- the places above are on the way too
      have habove := ih (fun other hother => hsteps other (List.mem_cons_of_mem step hother)) <| by
        intro other hother
        refine hplaces other ?_
        rw [List.reverse_cons]
        exact mem_through_append [step] hother
      have hplace : f.directories (destination here (pathOf absolute (step :: above).reverse)) := by
        rw [destination_pathOf hreversed]
        exact hplaces _ (last_mem_through _ _)
      rw [makeAllFrom_cons]
      split
      · next made hmade => exact covers_makeDirectory hplace hmade
      · split
        · split
          · next hall =>
              rw [hall] at habove
              exact habove
          · next hall =>
              rw [hall] at habove
              exact habove.trans (covers_settled _ hplace)
        · exact covers_settled fs hplace

/-- Only directories on the trail are made. -/
theorem covers_makeAll (fs : FileSystem) (here : Place) (path : Text)
    (hplaces : ∀ other ∈ trail here path, f.directories other) :
    f.Covers fs (fs.makeAll here path).2 := by
  unfold makeAll
  split
  · exact .refl f fs
  · refine covers_makeAllFrom fs ?_ ?_
    · intro step hstep
      exact isStep_of_mem_goingSteps (List.mem_reverse.mp hstep)
    · intro other hother
      rw [List.reverse_reverse] at hother
      exact hplaces other (mem_trail_of_mem_through hother)

end Footprint

/-- What making a directory may change. -/
def making (here : Place) (path : Text) : Footprint where
  directories := (· ∈ trail here path)
  logs _ := False
  files _ _ := False

theorem covers_making (fs : FileSystem) (here : Place) (path : Text) :
    (making here path).Covers fs (fs.makeAll here path).2 :=
  covers_makeAll fs here path fun _ hother => hother

/-- What stands somewhere stays as it is. -/
theorem at?_makeAll_of_some {entry : Entry} (here : Place) (path : Text)
    (hstands : fs.at? place = some entry) :
    (fs.makeAll here path).2.at? place = some entry := by
  have hturn := covers_making fs here path place
  rw [hstands] at hturn
  exact hturn.entry_stays id

/-- Nothing but a directory can come to stand where nothing stood. -/
theorem at?_makeAll_of_none (here : Place) (path : Text) (hfree : fs.at? place = none) :
    (fs.makeAll here path).2.at? place = none ∨
    (fs.makeAll here path).2.at? place = some .directory := by
  have hturn := covers_making fs here path place
  rw [hfree] at hturn
  exact hturn.free_place id fun _ => id

/-- Nothing changes off the trail. -/
theorem at?_makeAll_of_not_mem (fs : FileSystem) (hplace : place ∉ trail here path) :
    (fs.makeAll here path).2.at? place = fs.at? place :=
  (covers_making fs here path place).untouched hplace id fun _ => id

/-- Nothing happens where the directory is there. -/
theorem makeAll_of_walk (hwalk : fs.walk here path = .ok place)
    (hstands : fs.at? place = some .directory) : fs.makeAll here path = (.ok (), fs) := by
  obtain ⟨⟨hnul, -, hshort⟩, hsteps⟩ := walk_eq_ok_iff.mp hwalk
  unfold makeAll
  rw [if_neg (by omega)]
  show fs.makeAllFrom here (isAbsolute path) (goingSteps path).reverse = _
  cases hgoing : (goingSteps path).reverse with
  | nil => rfl
  | cons step above =>
      have hreversed : (step :: above).reverse = goingSteps path := by
        rw [← hgoing, List.reverse_reverse]
      have hsome : goingSteps path ≠ [] := by
        rw [← hreversed]
        simp
      -- the path without the steps that stay where they are leads to the same place
      have hwalk' : fs.walk here (pathOf (isAbsolute path) (goingSteps path)) = .ok place := by
        rw [walk_pathOf hnul hshort (goingSteps_sublist path) hsome]
        exact foldlM_enter_filter hsteps
      have hexists : fs.makeDirectory here (pathOf (isAbsolute path) (goingSteps path)) =
          .error .entryExists := makeDirectory_of_walk hwalk' hstands
      rw [makeAllFrom_cons, hreversed, hexists]
      dsimp only
      rw [if_neg (by decide), settled, hexists, hasDirectory_iff.mpr ⟨place, hwalk', hstands⟩]
      rfl

/-! ## Two file systems -/

/-- Two file systems that agree at some places on what is a file and what is a directory still do
after a change of both, and where what stands was the same it still is. -/
structure StayAlike (fs fs' after after' : FileSystem) (alike : Place → Prop) : Prop where
  kinds : ∀ other, alike other → SameKind after after' other
  entries : ∀ other, alike other → fs'.at? other = fs.at? other → after'.at? other = after.at? other

namespace StayAlike

variable {alike : Place → Prop} {after after' last last' : FileSystem}

theorem refl (hkinds : ∀ other, alike other → SameKind fs fs' other) :
    StayAlike fs fs' fs fs' alike :=
  ⟨hkinds, fun _ _ hsame => hsame⟩

theorem trans (hfirst : StayAlike fs fs' after after' alike)
    (hsecond : StayAlike after after' last last' alike) : StayAlike fs fs' last last' alike :=
  ⟨hsecond.kinds, fun other halike hsame =>
    hsecond.entries other halike (hfirst.entries other halike hsame)⟩

/-- The same entry is put at the same place. -/
theorem put (hkinds : ∀ other, alike other → SameKind fs fs' other) (place : Place) (entry : Entry) :
    StayAlike fs fs' (fs.put place entry) (fs'.put place entry) alike := by
  have hplace : ∀ gs : FileSystem, (gs.put place entry).at? place =
      if place = [] then some .directory else some entry := by
    intro gs
    split
    · next hroot =>
        subst hroot
        rfl
    · next hroot => exact at?_put_self gs entry hroot
  constructor
  · intro other halike
    by_cases hother : other = place
    · subst hother
      exact .of_eq (by rw [hplace, hplace])
    · unfold SameKind
      rw [at?_put_of_ne fs entry hother, at?_put_of_ne fs' entry hother]
      exact hkinds other halike
  · intro other _ hsame
    by_cases hother : other = place
    · subst hother
      rw [hplace, hplace]
    · rw [at?_put_of_ne fs entry hother, at?_put_of_ne fs' entry hother, hsame]

end StayAlike

section Alike

variable {alike : Place → Prop}

/-- Whether a directory can be made, and where, depends on what its path leads through. -/
theorem makeDirectory_congr (hkinds : ∀ other ∈ trail here path, SameKind fs fs' other) :
    (∃ fault, fs.makeDirectory here path = .error fault ∧
      fs'.makeDirectory here path = .error fault) ∨
    (fs.makeDirectory here path = .ok (fs.put (destination here path) .directory) ∧
      fs'.makeDirectory here path = .ok (fs'.put (destination here path) .directory)) := by
  unfold makeDirectory
  rw [walk_congr hkinds]
  cases hwalk : fs.walk here path with
  | error fault => exact .inl ⟨fault, rfl, rfl⟩
  | ok place =>
      obtain ⟨rfl, -⟩ := walk_eq_ok hwalk
      have hnone := (hkinds _ (destination_mem_trail here path)).none_iff
      simp only [bind, Except.bind]
      cases hstands : fs.at? (destination here path) with
      | none =>
          rw [hnone.mpr hstands]
          exact .inr ⟨rfl, rfl⟩
      | some entry =>
          cases hstands' : fs'.at? (destination here path) with
          | none =>
              rw [hnone.mp hstands'] at hstands
              cases hstands
          | some entry' => exact .inl ⟨_, rfl, rfl⟩

theorem hasDirectory_congr (hkinds : ∀ other ∈ trail here path, SameKind fs fs' other) :
    fs'.hasDirectory here path = fs.hasDirectory here path := by
  rw [Bool.eq_iff_iff, hasDirectory_iff, hasDirectory_iff, walk_congr hkinds]
  refine exists_congr fun place => and_congr_right fun hwalk => ?_
  obtain ⟨rfl, -⟩ := walk_eq_ok hwalk
  exact (hkinds _ (destination_mem_trail here path)).directory_iff

theorem settled_congr (hkinds : ∀ other, alike other → SameKind fs fs' other)
    (htrail : ∀ other ∈ trail here path, alike other) :
    (fs'.settled here path).1 = (fs.settled here path).1 ∧
    StayAlike fs fs' (fs.settled here path).2 (fs'.settled here path).2 alike := by
  have honTrail : ∀ other ∈ trail here path, SameKind fs fs' other := fun other hother =>
    hkinds other (htrail other hother)
  unfold settled
  obtain ⟨fault, hfs, hfs'⟩ | ⟨hfs, hfs'⟩ := makeDirectory_congr honTrail
  · rw [hfs, hfs', hasDirectory_congr honTrail]
    exact ⟨rfl, .refl hkinds⟩
  · rw [hfs, hfs']
    exact ⟨rfl, .put hkinds _ _⟩

theorem makeAllFrom_congr (hkinds : ∀ other, alike other → SameKind fs fs' other)
    (hsteps : ∀ step ∈ l, IsStep step)
    (htrail : ∀ other ∈ through (if absolute then [] else here) l.reverse, alike other) :
    (fs'.makeAllFrom here absolute l).1 = (fs.makeAllFrom here absolute l).1 ∧
    StayAlike fs fs' (fs.makeAllFrom here absolute l).2 (fs'.makeAllFrom here absolute l).2
      alike := by
  induction l with
  | nil => exact ⟨rfl, .refl hkinds⟩
  | cons step above ih =>
      have hreversed : ∀ other ∈ (step :: above).reverse, IsStep other := fun other hother =>
        hsteps other (List.mem_reverse.mp hother)
      have honPath : ∀ other ∈ trail here (pathOf absolute (step :: above).reverse), alike other := by
        rw [trail_pathOf hreversed]
        exact htrail
      obtain ⟨hresult, hstay⟩ :=
        ih (fun other hother => hsteps other (List.mem_cons_of_mem step hother)) <| by
          intro other hother
          refine htrail other ?_
          rw [List.reverse_cons]
          exact mem_through_append [step] hother
      rw [makeAllFrom_cons, makeAllFrom_cons]
      obtain ⟨fault, hfs, hfs'⟩ | ⟨hfs, hfs'⟩ :=
        makeDirectory_congr fun other hother => hkinds other (honPath other hother)
      · rw [hfs, hfs']
        dsimp only
        by_cases hmissing : fault.kind = .notFound
        -- the directories above are made first, which comes to the same on both sides
        · simp only [if_pos hmissing]
          generalize fs.makeAllFrom here absolute above = first at hresult hstay ⊢
          generalize fs'.makeAllFrom here absolute above = first' at hresult hstay ⊢
          obtain ⟨result, after⟩ := first
          obtain ⟨result', after'⟩ := first'
          cases (hresult : result' = result)
          cases result with
          | error fault => exact ⟨rfl, hstay⟩
          | ok done =>
              obtain ⟨hsettled, hstay'⟩ := settled_congr hstay.kinds honPath
              exact ⟨hsettled, hstay.trans hstay'⟩
        · simp only [if_neg hmissing]
          exact settled_congr hkinds honPath
      · rw [hfs, hfs']
        exact ⟨rfl, .put hkinds _ _⟩

/-- Directories are made alike where the same kinds of entries stand on the way. -/
theorem makeAll_congr (here : Place) (path : Text)
    (hkinds : ∀ other, alike other → SameKind fs fs' other)
    (htrail : ∀ other ∈ trail here path, alike other) :
    (fs'.makeAll here path).1 = (fs.makeAll here path).1 ∧
    StayAlike fs fs' (fs.makeAll here path).2 (fs'.makeAll here path).2 alike := by
  unfold makeAll
  split
  · exact ⟨rfl, .refl hkinds⟩
  · refine makeAllFrom_congr hkinds ?_ ?_
    · intro step hstep
      exact isStep_of_mem_goingSteps (List.mem_reverse.mp hstep)
    · intro other hother
      rw [List.reverse_reverse] at hother
      exact htrail other (mem_trail_of_mem_through hother)

/-- What writing a file comes to depends on that file and on the way to it. -/
theorem writeWithin_congr (storage : Storage) (content : Bytes)
    (hkinds : ∀ other, alike other → SameKind fs fs' other)
    (hfile : fs'.fileToWrite here path = fs.fileToWrite here path) :
    (fs'.writeWithin storage here path content).1 = (fs.writeWithin storage here path content).1 ∧
    StayAlike fs fs' (fs.writeWithin storage here path content).2
      (fs'.writeWithin storage here path content).2 alike := by
  unfold writeWithin
  rw [hfile]
  cases fs.fileToWrite here path with
  | error fault => exact ⟨rfl, .refl hkinds⟩
  | ok target =>
      have hput := StayAlike.put hkinds target.1 (.file (storage.kept content))
      dsimp only
      split
      · exact ⟨rfl, .refl hkinds⟩
      · cases storage.overflow? content with
        | some fault => exact ⟨rfl, hput⟩
        | none => exact ⟨rfl, hput⟩

end Alike

end OperatorNames.FileSystem
