import OperatorNames.Proofs.FileSystem.Places
import OperatorNames.Proofs.Text.Pieces

/-!
# Paths and their steps

A path is its steps (`steps_pathOf`, `steps_join`), and a path that is put together again from its
steps, or from some of them, is a part of it (`pathOf_sublist`), so that it does not get too long.
-/

namespace OperatorNames

open Text

namespace FileSystem

/-- A text that is one step of a path. -/
structure IsStep (step : Text) : Prop where
  /-- There is something to it. -/
  ne_nil : step ≠ []
  /-- It is one step. -/
  no_slash : '/' ∉ step

/-- A name that one step of a path can lead to. -/
structure IsName (name : Text) : Prop extends IsStep name where
  /-- The name does not mean the directory itself. -/
  ne_here : name ≠ ['.']
  /-- The name does not mean the directory above. -/
  ne_above : name ≠ ['.', '.']
  /-- The name can be given to the system. -/
  no_nul : '\x00' ∉ name
  /-- The name is not too long. -/
  size_le : Utf8.size name ≤ maxName

/-! ## Steps -/

theorem isStep_of_mem_steps {path step : Text} (hstep : step ∈ steps path) : IsStep step := by
  obtain ⟨hpiece, hne⟩ := List.mem_filter.mp hstep
  constructor
  · rintro rfl
    simp at hne
  · intro hslash
    have hkept := (mem_of_mem_cutAt hpiece hslash).2
    simp at hkept

theorem steps_of_isStep {step : Text} (hstep : IsStep step) : steps step = [step] := by
  have hcut : ∀ c ∈ step, decide (c = '/') = false := by
    intro c hc
    rw [decide_eq_false_iff_not]
    rintro rfl
    exact hstep.no_slash hc
  unfold steps
  rw [cutAt_eq_singleton hcut, List.filter_cons_of_pos (by simp [hstep.ne_nil]), List.filter_nil]

theorem steps_append_slash (p q : Text) : steps (p ++ '/' :: q) = steps p ++ steps q := by
  unfold steps
  rw [cutAt_append_cons (by decide), List.filter_append]

theorem steps_cons_slash (path : Text) : steps ('/' :: path) = steps path := by
  have hempty : steps ([] : Text) = [] := rfl
  have hsplit := steps_append_slash [] path
  rwa [hempty, List.nil_append, List.nil_append] at hsplit

theorem steps_joinWith {l : List Text} (hsteps : ∀ step ∈ l, IsStep step) :
    steps (joinWith ['/'] l) = l := by
  induction l with
  | nil => rfl
  | cons step more ih =>
      have hstep := hsteps step List.mem_cons_self
      have hmore := ih fun other hother => hsteps other (List.mem_cons_of_mem step hother)
      cases more with
      | nil => exact steps_of_isStep hstep
      | cons next more =>
          rw [joinWith_cons _ _ (List.cons_ne_nil next more), List.append_assoc,
            List.singleton_append, steps_append_slash, steps_of_isStep hstep, hmore]
          rfl

/-- A path that is put together from steps has these steps. -/
theorem steps_pathOf (absolute : Bool) {l : List Text} (hsteps : ∀ step ∈ l, IsStep step) :
    steps (pathOf absolute l) = l := by
  unfold pathOf
  cases absolute with
  | false => simpa using steps_joinWith hsteps
  | true => simpa [steps_cons_slash] using steps_joinWith hsteps

theorem isAbsolute_pathOf (absolute : Bool) {l : List Text} (hsteps : ∀ step ∈ l, IsStep step) :
    isAbsolute (pathOf absolute l) = absolute := by
  unfold isAbsolute pathOf
  cases absolute with
  | true => simp
  | false =>
      cases l with
      | nil => simp [joinWith]
      | cons step more =>
          obtain ⟨hne, hslash⟩ := hsteps step List.mem_cons_self
          cases step with
          | nil => exact absurd rfl hne
          | cons c rest =>
              -- the first character is that of the first step
              have hc : c ≠ '/' := fun heq => hslash (heq ▸ List.mem_cons_self)
              cases more <;> simp [joinWith, hc]

/-- A path that is put together again from some of its steps is a part of it. -/
theorem pathOf_sublist {path : Text} {fewer : List Text} (hfewer : fewer.Sublist (steps path)) :
    (pathOf (isAbsolute path) fewer).Sublist path := by
  have hpieces : ∀ t : Text, (steps t).Sublist (cutAt (· = '/') t) := fun t =>
    List.filter_sublist
  cases habsolute : isAbsolute path with
  | false =>
      have hjoin := joinWith_sublist ['/'] (hfewer.trans (hpieces path))
      rw [joinWith_cutAt] at hjoin
      simpa [pathOf] using hjoin
  | true =>
      -- the slash at the beginning is no step
      cases path with
      | nil => simp [isAbsolute] at habsolute
      | cons c rest =>
          have hc : c = '/' := by simpa [isAbsolute] using habsolute
          subst hc
          rw [steps_cons_slash] at hfewer
          have hjoin := joinWith_sublist ['/'] (hfewer.trans (hpieces rest))
          rw [joinWith_cutAt] at hjoin
          simpa [pathOf] using hjoin

/-! ## Names in a directory -/

/-- A name after a path is one more step. -/
theorem steps_join {name : Text} (hname : IsStep name) (directory : Text) :
    steps (join directory name) = steps directory ++ [name] := by
  unfold join
  split
  · next hempty =>
      rw [List.isEmpty_iff.mp hempty, steps_of_isStep hname]
      rfl
  · split
    · next hslash =>
        obtain ⟨p, rfl⟩ : ∃ p, directory = p ++ ['/'] := by
          unfold asksForDirectory at hslash
          rw [decide_eq_true_eq, List.getLast?_eq_some_iff] at hslash
          exact hslash
        rw [List.append_assoc, List.singleton_append, steps_append_slash, steps_append_slash,
          steps_of_isStep hname]
        simp [steps, cutAt]
    · rw [steps_append_slash, steps_of_isStep hname]

theorem join_ne_nil {name : Text} (hname : IsStep name) (directory : Text) :
    join directory name ≠ [] := by
  intro hnil
  have hsteps := steps_join hname directory
  rw [hnil] at hsteps
  exact List.append_ne_nil_of_right_ne_nil _ (List.cons_ne_nil name []) hsteps.symm

theorem mem_join {c : Char} {directory name : Text} (hc : c ∈ join directory name) :
    c ∈ directory ∨ c = '/' ∨ c ∈ name := by
  unfold join at hc
  split at hc
  · exact .inr (.inr hc)
  · split at hc
    · rcases List.mem_append.mp hc with hdirectory | hname
      · exact .inl hdirectory
      · exact .inr (.inr hname)
    · rcases List.mem_append.mp hc with hdirectory | hrest
      · exact .inl hdirectory
      · exact .inr (List.mem_cons.mp hrest)

theorem head?_join {directory : Text} (hdirectory : directory ≠ []) (name : Text) :
    (join directory name).head? = directory.head? := by
  cases directory with
  | nil => exact absurd rfl hdirectory
  | cons c rest =>
      unfold join
      rw [if_neg (by simp)]
      split <;> rfl

/-- A directory is a part of the path of what is in it. -/
theorem sublist_join (directory name : Text) : directory.Sublist (join directory name) := by
  unfold join
  split
  · next hempty =>
      rw [List.isEmpty_iff.mp hempty]
      exact List.nil_sublist name
  · split <;> exact List.sublist_append_left _ _

/-- A path that ends in a name asks for no directory. -/
theorem asksForDirectory_join {name : Text} (hname : IsStep name) (directory : Text) :
    asksForDirectory (join directory name) = false := by
  obtain ⟨c, hc⟩ := Option.isSome_iff_exists.mp (List.getLast?_isSome.mpr hname.ne_nil)
  have hlast : (join directory name).getLast? = some c := by
    unfold join
    split
    · exact hc
    · split
      · rw [List.getLast?_append, hc]
        rfl
      · rw [List.getLast?_append, List.getLast?_cons, hc]
        rfl
  unfold asksForDirectory
  rw [hlast, decide_eq_false_iff_not, Option.some.injEq]
  rintro rfl
  exact hname.no_slash (List.mem_of_getLast? hc)

/-- A name in a directory leads to a place right below it. -/
theorem walk_join {fs : FileSystem} {here place : Place} {directory name : Text}
    (hname : IsName name) (hwalk : fs.walk here directory = .ok place)
    (hstands : fs.at? place = some .directory)
    (hshort : Utf8.size (join directory name) ≤ maxPath) :
    fs.walk here (join directory name) = .ok (place ++ [name]) := by
  unfold walk at hwalk ⊢
  split at hwalk
  · cases hwalk
  · next hnul =>
      split at hwalk
      · cases hwalk
      · next hempty =>
          split at hwalk
          · cases hwalk
          · have hdirectory : directory ≠ [] := by
              rintro rfl
              exact hempty rfl
            have hnul' : ¬ (join directory name).contains '\x00' = true := by
              rw [List.contains_iff_mem] at hnul ⊢
              intro hmem
              rcases mem_join hmem with hleft | hslash | hright
              · exact hnul hleft
              · cases hslash
              · exact hname.no_nul hright
            have hempty' : ¬ (join directory name).isEmpty = true := by
              intro hnone
              have hhead := head?_join hdirectory name
              rw [List.isEmpty_iff.mp hnone, List.head?_nil, eq_comm, List.head?_eq_none_iff]
                at hhead
              exact hdirectory hhead
            have habsolute : isAbsolute (join directory name) = isAbsolute directory := by
              unfold isAbsolute
              rw [head?_join hdirectory]
            have henter : fs.enter place name = .ok (place ++ [name]) := by
              have hsize := hname.size_le
              unfold enter
              rw [hstands]
              dsimp only
              rw [if_neg hname.ne_here, if_neg hname.ne_above, if_neg (by omega)]
            rw [if_neg hnul', if_neg hempty', if_neg (by omega), habsolute, steps_join hname.toIsStep,
              List.foldlM_append, hwalk]
            change (List.foldlM fs.enter place [name]) = _
            rw [List.foldlM_cons, henter]
            rfl

end FileSystem

end OperatorNames
