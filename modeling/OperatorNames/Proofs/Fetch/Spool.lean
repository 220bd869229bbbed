import OperatorNames.Fetch
import OperatorNames.Proofs.Surroundings.KeepsFiles

/-!
# Spooling a document

How the place of a temporary file is chosen (`vacancy_eq_ok_iff`) and the three ways in which
spooling ends (`spool_cases`): no file could be made, the file did not take the document in whole
and is gone again, or the document stands in a file of its own.  Nothing else is left behind
(`leavesSpooled_spool`).
-/

namespace OperatorNames.Fetch

open Surroundings

/-- Trying numbers from zero on stops at the first that gives something. -/
theorem findSome?_range_eq_some_iff {α : Type} (f : Nat → Option α) (k : Nat) (a : α) :
    (List.range k).findSome? f = some a ↔
      ∃ n < k, (∀ m < n, f m = none) ∧ f n = some a := by
  induction k with
  | zero => simp
  | succ k ih =>
      rw [List.range_succ, List.findSome?_append]
      -- the last number counts only if none before it gives anything
      cases hbefore : (List.range k).findSome? f with
      | some b =>
          rw [Option.some_or]
          rw [hbefore] at ih
          rw [ih]
          constructor
          · rintro ⟨n, hn, hfirst⟩
            exact ⟨n, by omega, hfirst⟩
          · rintro ⟨n, hn, hfirst, hfound⟩
            have hbelow : n ≠ k := by
              rintro rfl
              obtain ⟨m, hm, hmfound⟩ := List.exists_of_findSome?_eq_some hbefore
              rw [hfirst m (List.mem_range.mp hm)] at hmfound
              simp at hmfound
            exact ⟨n, by omega, hfirst, hfound⟩
      | none =>
          rw [List.findSome?_eq_none_iff] at hbefore
          simp only [Option.none_or, List.findSome?_singleton]
          constructor
          · intro hfound
            exact ⟨k, by omega, fun m hm => hbefore m (List.mem_range.mpr hm), hfound⟩
          · rintro ⟨n, hn, -, hfound⟩
            have hlast : ¬ n < k := by
              intro hlt
              rw [hbefore n (List.mem_range.mpr hlt)] at hfound
              simp at hfound
            rw [show k = n by omega]
            exact hfound

/-- A temporary file can be made in a directory under the name of a number: the path leads to a
place that is free, and the storage does not refuse. -/
structure Vacant (storage : Storage) (files : FileSystem) (here : Place) (directory : Text) (n : Nat)
    (path : Text) (place : Place) : Prop where
  /-- The path ends in the name of the number. -/
  path_eq : path = FileSystem.join directory (temporaryName n)
  /-- The path leads to the place. -/
  walk : files.walk here path = .ok place
  /-- Nothing stands there. -/
  free : files.at? place = none
  /-- Files can be made. -/
  granted : storage.refusal? = none

theorem numbered_eq_ok_iff (storage : Storage) (files : FileSystem) (here place : Place)
    (directory path : Text) (n : Nat) :
    numbered storage files here directory n = some (.ok (path, place)) ↔
      Vacant storage files here directory n path place := by
  constructor
  · intro hmade
    unfold numbered at hmade
    dsimp only at hmade
    split at hmade
    · simp at hmade
    · next found hwalk =>
        split at hmade
        · simp at hmade
        · next hfree =>
            split at hmade
            · simp at hmade
            · next hgranted =>
                cases hmade
                exact ⟨rfl, hwalk, hfree, hgranted⟩
  · rintro ⟨rfl, hwalk, hfree, hgranted⟩
    simp only [numbered, hwalk, hfree, hgranted]

/-- **A temporary file is made under the first name that is free**, and only if one of the numbers
up to that of the entries gives it. -/
theorem vacancy_eq_ok_iff (storage : Storage) (files : FileSystem) (here place : Place)
    (directory path : Text) :
    vacancy storage files here directory = .ok (path, place) ↔
      ∃ n ≤ files.entries.length,
        (∀ m < n, numbered storage files here directory m = none) ∧
        Vacant storage files here directory n path place := by
  unfold vacancy
  constructor
  · intro hmade
    cases hfound : (List.range (files.entries.length + 1)).findSome?
        (numbered storage files here directory) with
    | none => simp [hfound] at hmade
    | some outcome =>
        rw [hfound, Option.getD_some] at hmade
        subst hmade
        obtain ⟨n, hn, hfirst, hnth⟩ := (findSome?_range_eq_some_iff _ _ _).mp hfound
        exact ⟨n, by omega, hfirst, (numbered_eq_ok_iff ..).mp hnth⟩
  · rintro ⟨n, hn, hfirst, hvacant⟩
    have hfound := (findSome?_range_eq_some_iff _ _ _).mpr
      ⟨n, Nat.lt_succ_of_le hn, hfirst, (numbered_eq_ok_iff ..).mpr hvacant⟩
    rw [hfound, Option.getD_some]

/-- Where a temporary file can be made, or why none can. -/
def vacancyIn (s : Surroundings) : Except Fault (Text × Place) :=
  vacancy s.storage s.files s.here (temporaryDirectory s)

theorem exists_vacant {s : Surroundings} {path : Text} {place : Place}
    (hvacancy : vacancyIn s = .ok (path, place)) :
    ∃ n, Vacant s.storage s.files s.here (temporaryDirectory s) n path place := by
  obtain ⟨n, -, -, hvacant⟩ := (vacancy_eq_ok_iff ..).mp hvacancy
  exact ⟨n, hvacant⟩

/-- Records in the log do not change where temporary files can be made. -/
theorem vacancyIn_eq {s s' : Surroundings} (hkeeps : KeepsFiles s s') :
    vacancyIn s' = vacancyIn s := by
  have hdirectory : temporaryDirectory s' = temporaryDirectory s := by
    unfold temporaryDirectory valueOf? herePath
    rw [hkeeps.values, hkeeps.here]
  -- Each name leads to the same place before and after, which is free before if it is free after;
  -- and there are as many entries, so that as many names are tried.
  have hnumbered : numbered s'.storage s'.files s'.here (temporaryDirectory s') =
      numbered s.storage s.files s.here (temporaryDirectory s) := by
    funext n
    unfold numbered
    rw [hdirectory, hkeeps.storage, hkeeps.here]
    dsimp only
    rw [hkeeps.alike.walk_eq]
    split
    · rfl
    · next place hwalk =>
        have hplace := hkeeps.alike place
        cases hstands : s.files.at? place with
        | none =>
            rw [hstands, Option.map_none, Option.map_eq_none_iff] at hplace
            rw [hplace]
        | some entry =>
            rw [hstands, Option.map_some, Option.map_eq_some_iff] at hplace
            obtain ⟨entry', hstands', -⟩ := hplace
            rw [hstands']
  unfold vacancyIn vacancy
  rw [hnumbered, FileSystem.length_entries_eq hkeeps.places]

/-- The surroundings once a document has been written to a file of its own. -/
def written (document : Bytes) (place : Place) (s : Surroundings) : Surroundings :=
  { s with
    files := s.files.put place (.file document)
    temporaries := s.temporaries ++ [place] }

/-- A document as it is kept in a temporary file. -/
def spooledAt (document : Bytes) (path : Text) (place : Place) : Spooled :=
  { path, place, length := document.length, digest := Sha256.hexDigest document }

/-- The three ways in which spooling ends. -/
theorem spool_cases (document : Bytes) (s : Surroundings) :
    (∃ fault, vacancyIn s = .error fault ∧
      spool document s = (.error (.fetch (.spool fault)), s)) ∨
    (∃ path place fault, vacancyIn s = .ok (path, place) ∧
      s.storage.overflow? document = some fault ∧
      spool document s =
        (.error (.fetch (.spool (atPath path fault))),
          { s with temporaries := s.temporaries ++ [place] })) ∨
    (∃ path place, vacancyIn s = .ok (path, place) ∧
      s.storage.overflow? document = none ∧
      spool document s =
        (.ok (spooledAt document path place),
          Job.noted (.spooled document.length path (Sha256.hexDigest document))
            (written document place s))) := by
  unfold spool
  cases hvacancy : vacancyIn s with
  | error fault =>
      unfold vacancyIn at hvacancy
      rw [hvacancy]
      exact .inl ⟨fault, rfl, rfl⟩
  | ok found =>
      obtain ⟨path, place⟩ := found
      obtain ⟨n, hvacant⟩ := exists_vacant hvacancy
      unfold vacancyIn at hvacancy
      rw [hvacancy]
      dsimp only
      cases hover : s.storage.overflow? document with
      | some fault =>
          refine .inr (.inl ⟨path, place, fault, rfl, rfl, ?_⟩)
          dsimp only [discard]
          rw [FileSystem.erase_put s.files _ hvacant.free]
      | none =>
          refine .inr (.inr ⟨path, place, rfl, rfl, ?_⟩)
          rw [Storage.kept_of_overflow?_none hover]
          rfl

/-- A document that the storage takes is put where a temporary file can be made. -/
theorem spool_of_vacancy {document : Bytes} {s : Surroundings} {path : Text} {place : Place}
    (hvacancy : vacancyIn s = .ok (path, place)) (hfits : s.storage.overflow? document = none) :
    spool document s =
      (.ok (spooledAt document path place),
        Job.noted (.spooled document.length path (Sha256.hexDigest document))
          (written document place s)) := by
  obtain ⟨fault, hnone, -⟩ | ⟨other, elsewhere, fault, -, hover, -⟩ |
    ⟨other, elsewhere, hother, -, hspool⟩ := spool_cases document s
  · rw [hvacancy] at hnone
    cases hnone
  · rw [hfits] at hover
    cases hover
  · rw [hvacancy] at hother
    cases hother
    exact hspool

/-- Nothing is left behind but the document that was spooled, if one was: once it is discarded, the
files are kept. -/
def LeavesSpooled (s : Surroundings) : Except Problem Spooled × Surroundings → Prop
  | (.ok spooled, after) => KeepsFiles s (discard spooled.place after)
  | (.error _, after) => KeepsFiles s after

/-- What has kept the files before does not count. -/
theorem LeavesSpooled.of_keepsFiles {s mid : Surroundings}
    {outcome : Except Problem Spooled × Surroundings} (hkeeps : KeepsFiles s mid)
    (hleaves : LeavesSpooled mid outcome) : LeavesSpooled s outcome := by
  obtain ⟨result, after⟩ := outcome
  cases result with
  | ok spooled => exact hkeeps.trans hleaves
  | error problem => exact hkeeps.trans hleaves

/-- **Spooling leaves nothing behind but the document**, and not even a part of it when it fails. -/
theorem leavesSpooled_spool (document : Bytes) (s : Surroundings) :
    LeavesSpooled s (spool document s) := by
  obtain ⟨fault, -, hspool⟩ | ⟨path, place, fault, -, -, hspool⟩ |
    ⟨path, place, hvacancy, -, hspool⟩ := spool_cases document s
  · rw [hspool]
    exact KeepsFiles.refl s
  · rw [hspool]
    exact KeepsFiles.of_eq rfl rfl rfl rfl rfl
  · obtain ⟨n, hvacant⟩ := exists_vacant hvacancy
    rw [hspool]
    -- without the notice, discarding undoes the writing; the notice does not come between
    have hbare : KeepsFiles s (discard place (written document place s)) :=
      KeepsFiles.of_eq rfl rfl rfl rfl (FileSystem.erase_put s.files _ hvacant.free)
    exact hbare.trans ((KeepsFiles.noted _ _).erase place)

end OperatorNames.Fetch
