import OperatorNames.Config.Store
import OperatorNames.Proofs.Fetch.Vacancy
import OperatorNames.Proofs.Job.Blind
import OperatorNames.Run

/-!
# Runs do not see the log

Loading the configuration, fetching, scanning and digesting are blind where the paths they follow are
clear.  How many entries there are makes no difference to the name of a temporary file, since the
first name that is free is among those that are tried in any case (`vacancy_congr`).
-/

namespace OperatorNames

open FileSystem Surroundings Text

/-! ## Temporary files -/

namespace FileSystem.StayAlike

variable {alike : Place → Prop} {fs fs' : FileSystem}

/-- The same place is cleared. -/
theorem erase (hkinds : ∀ other, alike other → SameKind fs fs' other) (place : Place) :
    StayAlike fs fs' (fs.erase place) (fs'.erase place) alike := by
  constructor
  · intro other halike
    unfold SameKind
    rw [at?_erase, at?_erase]
    split
    · rfl
    · exact hkinds other halike
  · intro other _ hsame
    rw [at?_erase, at?_erase, hsame]

end FileSystem.StayAlike

namespace Fetch

theorem destination_temporary (here : Place) (directory : Text) (n : Nat) :
    destination here (join directory (temporaryName n)) =
      destination here directory ++ [temporaryName n] := by
  have hhead := head?_temporaryName n
  rw [destination_join (isStep_temporaryName n)]
  apply advance_of_name
  · intro hsame
    rw [hsame] at hhead
    cases hhead
  · intro hsame
    rw [hsame] at hhead
    cases hhead

/-- Some number that is tried gives a file or a failure. -/
theorem exists_numbered (storage : Storage) (files : FileSystem) (here : Place) (directory : Text) :
    ∃ n ≤ files.entries.length, numbered storage files here directory n ≠ none := by
  obtain ⟨n, hn, hfree⟩ := exists_free files (destination here directory)
  refine ⟨n, hn, ?_⟩
  intro htaken
  unfold numbered at htaken
  dsimp only at htaken
  split at htaken
  · cases htaken
  · next place hwalk =>
      rw [← destination_temporary, ← (walk_eq_ok hwalk).1] at hfree
      rw [hfree] at htaken
      dsimp only at htaken
      split at htaken
      · cases htaken
      · cases htaken

/-- The first number that gives something settles it. -/
theorem exists_first (storage : Storage) (files : FileSystem) (here : Place) (directory : Text) :
    ∃ n outcome, (∀ m < n, numbered storage files here directory m = none) ∧
      numbered storage files here directory n = some outcome ∧
      vacancy storage files here directory = outcome := by
  obtain ⟨n, hn, hsome⟩ := exists_numbered storage files here directory
  unfold vacancy
  cases hfound : (List.range (files.entries.length + 1)).findSome?
      (numbered storage files here directory) with
  | none =>
      rw [List.findSome?_eq_none_iff] at hfound
      exact absurd (hfound n (List.mem_range.mpr (Nat.lt_succ_of_le hn))) hsome
  | some outcome =>
      obtain ⟨first, -, hbefore, hfirst⟩ := (findSome?_range_eq_some_iff _ _ _).mp hfound
      exact ⟨first, outcome, hbefore, hfirst, rfl⟩

/-- Where a temporary file can be made depends on what each name leads to, and on nothing else. -/
theorem vacancy_congr {storage : Storage} {files files' : FileSystem} {here : Place}
    {directory : Text} (hnumbered : ∀ n, numbered storage files' here directory n =
      numbered storage files here directory n) :
    vacancy storage files' here directory = vacancy storage files here directory := by
  obtain ⟨n, outcome, hbefore, hfirst, hvacancy⟩ := exists_first storage files here directory
  obtain ⟨n', outcome', hbefore', hfirst', hvacancy'⟩ := exists_first storage files' here directory
  rw [hvacancy, hvacancy']
  -- neither of the two first numbers comes before the other
  rcases Nat.lt_trichotomy n n' with hlt | rfl | hlt
  · have hnone := hbefore' n hlt
    rw [hnumbered, hfirst] at hnone
    cases hnone
  · rw [hnumbered, hfirst, Option.some.injEq] at hfirst'
    exact hfirst'.symm
  · have hnone := hbefore n' hlt
    rw [← hnumbered, hfirst'] at hnone
    cases hnone

end Fetch

/-- The path that is located is that of the configuration file. -/
theorem Config.path_of_locate {s : Surroundings} {path : Text}
    (hlocate : (Config.locate s).1 = .ok path) : path = s.configPath := by
  unfold Config.locate at hlocate
  rw [Job.bind_of_ok (Job.see_apply _ s), Job.bind_apply, Job.makeAll_apply] at hlocate
  generalize s.files.makeAll s.here s.configDirectory = all at hlocate
  obtain ⟨result, files⟩ := all
  cases result with
  | error fault => cases hlocate
  | ok done =>
      cases hlocate
      rfl

namespace Outlook

variable {v : Outlook}

/-- The paths of temporary files are clear. -/
def ClearTemporaries (v : Outlook) : Prop :=
  ∀ n, v.Clear (join (Fetch.temporaryDirectory v.base) (Fetch.temporaryName n))

/-- The paths that a source makes a run follow are clear. -/
def ClearSource (v : Outlook) : Source → Prop
  | .file path => v.Clear path
  | .remote _ => v.ClearTemporaries

theorem Likeness.of_temporaries {s t : Surroundings} (hlike : v.Likeness s t)
    (temporaries temporaries' : List Place) :
    v.Likeness { s with temporaries } { t with temporaries := temporaries' } :=
  { hlike with
    left := { hlike.left with }
    right := { hlike.right with } }

theorem Likeness.numbered_eq {s t : Surroundings} (hlike : v.Likeness s t)
    (htemporary : v.ClearTemporaries) (n : Nat) :
    Fetch.numbered t.storage t.files t.here (Fetch.temporaryDirectory t) n =
      Fetch.numbered s.storage s.files s.here (Fetch.temporaryDirectory s) n := by
  have hclear := htemporary n
  rw [← hlike.left.temporaryDirectory] at hclear
  have hstorage : t.storage = s.storage := hlike.right.storage.trans hlike.left.storage.symm
  have hdirectory : Fetch.temporaryDirectory t = Fetch.temporaryDirectory s :=
    hlike.right.temporaryDirectory.trans hlike.left.temporaryDirectory.symm
  unfold Fetch.numbered
  dsimp only
  rw [hlike.here_eq, hdirectory, hstorage, walk_congr (hlike.kinds_on hclear.trail)]
  cases hwalk : s.files.walk s.here (join (Fetch.temporaryDirectory s) (Fetch.temporaryName n)) with
  | error fault => rfl
  | ok place =>
      obtain ⟨rfl, -⟩ := walk_eq_ok hwalk
      dsimp only
      rw [hlike.stands hclear]

theorem Likeness.vacancy_eq {s t : Surroundings} (hlike : v.Likeness s t)
    (htemporary : v.ClearTemporaries) :
    Fetch.vacancy t.storage t.files t.here (Fetch.temporaryDirectory t) =
      Fetch.vacancy s.storage s.files s.here (Fetch.temporaryDirectory s) := by
  have hstorage : t.storage = s.storage := hlike.right.storage.trans hlike.left.storage.symm
  have hdirectory : Fetch.temporaryDirectory t = Fetch.temporaryDirectory s :=
    hlike.right.temporaryDirectory.trans hlike.left.temporaryDirectory.symm
  have hnumbered := hlike.numbered_eq htemporary
  rw [hlike.here_eq, hdirectory, hstorage] at hnumbered ⊢
  exact Fetch.vacancy_congr hnumbered

theorem Likeness.discard {s t : Surroundings} (hlike : v.Likeness s t) (place : Place) :
    v.Likeness (Fetch.discard place s) (Fetch.discard place t) :=
  hlike.files (.erase hlike.kinds place)

namespace Blind

/-! ## The configuration -/

section Configuration

variable (hconfig : v.Clear v.base.configPath)
include hconfig

theorem create : v.Blind (Config.create v.base.configPath) := by
  refine .bind (.orProblem _ _) fun document _ => ?_
  refine .bind (.write hconfig _) fun _ _ => ?_
  exact .bind (.note _) fun _ _ => .pure _

theorem ofFile : v.Blind (Config.ofFile v.base.configPath) := by
  refine .bind (.inspect _ ?_) fun content _ => ?_
  · intro s t hlike
    unfold FileSystem.read
    rw [hlike.find_eq hconfig]
  · cases Utf8.decode content with
    | none => exact .fail _
    | some document =>
        refine .bind (.orProblem _ _) fun config _ => ?_
        exact .bind (.note _) fun _ _ => .pure _

theorem locate : v.Blind Config.locate := by
  have hdirectory : ∀ place ∈ FileSystem.trail v.base.here v.base.configDirectory, v.alike place :=
    fun place hplace => hconfig.trail place (mem_trail_join Config.isStep_configName hplace)
  refine .bind (.see fun s t hlike => ?_) fun directory hseen => ?_
  · rw [hlike.left.configDirectory, hlike.right.configDirectory]
  · obtain ⟨s, hviews, hsame⟩ := hseen
    cases hsame
    dsimp only
    rw [hviews.configDirectory]
    refine .bind (.makeAll hdirectory) fun _ _ => .see fun s t hlike => ?_
    rw [hlike.left.configPath, hlike.right.configPath]

theorem load : v.Blind Config.load := by
  refine .bind (locate hconfig) fun path hlocated => ?_
  have hpath : path = v.base.configPath := by
    obtain ⟨s, hviews, hsame⟩ := hlocated
    exact (Config.path_of_locate hsame).trans hviews.configPath
  subst hpath
  refine .bind (.see fun s t hlike => ?_) fun has _ => ?_
  · unfold FileSystem.has
    rw [hlike.find_eq hconfig]
  · cases has with
    | true => exact ofFile hconfig
    | false => exact create hconfig

end Configuration

/-! ## Fetching -/

theorem transfer (u : Url) (limits : Transfer.Limits) : v.Blind (Fetch.transfer u limits) := by
  intro s t hlike
  have hexchange : Transfer.perform t.network limits u = Transfer.perform s.network limits u := by
    rw [hlike.left.network, hlike.right.network]
  unfold Fetch.transfer
  dsimp only
  rw [hexchange]
  refine ⟨rfl, ?_⟩
  exact
    { hlike with
      left := { hlike.left with }
      right := { hlike.right with }
      requests := congrArg (· ++ _) hlike.requests }

theorem accept (url : Text) (response : Transfer.Response) :
    v.Blind (Fetch.accept url response) := by
  unfold Fetch.accept
  split
  · exact .bind (.note _) fun _ _ => .pure _
  · exact .bind (.note _) fun _ _ => .fail _

theorem body (raw : Text) (limits : Transfer.Limits) : v.Blind (Fetch.body raw limits) := by
  refine .bind (.orProblem _ _) fun u _ => ?_
  split
  · refine .bind (.note _) fun _ _ => ?_
    refine .bind (.transfer u limits) fun exchange _ => ?_
    exact .bind (.orProblem _ _) fun response _ => .accept _ response
  · exact .fail _

section Temporary

variable (htemporary : v.ClearTemporaries)
include htemporary

theorem spool (document : Bytes) : v.Blind (Fetch.spool document) := by
  intro s t hlike
  have hstorage : t.storage = s.storage := hlike.right.storage.trans hlike.left.storage.symm
  have hkept : t.storage.kept document = s.storage.kept document := by rw [hstorage]
  have hoverflow : t.storage.overflow? document = s.storage.overflow? document := by rw [hstorage]
  unfold Fetch.spool
  rw [hlike.vacancy_eq htemporary]
  split
  · exact ⟨rfl, hlike⟩
  · next path place _ =>
      have hmade := (hlike.files (.put hlike.kinds place
        (.file (s.storage.kept document)))).of_temporaries (s.temporaries ++ [place])
          (t.temporaries ++ [place])
      dsimp only
      rw [hkept, hoverflow]
      split
      · exact ⟨rfl, hmade.discard place⟩
      · exact ⟨rfl, hmade.noted _ _⟩

theorem toFile (raw : Text) (limits : Transfer.Limits) : v.Blind (Fetch.toFile raw limits) :=
  .bind (.body raw limits) fun document _ => spool htemporary document

/-- A document that was fetched stands where temporary files are made. -/
theorem clear_of_toFile {raw : Text} {limits : Transfer.Limits} {s : Surroundings}
    {spooled : Fetch.Spooled} (hviews : v.Views s)
    (hfetch : (Fetch.toFile raw limits s).1 = .ok spooled) : v.Clear spooled.path := by
  have hmid : v.Views (Fetch.body raw limits s).2 := (body raw limits s s (.refl hviews)).2.left
  unfold Fetch.toFile at hfetch
  rw [Job.bind_apply] at hfetch
  generalize Fetch.body raw limits s = fetched at hmid hfetch
  obtain ⟨result, mid⟩ := fetched
  cases result with
  | error problem => cases hfetch
  | ok document =>
      dsimp only at hfetch hmid
      obtain ⟨fault, -, hspool⟩ | ⟨path, place, fault, -, -, hspool⟩ |
        ⟨path, place, hvacancy, -, hspool⟩ := Fetch.spool_cases document mid
      · rw [hspool] at hfetch
        cases hfetch
      · rw [hspool] at hfetch
        cases hfetch
      · obtain ⟨n, hvacant⟩ := Fetch.exists_vacant hvacancy
        rw [hspool] at hfetch
        cases hfetch
        show v.Clear path
        rw [hvacant.path_eq, hmid.temporaryDirectory]
        exact htemporary n

end Temporary

theorem withFile (spooled : Fetch.Spooled) {use : Job α} (huse : v.Blind use) :
    v.Blind (Fetch.withFile spooled use) :=
  .followedBy huse fun _ _ hlike => hlike.discard spooled.place

/-! ## Scanning and digesting -/

theorem emitItems (style : Style) (items : List Item) :
    v.Blind (OperatorNames.emitItems style items) := by
  intro s t hlike
  unfold OperatorNames.emitItems
  rw [hlike.output]
  dsimp only
  have hafter : ∀ output, v.Likeness { s with output } { t with output } := fun output =>
    { hlike with
      left := { hlike.left with }
      right := { hlike.right with }
      output := rfl }
  split
  · exact ⟨rfl, hafter _⟩
  · exact ⟨rfl, hafter _⟩

theorem scanFile {path : Text} (hclear : v.Clear path) (config : Config) (style : Style) :
    v.Blind (OperatorNames.scanFile path config style) := by
  refine .bind (.inspect _ fun s t hlike => hlike.find_eq hclear) fun found hfound => ?_
  obtain ⟨place, opened⟩ := found
  obtain ⟨s, hviews, hsame⟩ := hfound
  have hplace : place = destination v.base.here path := by
    rw [← hviews.here]
    exact (find_eq_ok (Job.seen_of_inspect hsame)).2.1
  refine .bind (.note _) fun _ _ => ?_
  -- the file is read where it was found, which is not the log
  refine .bind (.see fun s t hlike => ?_) fun entry _ => ?_
  · have hstands := hlike.stands hclear
    rw [hlike.left.here, ← hplace] at hstands
    rw [hstands]
  · exact .bind (.emitItems style _) fun operators _ => .pure _

theorem digestOfFile {path : Text} (hclear : v.Clear path) :
    v.Blind (OperatorNames.digestOfFile path) := by
  refine .bind (.inspect _ fun s t hlike => hlike.find_eq hclear) fun found _ => ?_
  obtain ⟨place, entry⟩ := found
  cases entry with
  | directory => exact .fail _
  | file content =>
      refine .bind (.see fun s t hlike => ?_) fun portions _ => .pure _
      rw [hlike.left.reading, hlike.right.reading]

/-- A fetched document is used, and its file is taken away. -/
theorem fetched (htemporary : v.ClearTemporaries) (raw : Text) (limits : Transfer.Limits)
    (activity : Activity) {use : Fetch.Spooled → Job α}
    (huse : ∀ spooled, v.Clear spooled.path → v.Blind (use spooled)) :
    v.Blind ((Fetch.toFile raw limits).during activity >>= use) := by
  refine .bind (.during (toFile htemporary raw limits) activity) fun spooled hfetched => ?_
  obtain ⟨s, hviews, hsame⟩ := hfetched
  exact huse spooled (clear_of_toFile htemporary hviews (Job.fst_of_during hsame))

theorem run {source : Source} (hsource : v.ClearSource source) (config : Config) (style : Style) :
    v.Blind (OperatorNames.run source config style) := by
  have hscan : v.Blind (scanSource source config style) := by
    cases source with
    | file path => exact .scanFile hsource config style
    | remote url =>
        refine .bind (.note _) fun _ _ => ?_
        refine .fetched hsource url _ _ fun spooled hclear => ?_
        exact .bind (.withFile spooled (.scanFile hclear config style)) fun summary _ => .pure _
  refine .bind hscan fun summary _ => ?_
  exact .bind (.note _) fun _ _ => .pure _

theorem digestOfUrl (htemporary : v.ClearTemporaries) (url : Text) (config : Config) :
    v.Blind (OperatorNames.digestOfUrl url config) := by
  refine .fetched htemporary url _ _ fun spooled hclear => ?_
  refine .withFile spooled ?_
  refine .bind (.digestOfFile hclear) fun digest _ => ?_
  exact .bind (.note _) fun _ _ => .pure _

end Blind

end Outlook

end OperatorNames
