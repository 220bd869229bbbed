import OperatorNames.Proofs.Config.Loading
import OperatorNames.Fetch

/-!
# Jobs that do not see the log

Two surroundings are alike in the eyes of a run (`Outlook.Likeness`) if they differ in nothing but
their logs, the files where the logs are kept, and places that the run does not come by.  A job is
blind if it comes to the same from surroundings that are alike, and leaves surroundings that are alike
(`Outlook.Blind`).  Jobs that are built from blind jobs are blind.
-/

namespace OperatorNames

open FileSystem Surroundings Text

/-- What a run can see. -/
structure Outlook where
  /-- Surroundings with the variables, the directory and the means that the run has. -/
  base : Surroundings
  /-- The places that the run may come by. -/
  alike : Place → Prop
  /-- The place of the log, if it is kept in a file. -/
  logPlace : Place

namespace Outlook

/-- Surroundings as the run finds them, whatever their files and their log are.  Of the variables, the
one for the log does not count. -/
structure Views (v : Outlook) (s : Surroundings) : Prop where
  here : s.here = v.base.here
  values : ∀ name, name ≠ "RUST_LOG" → s.valueOf? name = v.base.valueOf? name
  accountHome : s.accountHome = v.base.accountHome
  network : s.network = v.base.network
  storage : s.storage = v.base.storage
  configStorage : s.configStorage = v.base.configStorage
  reading : s.reading = v.base.reading
  logs : ∀ place, s.LogsTo place → place = v.logPlace

/-- Surroundings between which a run cannot tell. -/
structure Likeness (v : Outlook) (s t : Surroundings) : Prop where
  left : v.Views s
  right : v.Views t
  requests : t.requests = s.requests
  output : t.output = s.output
  kinds : ∀ place, v.alike place → SameKind s.files t.files place
  entries : ∀ place, v.alike place → place ≠ v.logPlace → t.files.at? place = s.files.at? place

/-- A path that the run may follow: it comes by no other places and does not lead to the log. -/
structure Clear (v : Outlook) (path : Text) : Prop where
  trail : ∀ place ∈ trail v.base.here path, v.alike place
  unlogged : destination v.base.here path ≠ v.logPlace

/-- A job that comes to the same from surroundings that are alike, and leaves such. -/
def Blind (v : Outlook) (job : Job α) : Prop :=
  ∀ s t, v.Likeness s t → (job t).1 = (job s).1 ∧ v.Likeness (job s).2 (job t).2

variable {v : Outlook} {s t : Surroundings}

/-! ## Variables and directories -/

theorem Views.ownDirectory (hviews : v.Views s) {name : String} (hname : name ≠ "RUST_LOG")
    (usual : String) : s.ownDirectory name usual = v.base.ownDirectory name usual := by
  have hhome : s.home = v.base.home := by
    unfold home
    rw [hviews.values "HOME" (by decide), hviews.accountHome]
  unfold Surroundings.ownDirectory
  rw [hviews.values name hname, hhome]

theorem Views.configDirectory (hviews : v.Views s) : s.configDirectory = v.base.configDirectory :=
  hviews.ownDirectory (by decide) _

theorem Views.configPath (hviews : v.Views s) : s.configPath = v.base.configPath :=
  congrArg (join · _) hviews.configDirectory

theorem Views.temporaryDirectory (hviews : v.Views s) :
    Fetch.temporaryDirectory s = Fetch.temporaryDirectory v.base := by
  unfold Fetch.temporaryDirectory herePath
  rw [hviews.values "TMPDIR" (by decide), hviews.here]

/-! ## Changes that a run does not see -/

theorem Views.of_log {files : FileSystem} (hviews : v.Views s) : v.Views { s with files } :=
  { hviews with }

theorem Views.noted (hviews : v.Views s) (notice : Log.Notice) : v.Views (Job.noted notice s) where
  here := (Job.noted_here notice s).trans hviews.here
  values name hname := by
    rw [← hviews.values name hname]
    exact congrArg (List.lookup name.toList) (Job.noted_values notice s)
  accountHome := (Job.noted_accountHome notice s).trans hviews.accountHome
  network := (Job.noted_network notice s).trans hviews.network
  storage := (Job.noted_storage notice s).trans hviews.storage
  configStorage := (Job.noted_configStorage notice s).trans hviews.configStorage
  reading := (Job.noted_reading notice s).trans hviews.reading
  logs place hplace := hviews.logs place ((logsTo_congr (Job.noted_log notice s) place).mp hplace)

theorem Likeness.refl (hviews : v.Views s) : v.Likeness s s where
  left := hviews
  right := hviews
  requests := rfl
  output := rfl
  kinds _ _ := rfl
  entries _ _ _ := rfl

theorem Likeness.symm (hlike : v.Likeness s t) : v.Likeness t s where
  left := hlike.right
  right := hlike.left
  requests := hlike.requests.symm
  output := hlike.output.symm
  kinds place halike := (hlike.kinds place halike).symm
  entries place halike hplace := (hlike.entries place halike hplace).symm

theorem Likeness.noted_left (hlike : v.Likeness s t) (notice : Log.Notice) :
    v.Likeness (Job.noted notice s) t := by
  have hkeeps := KeepsFiles.noted notice s
  exact
    { left := hlike.left.noted notice
      right := hlike.right
      requests := hlike.requests.trans (Job.noted_requests notice s).symm
      output := hlike.output.trans (Job.noted_output notice s).symm
      kinds := fun place halike => (hlike.kinds place halike).trans (hkeeps.alike place).symm
      entries := by
        intro place halike hplace
        rw [hlike.entries place halike hplace]
        exact (hkeeps.elsewhere place fun hlogs => hplace (hlike.left.logs place hlogs)).symm }

/-- Notices make no difference, whether they are the same or not. -/
theorem Likeness.noted (hlike : v.Likeness s t) (notice notice' : Log.Notice) :
    v.Likeness (Job.noted notice s) (Job.noted notice' t) :=
  ((hlike.noted_left notice).symm.noted_left notice').symm

/-- Files that stay alike make no difference. -/
theorem Likeness.files (hlike : v.Likeness s t) {files files' : FileSystem}
    (hstay : StayAlike s.files t.files files files' v.alike) :
    v.Likeness { s with files } { t with files := files' } where
  left := hlike.left.of_log
  right := hlike.right.of_log
  requests := hlike.requests
  output := hlike.output
  kinds := hstay.kinds
  entries place halike hplace := hstay.entries place halike (hlike.entries place halike hplace)

/-! ## What can be seen of files -/

theorem Likeness.here_eq (hlike : v.Likeness s t) : t.here = s.here :=
  hlike.right.here.trans hlike.left.here.symm

theorem Likeness.kinds_on (hlike : v.Likeness s t) {path : Text}
    (htrail : ∀ place ∈ FileSystem.trail v.base.here path, v.alike place) :
    ∀ place ∈ FileSystem.trail s.here path, SameKind s.files t.files place := by
  rw [hlike.left.here]
  exact fun place hplace => hlike.kinds place (htrail place hplace)

theorem Likeness.stands (hlike : v.Likeness s t) {path : Text} (hclear : v.Clear path) :
    t.files.at? (destination s.here path) = s.files.at? (destination s.here path) := by
  rw [hlike.left.here]
  exact hlike.entries _ (hclear.trail _ (destination_mem_trail _ path)) hclear.unlogged

theorem Likeness.find_eq (hlike : v.Likeness s t) {path : Text} (hclear : v.Clear path) :
    t.files.find t.here path = s.files.find s.here path := by
  rw [hlike.here_eq]
  exact find_congr (hlike.kinds_on hclear.trail) (hlike.stands hclear)

/-! ## Blind jobs -/

namespace Blind

theorem pure (a : α) : v.Blind (Pure.pure a : Job α) :=
  fun _ _ hlike => ⟨rfl, hlike⟩

theorem fail (problem : Problem) : v.Blind (Job.fail problem : Job α) :=
  fun _ _ hlike => ⟨rfl, hlike⟩

theorem orProblem (problem : ε → Problem) (result : Except ε α) :
    v.Blind (Job.orProblem problem result) := by
  intro s t hlike
  cases result with
  | ok a => exact ⟨rfl, hlike⟩
  | error e => exact ⟨rfl, hlike⟩

theorem see {view : Surroundings → α} (hview : ∀ s t, v.Likeness s t → view t = view s) :
    v.Blind (Job.see view) :=
  fun s t hlike => ⟨congrArg Except.ok (hview s t hlike), hlike⟩

theorem note (notice : Log.Notice) : v.Blind (Job.note notice) :=
  fun _ _ hlike => ⟨rfl, hlike.noted notice notice⟩

theorem inspect (problem : Fault → Problem) {f : FileSystem → Place → Except Fault α}
    (hlook : ∀ s t, v.Likeness s t → f t.files t.here = f s.files s.here) :
    v.Blind (Job.inspect problem f) := by
  intro s t hlike
  unfold Job.inspect
  rw [hlook s t hlike]
  cases f s.files s.here with
  | ok a => exact ⟨rfl, hlike⟩
  | error fault => exact ⟨rfl, hlike⟩

/-- Of the second job only that counts which can come after the first. -/
theorem bind {first : Job α} {second : α → Job β} (hfirst : v.Blind first)
    (hsecond : ∀ a, (∃ s, v.Views s ∧ (first s).1 = .ok a) → v.Blind (second a)) :
    v.Blind (first >>= second) := by
  intro s t hlike
  obtain ⟨hresult, hlike'⟩ := hfirst s t hlike
  obtain ⟨a, s', hrun⟩ | ⟨problem, s', hrun⟩ := Job.apply_cases first s
  · have hrun' : first t = (.ok a, (first t).2) := Prod.ext (by rw [hresult, hrun]) rfl
    rw [hrun] at hlike'
    rw [Job.bind_of_ok hrun, Job.bind_of_ok hrun']
    exact hsecond a ⟨s, hlike.left, by rw [hrun]⟩ _ _ hlike'
  · have hrun' : first t = (.error problem, (first t).2) := Prod.ext (by rw [hresult, hrun]) rfl
    rw [hrun] at hlike'
    rw [Job.bind_of_error hrun, Job.bind_of_error hrun']
    exact ⟨rfl, hlike'⟩

theorem during {job : Job α} (hjob : v.Blind job) (activity : Activity) :
    v.Blind (job.during activity) := by
  intro s t hlike
  obtain ⟨hresult, hlike'⟩ := hjob s t hlike
  rw [Job.snd_during, Job.snd_during]
  refine ⟨?_, hlike'⟩
  rw [Job.fst_during, Job.fst_during, hresult]

theorem followedBy {job : Job α} {f : Surroundings → Surroundings} (hjob : v.Blind job)
    (hf : ∀ s t, v.Likeness s t → v.Likeness (f s) (f t)) : v.Blind (job.followedBy f) := by
  intro s t hlike
  obtain ⟨hresult, hlike'⟩ := hjob s t hlike
  exact ⟨hresult, hf _ _ hlike'⟩

/-- Files that are changed alike on both sides make no difference. -/
theorem alter {f : Surroundings → Except Fault Unit × FileSystem}
    (hf : ∀ s t, v.Likeness s t →
      (f t).1 = (f s).1 ∧ StayAlike s.files t.files (f s).2 (f t).2 v.alike) :
    v.Blind (Job.alter f) := by
  intro s t hlike
  obtain ⟨hresult, hstay⟩ := hf s t hlike
  rw [Job.alter_apply, Job.alter_apply]
  generalize f s = one at hresult hstay ⊢
  generalize f t = other at hresult hstay ⊢
  obtain ⟨result, files⟩ := one
  obtain ⟨result', files'⟩ := other
  cases (hresult : result' = result)
  have hafter := hlike.files hstay
  cases result with
  | error fault => exact ⟨rfl, hafter⟩
  | ok done => exact ⟨rfl, hafter⟩

/-- Directories are made on both sides alike. -/
theorem makeAll {path : Text} (htrail : ∀ place ∈ FileSystem.trail v.base.here path, v.alike place) :
    v.Blind (Job.makeAll path) := by
  refine .alter fun s t hlike => ?_
  rw [hlike.here_eq]
  refine makeAll_congr s.here path hlike.kinds ?_
  rw [hlike.left.here]
  exact htrail

/-- The configuration file is written on both sides alike. -/
theorem write {path : Text} (hclear : v.Clear path) (content : Bytes) :
    v.Blind (Job.alter fun s => s.files.writeWithin s.configStorage s.here path content) := by
  refine .alter fun s t hlike => ?_
  have hstorage : t.configStorage = s.configStorage :=
    hlike.right.configStorage.trans hlike.left.configStorage.symm
  rw [hlike.here_eq, hstorage]
  exact writeWithin_congr _ _ hlike.kinds
    (fileToWrite_congr (hlike.kinds_on hclear.trail) (hlike.stands hclear))

end Blind

end Outlook

end OperatorNames
