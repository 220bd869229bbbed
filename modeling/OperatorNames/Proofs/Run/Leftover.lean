import OperatorNames.Proofs.Fetch.Body
import OperatorNames.Proofs.Fetch.Spool
import OperatorNames.Run

/-!
# What runs leave behind

A run, a digest and a fetch whose document is dropped keep the files, whatever they come to
(`keepsFiles_run` and its neighbours, put together in `leaves_no_document`).  A document that is
fetched stands in a temporary file while it is used, so that in between the files are kept only but
for that one place (`Discards`).
-/

namespace OperatorNames

open Surroundings

/-- The same temporary files have been made before and after. -/
def Surroundings.SameTemporaries (before after : Surroundings) : Prop :=
  after.temporaries = before.temporaries

instance : Std.Refl SameTemporaries := ⟨fun _ => rfl⟩

instance : Trans SameTemporaries SameTemporaries SameTemporaries :=
  ⟨fun hst htu => Eq.trans htu hst⟩

/-! ## Jobs without a temporary file -/

section Within

variable {R : Surroundings → Surroundings → Prop} [Std.Refl R] [Trans R R R]

omit [Std.Refl R] [Trans R R R] in
theorem within_emitItems (style : Style) (items : List Item)
    (hwritten : ∀ s output, R s { s with output }) : Job.Within R (emitItems style items) := by
  intro s
  unfold emitItems
  dsimp only
  split
  · exact hwritten s _
  · exact hwritten s _

theorem within_scanFile (path : Text) (config : Config) (style : Style)
    (hnoted : ∀ notice s, R s (Job.noted notice s))
    (hwritten : ∀ s output, R s { s with output }) :
    Job.Within R (scanFile path config style) := by
  refine .bind (.inspect _ _) fun found => ?_
  refine .bind (fun s => hnoted _ s) fun _ => ?_
  refine .bind (.see _) fun entry => ?_
  exact .bind (within_emitItems style _ hwritten) fun operators => .pure _

theorem within_digestOfFile (path : Text) : Job.Within R (digestOfFile path) := by
  refine .bind (.inspect _ _) fun found => ?_
  obtain ⟨place, entry⟩ := found
  cases entry with
  | directory => exact .fail _
  | file content => exact .bind (.see _) fun portions => .pure _

end Within

theorem keepsFiles_scanFile (path : Text) (config : Config) (style : Style) :
    Job.Within KeepsFiles (scanFile path config style) :=
  within_scanFile path config style KeepsFiles.noted fun _ _ => KeepsFiles.of_eq rfl rfl rfl rfl rfl

/-! ## Jobs that use a temporary file -/

namespace Fetch

theorem leavesSpooled_toFile (raw : Text) (limits : Transfer.Limits) (s : Surroundings) :
    LeavesSpooled s (toFile raw limits s) := by
  have hbody := keepsFiles_body raw limits s
  unfold toFile
  obtain ⟨document, mid, hrun⟩ | ⟨problem, mid, hrun⟩ := Job.apply_cases (body raw limits) s
  · rw [hrun] at hbody
    rw [Job.bind_of_ok hrun]
    exact .of_keepsFiles hbody (leavesSpooled_spool document mid)
  · rw [hrun] at hbody
    rw [Job.bind_of_error hrun]
    exact hbody

/-- A job that finds the files kept but for a temporary file and leaves them kept altogether. -/
def Discards (place : Place) (job : Job α) : Prop :=
  ∀ s mid, KeepsFiles s (discard place mid) → KeepsFiles s (job mid).2

theorem discards_withFile (spooled : Spooled) {use : Job α} (huse : Job.Within KeepsFiles use) :
    Discards spooled.place (withFile spooled use) := by
  intro s mid hmid
  exact hmid.trans ((huse mid).erase spooled.place)

theorem discards_bind {place : Place} {first : Job α} {second : α → Job β}
    (hfirst : Discards place first) (hsecond : ∀ a, Job.Within KeepsFiles (second a)) :
    Discards place (first >>= second) := by
  intro s mid hmid
  have hone := hfirst s mid hmid
  obtain ⟨a, after, hrun⟩ | ⟨problem, after, hrun⟩ := Job.apply_cases first mid
  · rw [hrun] at hone
    rw [Job.bind_of_ok hrun]
    exact hone.trans (hsecond a after)
  · rw [hrun] at hone
    rw [Job.bind_of_error hrun]
    exact hone

/-- A job that leaves nothing behind but a document, and then one that discards it. -/
theorem keepsFiles_bind_of_discards {fetch : Job Spooled} {use : Spooled → Job α}
    (hfetch : ∀ s, LeavesSpooled s (fetch s))
    (huse : ∀ spooled, Discards spooled.place (use spooled)) :
    Job.Within KeepsFiles (fetch >>= use) := by
  intro s
  have hleaves := hfetch s
  obtain ⟨spooled, mid, hrun⟩ | ⟨problem, mid, hrun⟩ := Job.apply_cases fetch s
  · rw [hrun] at hleaves
    rw [Job.bind_of_ok hrun]
    exact huse spooled s mid hleaves
  · rw [hrun] at hleaves
    rw [Job.bind_of_error hrun]
    exact hleaves

theorem leavesSpooled_during {fetch : Job Spooled} (hfetch : ∀ s, LeavesSpooled s (fetch s))
    (activity : Activity) (s : Surroundings) : LeavesSpooled s (fetch.during activity s) := by
  have hleaves := hfetch s
  obtain ⟨spooled, mid, hrun⟩ | ⟨problem, mid, hrun⟩ := Job.apply_cases fetch s
  · rw [hrun] at hleaves
    rw [Job.during_of_ok activity hrun]
    exact hleaves
  · rw [hrun] at hleaves
    rw [Job.during_of_error activity hrun]
    exact hleaves

/-- Fetches a document and drops it. -/
def thenDrop (raw : Text) (limits : Transfer.Limits) : Job Unit := do
  let spooled ← toFile raw limits
  withFile spooled (pure ())

theorem keepsFiles_thenDrop (raw : Text) (limits : Transfer.Limits) :
    Job.Within KeepsFiles (thenDrop raw limits) :=
  keepsFiles_bind_of_discards (leavesSpooled_toFile raw limits) fun spooled =>
    discards_withFile spooled (.pure ())

end Fetch

/-! ## Runs -/

theorem keepsFiles_scanSource (source : Source) (config : Config) (style : Style) :
    Job.Within KeepsFiles (scanSource source config style) := by
  cases source with
  | file path => exact keepsFiles_scanFile path config style
  | remote url =>
      refine .bind (KeepsFiles.noted _) fun _ => ?_
      -- every way out of the scan leads through the taking away of the file
      have hfetch := Fetch.leavesSpooled_during
        (Fetch.leavesSpooled_toFile url (Fetch.limitsOf config)) (.fetch url)
      refine Fetch.keepsFiles_bind_of_discards hfetch fun spooled => ?_
      refine Fetch.discards_bind ?_ fun summary => .pure _
      exact Fetch.discards_withFile spooled (keepsFiles_scanFile _ config style)

theorem keepsFiles_run (source : Source) (config : Config) (style : Style) :
    Job.Within KeepsFiles (run source config style) := by
  refine .bind (keepsFiles_scanSource source config style) fun summary => ?_
  exact .bind (KeepsFiles.noted _) fun _ => .pure _

theorem keepsFiles_digestOfUrl (url : Text) (config : Config) :
    Job.Within KeepsFiles (digestOfUrl url config) := by
  have hfetch := Fetch.leavesSpooled_during
    (Fetch.leavesSpooled_toFile url (Fetch.limitsOf config)) (.fetch url)
  refine Fetch.keepsFiles_bind_of_discards hfetch fun spooled => ?_
  refine Fetch.discards_withFile spooled ?_
  refine .bind (within_digestOfFile spooled.path) fun digest => ?_
  exact .bind (KeepsFiles.noted _) fun _ => .pure _

/-- A run on a file makes no temporary file. -/
theorem sameTemporaries_run_file (path : Text) (config : Config) (style : Style) :
    Job.Within SameTemporaries (run (.file path) config style) := by
  have hnoted : ∀ notice s, SameTemporaries s (Job.noted notice s) := Job.noted_temporaries
  have hscan : Job.Within SameTemporaries (scanFile path config style) :=
    within_scanFile path config style hnoted fun _ _ => rfl
  refine .bind hscan fun summary => ?_
  exact .bind (hnoted _) fun _ => .pure _

/-- **No document that was spooled survives.**  From any surroundings, runs, digests and fetches
whose document is dropped leave every place as they found it, taken or free, and every file but the
log with the content that it had; what is scanned as a file is never put into a temporary one. -/
theorem leaves_no_document (s : Surroundings) :
    (∀ source config style, KeepsFiles s (run source config style s).2) ∧
    (∀ url config, KeepsFiles s (digestOfUrl url config s).2) ∧
    (∀ raw limits, KeepsFiles s (Fetch.thenDrop raw limits s).2) ∧
    (∀ path config style, (run (.file path) config style s).2.temporaries = s.temporaries) := by
  refine ⟨?_, ?_, ?_, ?_⟩
  · intro source config style
    exact keepsFiles_run source config style s
  · intro url config
    exact keepsFiles_digestOfUrl url config s
  · intro raw limits
    exact Fetch.keepsFiles_thenDrop raw limits s
  · intro path config style
    exact sameTemporaries_run_file path config style s

end OperatorNames
