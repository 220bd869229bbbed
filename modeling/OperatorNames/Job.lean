import OperatorNames.Log.Notice
import OperatorNames.Surroundings

/-!
# Jobs

A job is a step of a run: it finds surroundings, leaves surroundings, and comes to a value or to a
problem.  What it did before a problem came up stays done.
-/

namespace OperatorNames

/-- A step of a run that comes to a value or a problem. -/
def Job (α : Type) : Type :=
  Surroundings → Except Problem α × Surroundings

namespace Job

/-- The job that does nothing and comes to a value. -/
def done (a : α) : Job α :=
  fun s => (.ok a, s)

/-- The job that does nothing and comes to a problem. -/
def fail (problem : Problem) : Job α :=
  fun s => (.error problem, s)

/-- One job and then, unless it came to a problem, another. -/
def andThen (first : Job α) (second : α → Job β) : Job β :=
  fun s =>
    match first s with
    | (.ok a, s) => second a s
    | (.error problem, s) => (.error problem, s)

instance : Monad Job where
  pure := done
  bind := andThen

/-- What a job can see. -/
def see (view : Surroundings → α) : Job α :=
  fun s => (.ok (view s), s)

/-- Changes the surroundings. -/
def change (f : Surroundings → Surroundings) : Job Unit :=
  fun s => (.ok (), f s)

/-- Goes on with a value, or comes to a problem. -/
def ofExcept : Except Problem α → Job α
  | .ok a => done a
  | .error problem => fail problem

/-- Goes on with a value, or comes to a problem that a fault gives. -/
def orProblem (problem : ε → Problem) : Except ε α → Job α
  | .ok a => done a
  | .error fault => fail (problem fault)

/-- A job that was undertaken for an activity, which its problems name. -/
def during (activity : Activity) (job : Job α) : Job α :=
  fun s =>
    match job s with
    | (.ok a, s) => (.ok a, s)
    | (.error problem, s) => (.error (.during activity problem), s)

/-- A job and then a change of the surroundings, whatever the job came to. -/
def followedBy (job : Job α) (f : Surroundings → Surroundings) : Job α :=
  fun s =>
    let (result, s) := job s
    (result, f s)

/-- The surroundings after a notice has been given.  A record is lost where the file of the log is
gone, also if a temporary file has been made in its place since. -/
def noted (notice : Log.Notice) (s : Surroundings) : Surroundings :=
  match s.log with
  | none => s
  | some log =>
    if notice.passes log.filter then
      let record := Text.Utf8.encode (notice.record s.time)
      match log.sink with
      | .messages => { s with messages := s.messages ++ record }
      | .file place =>
        if place ∈ s.temporaries then s else { s with files := s.files.append place record }
    else s

/-- Gives a notice. -/
def note (notice : Log.Notice) : Job Unit :=
  change (noted notice)

/-- A change of the files that may fail, and what it did before it failed stays done. -/
def alter (f : Surroundings → Except Fault Unit × FileSystem) : Job Unit :=
  fun s =>
    let (result, files) := f s
    orProblem .file result { s with files }

/-- A look at the files that may fail. -/
def inspect (problem : Fault → Problem) (f : FileSystem → Place → Except Fault α) : Job α :=
  fun s => orProblem problem (f s.files s.here) s

end Job

end OperatorNames
