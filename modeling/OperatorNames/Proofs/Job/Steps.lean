import OperatorNames.Job

/-!
# What jobs do step by step

The value and the surroundings that each way of building a job leads to, and the fields that a
notice leaves as they are.  A job stays within a relation (`Within`) if it never leads out of it;
where the relation is reflexive and transitive, jobs that are built from such jobs do too.
-/

namespace OperatorNames.Job

variable {α β ε : Type}

/-! ## Values and surroundings -/

@[simp]
theorem pure_apply (a : α) (s : Surroundings) : (pure a : Job α) s = (.ok a, s) :=
  rfl

@[simp]
theorem fail_apply (problem : Problem) (s : Surroundings) :
    (fail problem : Job α) s = (.error problem, s) :=
  rfl

@[simp]
theorem see_apply (view : Surroundings → α) (s : Surroundings) : see view s = (.ok (view s), s) :=
  rfl

@[simp]
theorem note_apply (notice : Log.Notice) (s : Surroundings) :
    note notice s = (.ok (), noted notice s) :=
  rfl

@[simp]
theorem orProblem_ok (problem : ε → Problem) (a : α) (s : Surroundings) :
    orProblem problem (.ok a) s = (.ok a, s) :=
  rfl

@[simp]
theorem orProblem_error (problem : ε → Problem) (e : ε) (s : Surroundings) :
    (orProblem problem (.error e) : Job α) s = (.error (problem e), s) :=
  rfl

/-- A job comes to a value or to a problem. -/
theorem apply_cases (job : Job α) (s : Surroundings) :
    (∃ a s', job s = (.ok a, s')) ∨ ∃ problem s', job s = (.error problem, s') := by
  cases hrun : job s with
  | mk result s' =>
      cases result with
      | ok a => exact .inl ⟨a, s', rfl⟩
      | error problem => exact .inr ⟨problem, s', rfl⟩

theorem bind_apply (first : Job α) (second : α → Job β) (s : Surroundings) :
    (first >>= second) s =
      match first s with
      | (.ok a, s) => second a s
      | (.error problem, s) => (.error problem, s) :=
  rfl

/-- A job that comes to a value hands it and its surroundings on. -/
theorem bind_of_ok {first : Job α} {a : α} {s s' : Surroundings} (hfirst : first s = (.ok a, s'))
    (second : α → Job β) : (first >>= second) s = second a s' := by
  rw [bind_apply, hfirst]

/-- A job that comes to a problem is the last one. -/
theorem bind_of_error {first : Job α} {problem : Problem} {s s' : Surroundings}
    (hfirst : first s = (.error problem, s')) (second : α → Job β) :
    (first >>= second) s = (.error problem, s') := by
  rw [bind_apply, hfirst]

theorem during_of_ok {job : Job α} {a : α} {s s' : Surroundings} (activity : Activity)
    (hjob : job s = (.ok a, s')) : job.during activity s = (.ok a, s') := by
  rw [during, hjob]

theorem during_of_error {job : Job α} {problem : Problem} {s s' : Surroundings}
    (activity : Activity) (hjob : job s = (.error problem, s')) :
    job.during activity s = (.error (.during activity problem), s') := by
  rw [during, hjob]

theorem snd_during (activity : Activity) (job : Job α) (s : Surroundings) :
    (job.during activity s).2 = (job s).2 := by
  rw [during]
  split <;> simp_all

theorem fst_during (activity : Activity) (job : Job α) (s : Surroundings) :
    (job.during activity s).1 = (job s).1.mapError (.during activity) := by
  rw [during]
  obtain ⟨a, s', hrun⟩ | ⟨problem, s', hrun⟩ := apply_cases job s
  · rw [hrun]
    rfl
  · rw [hrun]
    rfl

/-- What a job that was undertaken for an activity comes to, the job itself came to. -/
theorem fst_of_during {activity : Activity} {job : Job α} {s : Surroundings} {a : α}
    (hresult : (job.during activity s).1 = .ok a) : (job s).1 = .ok a := by
  rw [fst_during] at hresult
  cases hjob : (job s).1 with
  | error problem =>
      rw [hjob] at hresult
      cases hresult
  | ok other =>
      rw [hjob] at hresult
      exact hresult

/-- What a look at the files comes to is what is seen there. -/
theorem seen_of_inspect {problem : Fault → Problem} {f : FileSystem → Place → Except Fault α}
    {s : Surroundings} {a : α} (hresult : (inspect problem f s).1 = .ok a) :
    f s.files s.here = .ok a := by
  unfold inspect at hresult
  generalize f s.files s.here = seen at hresult
  cases seen with
  | error fault => cases hresult
  | ok other =>
      cases hresult
      rfl

theorem alter_apply (f : Surroundings → Except Fault Unit × FileSystem) (s : Surroundings) :
    alter f s =
      match f s with
      | (.error fault, files) => (.error (.file fault), { s with files })
      | (.ok (), files) => (.ok (), { s with files }) := by
  unfold alter
  obtain ⟨result, files⟩ := f s
  cases result with
  | error fault => rfl
  | ok done => rfl

theorem followedBy_apply (job : Job α) (f : Surroundings → Surroundings) (s : Surroundings) :
    job.followedBy f s = ((job s).1, f (job s).2) :=
  rfl

/-! ## Notices -/

section Notices

variable (notice : Log.Notice) (s : Surroundings)

/-- A notice leaves the surroundings as they are, or adds its record to one of the two sinks. -/
theorem noted_cases :
    noted notice s = s ∨
    (∃ record, noted notice s = { s with messages := s.messages ++ record }) ∨
    ∃ log place record, s.log = some log ∧ log.sink = .file place ∧ place ∉ s.temporaries ∧
      noted notice s = { s with files := s.files.append place record } := by
  unfold noted
  cases hlog : s.log with
  | none => exact .inl rfl
  | some log =>
      dsimp only
      by_cases hpass : notice.passes log.filter = true
      · rw [if_pos hpass]
        cases hsink : log.sink with
        | messages => exact .inr (.inl ⟨_, rfl⟩)
        | file place =>
            dsimp only
            by_cases hgone : place ∈ s.temporaries
            · rw [if_pos hgone]
              exact .inl rfl
            · rw [if_neg hgone]
              exact .inr (.inr ⟨log, place, _, rfl, hsink, hgone, rfl⟩)
      · rw [if_neg hpass]
        exact .inl rfl

@[simp]
theorem noted_here : (noted notice s).here = s.here := by
  obtain h | ⟨_, h⟩ | ⟨_, _, _, -, -, -, h⟩ := noted_cases notice s <;> rw [h]

@[simp]
theorem noted_values : (noted notice s).values = s.values := by
  obtain h | ⟨_, h⟩ | ⟨_, _, _, -, -, -, h⟩ := noted_cases notice s <;> rw [h]

@[simp]
theorem noted_accountHome : (noted notice s).accountHome = s.accountHome := by
  obtain h | ⟨_, h⟩ | ⟨_, _, _, -, -, -, h⟩ := noted_cases notice s <;> rw [h]

@[simp]
theorem noted_reading : (noted notice s).reading = s.reading := by
  obtain h | ⟨_, h⟩ | ⟨_, _, _, -, -, -, h⟩ := noted_cases notice s <;> rw [h]

@[simp]
theorem noted_network : (noted notice s).network = s.network := by
  obtain h | ⟨_, h⟩ | ⟨_, _, _, -, -, -, h⟩ := noted_cases notice s <;> rw [h]

@[simp]
theorem noted_requests : (noted notice s).requests = s.requests := by
  obtain h | ⟨_, h⟩ | ⟨_, _, _, -, -, -, h⟩ := noted_cases notice s <;> rw [h]

@[simp]
theorem noted_storage : (noted notice s).storage = s.storage := by
  obtain h | ⟨_, h⟩ | ⟨_, _, _, -, -, -, h⟩ := noted_cases notice s <;> rw [h]

@[simp]
theorem noted_temporaries : (noted notice s).temporaries = s.temporaries := by
  obtain h | ⟨_, h⟩ | ⟨_, _, _, -, -, -, h⟩ := noted_cases notice s <;> rw [h]

@[simp]
theorem noted_configStorage : (noted notice s).configStorage = s.configStorage := by
  obtain h | ⟨_, h⟩ | ⟨_, _, _, -, -, -, h⟩ := noted_cases notice s <;> rw [h]

@[simp]
theorem noted_output : (noted notice s).output = s.output := by
  obtain h | ⟨_, h⟩ | ⟨_, _, _, -, -, -, h⟩ := noted_cases notice s <;> rw [h]

@[simp]
theorem noted_log : (noted notice s).log = s.log := by
  obtain h | ⟨_, h⟩ | ⟨_, _, _, -, -, -, h⟩ := noted_cases notice s <;> rw [h]

end Notices

/-! ## Jobs that stay within a relation -/

/-- A job that leads from any surroundings only to related ones. -/
def Within (R : Surroundings → Surroundings → Prop) (job : Job α) : Prop :=
  ∀ s, R s (job s).2

namespace Within

variable {R : Surroundings → Surroundings → Prop}

theorem pure [Std.Refl R] (a : α) : Within R (Pure.pure a : Job α) :=
  fun s => Std.Refl.refl s

theorem fail [Std.Refl R] (problem : Problem) : Within R (Job.fail problem : Job α) :=
  fun s => Std.Refl.refl s

theorem see [Std.Refl R] (view : Surroundings → α) : Within R (Job.see view) :=
  fun s => Std.Refl.refl s

theorem orProblem [Std.Refl R] (problem : ε → Problem) (result : Except ε α) :
    Within R (Job.orProblem problem result) := by
  intro s
  cases result with
  | ok a => exact Std.Refl.refl s
  | error e => exact Std.Refl.refl s

theorem inspect [Std.Refl R] (problem : Fault → Problem)
    (f : FileSystem → Place → Except Fault α) : Within R (Job.inspect problem f) :=
  fun s => Within.orProblem problem (f s.files s.here) s

theorem bind_at [Trans R R R] {first : Job α} {second : α → Job β} {s : Surroundings}
    (hfirst : R s (first s).2) (hsecond : ∀ a, Within R (second a)) :
    R s ((first >>= second) s).2 := by
  obtain ⟨a, s', hrun⟩ | ⟨problem, s', hrun⟩ := apply_cases first s
  · rw [hrun] at hfirst
    rw [bind_of_ok hrun]
    exact Trans.trans hfirst (hsecond a s')
  · rw [hrun] at hfirst
    rw [bind_of_error hrun]
    exact hfirst

theorem bind [Trans R R R] {first : Job α} {second : α → Job β} (hfirst : Within R first)
    (hsecond : ∀ a, Within R (second a)) : Within R (first >>= second) :=
  fun s => bind_at (hfirst s) hsecond

theorem during {job : Job α} (hjob : Within R job) (activity : Activity) :
    Within R (job.during activity) := by
  intro s
  rw [snd_during]
  exact hjob s

end Within

end OperatorNames.Job
