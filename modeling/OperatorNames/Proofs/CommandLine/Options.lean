import OperatorNames.CommandLine.Read
import OperatorNames.Proofs.Results
import OperatorNames.Proofs.Text.Pieces

/-!
# Options and their values on a command line

An option stands with its value in one argument or in two (`Occurrence`).  Either way reading comes
to the same, once what is pending has been settled: the option has been settled with its value
(`settled_write`).  By induction a row of options is settled one after the other (`settled_writes`),
so that what becomes of it can be told from the options and values alone.
-/

namespace OperatorNames.CommandLine

/-- The ways in which an option stands with its value. -/
inductive Manner
  /-- As one argument, with an equals sign between them. -/
  | joined
  /-- As two arguments. -/
  | apart

/-- An option on a command line. -/
structure Occurrence where
  /-- The option. -/
  option : ValueOption
  /-- Its value. -/
  value : Text
  /-- How it stands with its value. -/
  manner : Manner
  /-- A value of its own is not taken for an option. -/
  head_ne : manner = .apart → value.head? ≠ some '-'

/-- The arguments of an option. -/
def Occurrence.write (o : Occurrence) : List Text :=
  match o.manner with
  | .joined => [o.option.argument o.value]
  | .apart => ['-' :: '-' :: o.option.name, o.value]

/-! ## The forms of arguments -/

theorem ne_equals_of_mem_name (option : ValueOption) : ∀ c ∈ option.name, c ≠ '=' := by
  cases option <;> exact Text.forall_mem_of_all (by decide)

theorem name_ne_help (option : ValueOption) : option.name ≠ Topic.help.word := by
  cases option <;> decide

/-- Two hyphens and more are an option, with what follows the first equals sign as its value. -/
theorem Form.of_hyphens {rest : Text} (hrest : rest ≠ []) :
    Form.of ('-' :: '-' :: rest) =
      match rest.dropWhile (· ≠ '=') with
      | [] => .long (rest.takeWhile (· ≠ '=')) none
      | _ :: value => .long (rest.takeWhile (· ≠ '=')) (some value) := by
  cases rest with
  | nil => exact absurd rfl hrest
  | cons c rest => rfl

theorem Form.of_argument (option : ValueOption) (value : Text) :
    Form.of (option.argument value) = .long option.name (some value) := by
  have hname : ∀ c ∈ option.name, decide (c ≠ '=') = true := fun c hc =>
    decide_eq_true (ne_equals_of_mem_name option c hc)
  have hne : option.name ++ '=' :: value ≠ [] :=
    List.append_ne_nil_of_right_ne_nil _ (List.cons_ne_nil _ _)
  change Form.of ('-' :: '-' :: (option.name ++ '=' :: value)) = _
  rw [Form.of_hyphens hne, List.dropWhile_append_of_pos hname, List.takeWhile_append_of_pos hname]
  change Form.long (option.name ++ []) (some value) = _
  rw [List.append_nil]

theorem Form.of_name (option : ValueOption) :
    Form.of ('-' :: '-' :: option.name) = .long option.name none := by
  cases option <;> rfl

/-- What starts with no hyphen is a word. -/
theorem Form.of_word {t : Text} (ht : t.head? ≠ some '-') : Form.of t = .word t := by
  unfold Form.of
  split
  · exact absurd rfl ht
  · exact absurd rfl ht
  · exact absurd rfl ht
  · rfl

/-- An option of a topic is found by its name. -/
theorem find?_name {topic : Topic} {option : ValueOption} (hoption : option ∈ topic.options) :
    topic.options.find? (fun other => other.name = option.name) = some option := by
  cases topic <;> cases option <;> revert hoption <;> decide

/-! ## Settling -/

namespace Progress

variable {p q : Progress} {topic : Topic} {option : ValueOption} {value : Text}

theorem settle_eq_ok (hsettle : p.settle option value = .ok q) :
    q = { p with given := p.given ++ [(option, value)], pending := none } ∧
      p.given.lookup option = none ∧ (option = .file → value ≠ []) := by
  unfold settle at hsettle
  split at hsettle
  · cases hsettle
  · next hnew =>
      split at hsettle
      · cases hsettle
      · next hvalue =>
          cases hsettle
          refine ⟨rfl, Option.not_isSome_iff_eq_none.mp hnew, ?_⟩
          rintro rfl rfl
          exact hvalue rfl

/-- An option that has not been given is settled. -/
theorem settle_new (hnew : p.given.lookup option = none) (hvalue : option = .file → value ≠ []) :
    p.settle option value =
      .ok { p with given := p.given ++ [(option, value)], pending := none } := by
  have hrefused : ¬ (decide (option = .file) && value.isEmpty) = true := by
    rw [Bool.and_eq_true, decide_eq_true_eq, List.isEmpty_iff]
    exact fun h => hvalue h.1 h.2
  unfold settle
  rw [hnew, if_neg (by decide), if_neg hrefused]

/-- An option that has been given is not settled again. -/
theorem settle_again (hold : (p.given.lookup option).isSome = true) :
    p.settle option value = .error (.misuse .conflict) :=
  if_pos hold

/-- Whether all arguments so far are options and their values. -/
structure OnlyOptions (p : Progress) : Prop where
  /-- The separator has not come. -/
  unseparated : p.separated = false
  /-- No shell has been named. -/
  no_shell : p.shell = none

theorem OnlyOptions.settle (hp : OnlyOptions p) (hsettle : p.settle option value = .ok q) :
    OnlyOptions q ∧ q.pending = none := by
  obtain ⟨rfl, -, -⟩ := settle_eq_ok hsettle
  exact ⟨⟨hp.unseparated, hp.no_shell⟩, rfl⟩

/-- Where nothing is pending, nothing is left to be settled. -/
theorem OnlyOptions.settleAll_eq (hp : OnlyOptions p) (hpending : p.pending = none) :
    p.settleAll = .ok p := by
  unfold settleAll
  rw [hpending, hp.no_shell]
  rfl

theorem OnlyOptions.settleAll (hp : OnlyOptions p) (hsettle : p.settleAll = .ok q) :
    OnlyOptions q ∧ q.pending = none := by
  cases hpending : p.pending with
  | none =>
      rw [hp.settleAll_eq hpending] at hsettle
      cases hsettle
      exact ⟨hp, hpending⟩
  | some pending =>
      obtain ⟨option, value⟩ := pending
      unfold Progress.settleAll at hsettle
      rw [hpending] at hsettle
      cases value with
      | none => cases hsettle
      | some value => exact hp.settle hsettle

/-! ## One option -/

/-- An option of the topic is taken after all before it has been settled. -/
theorem take_option {argument : Text} {given : Option Text} (hp : OnlyOptions p)
    (hoption : option ∈ topic.options) (hform : Form.of argument = .long option.name given) :
    p.take topic argument = p.settleAll.bind fun p =>
      match given with
      | some value => p.settle option value
      | none => .ok { p with pending := some (option, none) } := by
  unfold take
  rw [hp.unseparated, if_neg (by decide), hform]
  change p.takeOption topic option.name given = _
  unfold takeOption
  rw [if_neg (name_ne_help option), find?_name hoption]
  cases p.settleAll with
  | error stop => rfl
  | ok p => rfl

/-- The argument after an option that waits for its value is the value. -/
theorem take_value (hp : OnlyOptions p) (hpending : p.pending = some (option, none))
    (hvalue : value.head? ≠ some '-') :
    p.take topic value = .ok { p with pending := some (option, some value) } := by
  unfold take
  rw [hp.unseparated, if_neg (by decide), Form.of_word hvalue]
  change p.takeWord topic value = _
  unfold takeWord
  rw [hpending, hp.unseparated]

/-- The arguments of an option leave what is settled by it, or pending. -/
theorem foldlM_write {o : Occurrence} (hp : OnlyOptions p) (hoption : o.option ∈ topic.options) :
    o.write.foldlM (take topic) p = p.settleAll.bind fun p =>
      match o.manner with
      | .joined => p.settle o.option o.value
      | .apart => .ok { p with pending := some (o.option, some o.value) } := by
  obtain ⟨option, value, manner, head_ne⟩ := o
  cases manner with
  | joined =>
      change [option.argument value].foldlM (take topic) p = _
      rw [List.foldlM_cons, take_option hp hoption (Form.of_argument option value)]
      exact bind_pure _
  | apart =>
      change ['-' :: '-' :: option.name, value].foldlM (take topic) p = _
      rw [List.foldlM_cons, take_option hp hoption (Form.of_name option)]
      cases hsettle : p.settleAll with
      | error stop => rfl
      | ok q =>
          obtain ⟨hq, -⟩ := hp.settleAll hsettle
          let waiting : Progress := { q with pending := some (option, none) }
          have hwaiting : OnlyOptions waiting := ⟨hq.unseparated, hq.no_shell⟩
          have hvalue : waiting.take topic value
              = .ok { q with pending := some (option, some value) } :=
            take_value hwaiting rfl (head_ne rfl)
          change [value].foldlM (take topic) waiting = _
          rw [List.foldlM_cons, hvalue]
          rfl

theorem OnlyOptions.foldlM_write {o : Occurrence} (hp : OnlyOptions p)
    (hoption : o.option ∈ topic.options) (hrun : o.write.foldlM (take topic) p = .ok q) :
    OnlyOptions q := by
  rw [Progress.foldlM_write hp hoption] at hrun
  obtain ⟨r, hsettle, hrest⟩ := exists_of_bind_eq_ok hrun
  obtain ⟨hr, -⟩ := hp.settleAll hsettle
  cases hmanner : o.manner with
  | joined =>
      rw [hmanner] at hrest
      exact (hr.settle hrest).1
  | apart =>
      rw [hmanner] at hrest
      cases hrest
      exact ⟨hr.unseparated, hr.no_shell⟩

/-- **One option is settled with its value**, in whichever manner it is written. -/
theorem settled_write {o : Occurrence} (hp : OnlyOptions p) (hoption : o.option ∈ topic.options) :
    (o.write.foldlM (take topic) p).bind settleAll =
      p.settleAll.bind (·.settle o.option o.value) := by
  rw [foldlM_write hp hoption]
  cases hsettle : p.settleAll with
  | error stop => rfl
  | ok q =>
      obtain ⟨hq, hpending⟩ := hp.settleAll hsettle
      cases hmanner : o.manner with
      | joined =>
          change (q.settle o.option o.value).bind settleAll = q.settle o.option o.value
          cases hnext : q.settle o.option o.value with
          | error stop => rfl
          | ok r => exact (hq.settle hnext).1.settleAll_eq (hq.settle hnext).2
      -- the value is pending, and with it everything is as it was
      | apart =>
          change (if _ then _ else _) = (if _ then _ else _)
          rfl

/-! ## A row of options -/

/-- **A row of options is settled one option after the other.** -/
theorem settled_writes {row : List Occurrence} (hp : OnlyOptions p)
    (hoptions : ∀ o ∈ row, o.option ∈ topic.options) :
    ((row.flatMap Occurrence.write).foldlM (take topic) p).bind settleAll =
      p.settleAll.bind fun p => row.foldlM (fun p o => p.settle o.option o.value) p := by
  induction row generalizing p with
  | nil =>
      change p.settleAll = p.settleAll.bind .ok
      exact (bind_pure _).symm
  | cons o row ih =>
      rw [List.forall_mem_cons] at hoptions
      obtain ⟨hoption, hoptions⟩ := hoptions
      have hfirst := settled_write hp hoption
      rw [List.flatMap_cons, List.foldlM_append]
      cases hrun : o.write.foldlM (take topic) p with
      -- what stops the first option stops the row, be it before the option or by it
      | error stop =>
          rw [hrun] at hfirst
          cases hsettle : p.settleAll with
          | error other =>
              rw [hsettle] at hfirst
              exact hfirst
          | ok q =>
              rw [hsettle] at hfirst
              change Except.error stop = q.settle o.option o.value at hfirst
              change Except.error stop = _
              simp only [Except.bind, List.foldlM_cons, ← hfirst]
              rfl
      | ok q =>
          rw [hrun] at hfirst
          change ((row.flatMap Occurrence.write).foldlM (take topic) q).bind settleAll = _
          rw [ih (hp.foldlM_write hoption hrun) hoptions]
          change q.settleAll = p.settleAll.bind (·.settle o.option o.value) at hfirst
          rw [hfirst]
          cases p.settleAll with
          | error stop => rfl
          | ok r => rfl

end Progress

end OperatorNames.CommandLine
