import OperatorNames.Proofs.CommandLine.Options

/-!
# Commands in writing

A command can be written in several ways (`Spells`), one of which is `Command.arguments`.  Reading
takes each of them for the command (`read_of_spells`), refuses two options that exclude each other
and an option that is given twice (`readTopic_two`), and comes to nothing but commands that can be
written (`isAskable_of_read`).

The main statement is `read_arguments`.
-/

namespace OperatorNames

/-- Whether a command can be asked for: it has one source at most, and a file has a path. -/
def Command.IsAskable : Command → Prop
  | .operators _ url file => (url = none ∨ file = none) ∧ file ≠ some []
  | .digest _ | .completions _ | .manual => True

/-- The topic under which operators are written in a style. -/
def Style.topic : Style → Topic
  | .listEntry => .names
  | .pair => .pairs

theorem Style.topic_ne_help (style : Style) : style.topic ≠ .help := by
  cases style <;> decide

namespace CommandLine

/-- Whether the value of an option will do: a file has a path. -/
def Occurrence.Allowed (o : Occurrence) : Prop :=
  o.option = .file → o.value ≠ []

/-- The ways in which a command is written. -/
inductive Spells : Command → List Text → Prop
  | operators (style : Style) : Spells (.operators style none none) [style.topic.word]
  | operatorsAt (style : Style) (o : Occurrence) (hoption : o.option = .url) :
      Spells (.operators style (some o.value) none) (style.topic.word :: o.write)
  | operatorsIn (style : Style) (o : Occurrence) (hoption : o.option = .file)
      (hallowed : o.Allowed) :
      Spells (.operators style none (some o.value)) (style.topic.word :: o.write)
  | digest : Spells (.digest none) [Topic.digest.word]
  | digestAt (o : Occurrence) (hoption : o.option = .url) :
      Spells (.digest (some o.value)) (Topic.digest.word :: o.write)
  | completions (shell : Shell) : Spells (.completions shell) [Topic.completions.word, shell.name]
  | manual : Spells .manual [Topic.man.word]

/-- An option that is one argument with its value. -/
def Occurrence.joined (option : ValueOption) (value : Text) : Occurrence where
  option := option
  value := value
  manner := .joined
  head_ne := nofun

theorem spells_arguments {c : Command} (hc : c.IsAskable) : Spells c c.arguments := by
  cases c with
  | operators style url file =>
      obtain ⟨hone, hpath⟩ := hc
      cases url with
      | none =>
          cases file with
          | none => cases style <;> exact .operators _
          | some path =>
              have hallowed : (Occurrence.joined .file path).Allowed := by
                rintro - rfl
                exact hpath rfl
              cases style <;> exact .operatorsIn _ (.joined .file path) rfl hallowed
      | some url =>
          obtain rfl : file = none := hone.resolve_left (Option.some_ne_none url)
          cases style <;> exact .operatorsAt _ (.joined .url url) rfl
  | digest url =>
      cases url with
      | none => exact .digest
      | some url => exact .digestAt (.joined .url url) rfl
  | completions shell => exact .completions shell
  | manual => exact .manual

/-! ## Rows of options -/

section Rows

variable {topic : Topic} {row : List Occurrence} {p q : Progress}

theorem Progress.OnlyOptions.foldlM_writes (hp : p.OnlyOptions)
    (hoptions : ∀ o ∈ row, o.option ∈ topic.options)
    (hrun : (row.flatMap Occurrence.write).foldlM (Progress.take topic) p = .ok q) :
    q.OnlyOptions := by
  induction row generalizing p with
  | nil =>
      cases hrun
      exact hp
  | cons o row ih =>
      rw [List.forall_mem_cons] at hoptions
      rw [List.flatMap_cons, List.foldlM_append] at hrun
      obtain ⟨r, hfirst, hrest⟩ := exists_of_bind_eq_ok hrun
      exact ih (hp.foldlM_write hoptions.1 hfirst) hoptions.2 hrest

/-- What has been settled makes no difference to the command. -/
theorem Progress.command_of_settleAll (hp : p.OnlyOptions) :
    p.command topic = p.settleAll.bind (Progress.command topic) := by
  cases hsettle : p.settleAll with
  | error stop =>
      unfold Progress.command
      rw [hsettle]
      rfl
  | ok q =>
      obtain ⟨hq, hpending⟩ := hp.settleAll hsettle
      change p.command topic = q.command topic
      unfold Progress.command
      rw [hsettle, hq.settleAll_eq hpending]

/-- What is said of the command that arguments come to, or of what reading them stops with. -/
def outcome (topic : Topic) : Except Stop Command → Except Misuse Request
  | .ok command => .ok (.command command true)
  | .error .help => .ok (.help (some topic))
  | .error (.misuse misuse) => .error misuse

theorem readTopic_eq (topic : Topic) (arguments : List Text) :
    readTopic topic arguments = outcome topic
      ((arguments.foldlM (Progress.take topic) {}).bind (Progress.command topic)) := by
  unfold readTopic outcome
  rfl

/-- A row of options comes to what settling them one after the other comes to. -/
theorem readTopic_row (hoptions : ∀ o ∈ row, o.option ∈ topic.options) :
    readTopic topic (row.flatMap Occurrence.write) =
      outcome topic ((row.foldlM (fun p o => Progress.settle p o.option o.value) {}).bind
        (Progress.command topic)) := by
  have hstart : Progress.OnlyOptions {} := ⟨rfl, rfl⟩
  have hrow := Progress.settled_writes hstart hoptions
  have hcommand : ((row.flatMap Occurrence.write).foldlM (Progress.take topic) {}).bind
      (Progress.command topic) =
        (((row.flatMap Occurrence.write).foldlM (Progress.take topic) {}).bind
          Progress.settleAll).bind (Progress.command topic) := by
    cases hrun : (row.flatMap Occurrence.write).foldlM (Progress.take topic) {} with
    | error stop => rfl
    | ok p => exact Progress.command_of_settleAll (hstart.foldlM_writes hoptions hrun)
  rw [readTopic_eq, hcommand, hrow, hstart.settleAll_eq rfl]
  rfl

/-- What the options of a command line have settled. -/
def settledWith (given : List (ValueOption × Text)) : Progress := { given }

/-- One option on its own is settled. -/
theorem readTopic_one {o : Occurrence} (hoption : o.option ∈ topic.options) (hallowed : o.Allowed)
    {command : Command}
    (hcommand : (settledWith [(o.option, o.value)]).command topic = .ok command) :
    readTopic topic o.write = .ok (.command command true) := by
  have hsettle : Progress.settle {} o.option o.value =
      .ok (settledWith [(o.option, o.value)]) := Progress.settle_new rfl hallowed
  have hrow : readTopic topic ([o].flatMap Occurrence.write) = _ :=
    readTopic_row (List.forall_mem_singleton.mpr hoption)
  rw [List.flatMap_singleton, List.foldlM_cons, hsettle] at hrow
  change readTopic topic o.write = outcome topic ((settledWith _).command topic) at hrow
  rw [hrow, hcommand, outcome]

/-- Operators have one source: both options together are refused. -/
theorem command_of_both (style : Style) {option₁ option₂ : ValueOption} (hne : option₁ ≠ option₂)
    (value₁ value₂ : Text) :
    (settledWith [(option₁, value₁), (option₂, value₂)]).command style.topic =
      .error (.misuse .conflict) := by
  cases option₁ with
  | url =>
      cases option₂ with
      | url => exact absurd rfl hne
      | file => cases style <;> rfl
  | file =>
      cases option₂ with
      | url => cases style <;> rfl
      | file => exact absurd rfl hne

/-- Two options, of which the second has been given before or excludes the first, are refused. -/
theorem readTopic_two {o₁ o₂ : Occurrence} (hoption₁ : o₁.option ∈ topic.options)
    (hoption₂ : o₂.option ∈ topic.options) (hallowed₁ : o₁.Allowed) (hallowed₂ : o₂.Allowed)
    (hexcluded : o₁.option = o₂.option ∨ ∃ style : Style, topic = style.topic) :
    readTopic topic (o₁.write ++ o₂.write) = .error .conflict := by
  have hfirst : Progress.settle {} o₁.option o₁.value =
      .ok (settledWith [(o₁.option, o₁.value)]) := Progress.settle_new rfl hallowed₁
  have hrow : readTopic topic ([o₁, o₂].flatMap Occurrence.write) = _ :=
    readTopic_row (List.forall_mem_cons.mpr ⟨hoption₁, List.forall_mem_singleton.mpr hoption₂⟩)
  rw [List.flatMap_cons, List.flatMap_singleton, List.foldlM_cons, hfirst] at hrow
  change readTopic topic (o₁.write ++ o₂.write) = outcome topic
    ((((settledWith [(o₁.option, o₁.value)]).settle o₂.option o₂.value).bind pure).bind
      (Progress.command topic)) at hrow
  rw [hrow]
  by_cases hsame : o₁.option = o₂.option
  -- the second option is refused when it is settled, or both are by the command
  · have hgiven : ([(o₁.option, o₁.value)].lookup o₂.option).isSome = true := by
      rw [hsame, List.lookup_cons_self]
      rfl
    rw [Progress.settle_again hgiven]
    rfl
  · have hother : [(o₁.option, o₁.value)].lookup o₂.option = none := by
      rw [List.lookup_cons, beq_false_of_ne (Ne.symm hsame)]
      rfl
    rw [Progress.settle_new hother hallowed₂]
    obtain ⟨style, rfl⟩ := hexcluded.resolve_left hsame
    change outcome style.topic
      ((settledWith [(o₁.option, o₁.value), (o₂.option, o₂.value)]).command style.topic) = _
    rw [command_of_both style hsame, outcome]

end Rows

/-! ## The words of topics -/

theorem read_topic {topic : Topic} (htopic : topic ≠ .help) (rest : List Text) :
    read (topic.word :: rest) = readTopic topic rest := by
  cases topic with
  | help => exact absurd rfl htopic
  | names => rfl
  | pairs => rfl
  | digest => rfl
  | completions => rfl
  | man => rfl

theorem mem_options (style : Style) (option : ValueOption) : option ∈ style.topic.options := by
  cases style <;> cases option <;> decide

/-- A command is read back from every way in which it is written. -/
theorem read_of_spells {c : Command} {arguments : List Text} (hspells : Spells c arguments) :
    read arguments = .ok (.command c true) := by
  cases hspells with
  | operators style => cases style <;> rfl
  | operatorsAt style o hoption =>
      rw [read_topic (Style.topic_ne_help style)]
      refine readTopic_one (mem_options style _) ?_ ?_
      · intro hfile
        rw [hoption] at hfile
        cases hfile
      · rw [hoption]
        cases style <;> rfl
  | operatorsIn style o hoption hallowed =>
      rw [read_topic (Style.topic_ne_help style)]
      refine readTopic_one (mem_options style _) hallowed ?_
      rw [hoption]
      cases style <;> rfl
  | digest => rfl
  | digestAt o hoption =>
      rw [read_topic (by decide)]
      refine readTopic_one ?_ ?_ ?_
      · rw [hoption]
        exact List.mem_cons_self
      · intro hfile
        rw [hoption] at hfile
        cases hfile
      · rw [hoption]
        rfl
  | completions shell => cases shell <;> rfl
  | manual => rfl

/-! ## What can be read at all -/

/-- Whether every file that has been given has a path. -/
def Progress.FilesNamed (p : Progress) : Prop :=
  ∀ path, (ValueOption.file, path) ∈ p.given → path ≠ []

namespace Progress

variable {p q : Progress} {topic : Topic} {option : ValueOption} {value : Text}

theorem FilesNamed.settle (hp : p.FilesNamed) (hsettle : p.settle option value = .ok q) :
    q.FilesNamed := by
  obtain ⟨rfl, -, hvalue⟩ := settle_eq_ok hsettle
  intro path hpath
  rcases List.mem_append.mp hpath with hbefore | hlast
  · exact hp path hbefore
  · obtain ⟨rfl, rfl⟩ := Prod.mk.inj (List.mem_singleton.mp hlast)
    exact hvalue rfl

theorem FilesNamed.settleAll (hp : p.FilesNamed) (hsettle : p.settleAll = .ok q) :
    q.FilesNamed := by
  unfold Progress.settleAll at hsettle
  split at hsettle
  · split at hsettle
    · cases hsettle
      exact hp
    · cases hsettle
  · cases hsettle
  · exact hp.settle hsettle

theorem FilesNamed.takeWord (hp : p.FilesNamed) (htake : p.takeWord topic value = .ok q) :
    q.FilesNamed := by
  unfold Progress.takeWord at htake
  split at htake
  · cases htake
    exact hp
  · split at htake
    · cases htake
      exact hp
    · cases htake

theorem askHelp_ne_ok : p.askHelp ≠ .ok q := by
  unfold askHelp
  split <;> exact nofun

theorem FilesNamed.takeOption {name : Text} {given : Option Text} (hp : p.FilesNamed)
    (htake : p.takeOption topic name given = .ok q) : q.FilesNamed := by
  unfold Progress.takeOption at htake
  split at htake
  · split at htake
    · cases htake
    · exact absurd htake askHelp_ne_ok
  · split at htake
    · cases htake
    · next option hfound =>
        split at htake
        · cases htake
        · next r hsettle =>
            have hr : r.FilesNamed := hp.settleAll hsettle
            cases given with
            | none =>
                cases htake
                exact hr
            | some value => exact hr.settle htake

/-- One argument gives no file without a path. -/
theorem FilesNamed.take {argument : Text} (hp : p.FilesNamed)
    (htake : p.take topic argument = .ok q) : q.FilesNamed := by
  unfold Progress.take at htake
  split at htake
  · exact hp.takeWord htake
  · split at htake
    · cases htake
      exact hp
    · exact hp.takeOption htake
    · split at htake
      · exact absurd htake askHelp_ne_ok
      · cases htake
    · exact hp.takeWord htake

/-- No row of arguments gives a file without a path. -/
theorem FilesNamed.foldlM_take {arguments : List Text} (hp : p.FilesNamed)
    (hrun : arguments.foldlM (Progress.take topic) p = .ok q) : q.FilesNamed := by
  induction arguments generalizing p with
  | nil =>
      cases hrun
      exact hp
  | cons argument arguments ih =>
      rw [List.foldlM_cons] at hrun
      obtain ⟨r, hfirst, hrest⟩ := exists_of_bind_eq_ok hrun
      exact ih (hp.take hfirst) hrest

/-- A command that operators are asked for with has one source, and a file has a path. -/
theorem FilesNamed.isAskable (hp : p.FilesNamed) {c : Command}
    (hcommand : p.command topic = .ok c) : c.IsAskable := by
  unfold Progress.command at hcommand
  split at hcommand
  · cases hcommand
  · next q hsettle =>
      have hq : q.FilesNamed := hp.settleAll hsettle
      -- conflicts are looked for only after everything has been settled
      have hpath : q.given.lookup .file ≠ some [] := by
        intro hempty
        obtain ⟨before, after, hgiven, -⟩ := List.lookup_eq_some_iff.mp hempty
        refine hq [] ?_ rfl
        rw [hgiven]
        exact List.mem_append_right _ List.mem_cons_self
      have hoperators : ∀ style, (if (q.given.lookup .url).isSome && (q.given.lookup .file).isSome
          then Except.error (Stop.misuse .conflict)
          else .ok (.operators style (q.given.lookup .url) (q.given.lookup .file))) = .ok c →
          c.IsAskable := by
        intro style hc
        split at hc
        · cases hc
        · next hone =>
            cases hc
            refine ⟨?_, hpath⟩
            rw [Bool.not_eq_true, Bool.and_eq_false_iff, Option.isSome_eq_false_iff,
              Option.isSome_eq_false_iff, Option.isNone_iff_eq_none, Option.isNone_iff_eq_none]
              at hone
            exact hone
      dsimp only at hcommand
      split at hcommand
      · exact hoperators _ hcommand
      · exact hoperators _ hcommand
      · cases hcommand
        trivial
      · split at hcommand
        · cases hcommand
          trivial
        · cases hcommand
      · cases hcommand
        trivial
      · cases hcommand
        trivial

end Progress

theorem isAskable_of_readTopic {topic : Topic} {arguments : List Text} {c : Command}
    {explicit : Bool} (hread : readTopic topic arguments = .ok (.command c explicit)) :
    c.IsAskable := by
  unfold readTopic at hread
  split at hread
  · next command hcommand =>
      cases hread
      obtain ⟨p, hrun, hlast⟩ := exists_of_bind_eq_ok hcommand
      have hstart : Progress.FilesNamed {} := fun path hpath => absurd hpath List.not_mem_nil
      exact (hstart.foldlM_take hrun).isAskable hlast
  · cases hread
  · cases hread

theorem readHelp_ne_command {arguments : List Text} {c : Command} {explicit : Bool} :
    readHelp arguments ≠ .ok (.command c explicit) := by
  unfold readHelp
  split
  · exact nofun
  · split <;> exact nofun
  · exact nofun

theorem isAskable_usual : Command.usual.IsAskable :=
  ⟨.inl rfl, nofun⟩

/-- What has been read can be asked for. -/
theorem isAskable_of_read {arguments : List Text} {c : Command} {explicit : Bool}
    (hread : read arguments = .ok (.command c explicit)) : c.IsAskable := by
  unfold read at hread
  split at hread
  · cases hread
    exact isAskable_usual
  · split at hread
    · exact absurd hread readHelp_ne_command
    · exact isAskable_of_readTopic hread
    · split at hread
      · unfold readSeparated at hread
        split at hread
        · cases hread
          exact isAskable_usual
        · cases hread
      · split at hread
        · split at hread <;> cases hread
        · cases hread
      · split at hread <;> cases hread
      · cases hread

/-! ## The round trip -/

/-- **Command lines are read as they are written.**  Every command that can be asked for is read
back from its arguments, and from every other way of writing it; two options that exclude each other
and an option given twice are a conflict, whatever their values.  Whatever arguments come to a
command, that command can be asked for, in particular not with two sources, and is read back from its
own arguments.  Without arguments the command is that of `names`, only that it was not named.  The
name by which the program was called is no argument, so it makes no difference. -/
theorem read_arguments :
    (∀ c : Command, c.IsAskable → read c.arguments = .ok (.command c true)) ∧
    (∀ c arguments, Spells c arguments → read arguments = .ok (.command c true)) ∧
    (∀ (style : Style) (o₁ o₂ : Occurrence), o₁.Allowed → o₂.Allowed → o₁.option ≠ o₂.option →
      read (style.topic.word :: (o₁.write ++ o₂.write)) = .error .conflict) ∧
    (∀ (topic : Topic) (o₁ o₂ : Occurrence), o₁.Allowed → o₂.Allowed → o₁.option ∈ topic.options →
      o₁.option = o₂.option → read (topic.word :: (o₁.write ++ o₂.write)) = .error .conflict) ∧
    (∀ arguments c explicit, read arguments = .ok (.command c explicit) →
      c.IsAskable ∧ read c.arguments = .ok (.command c true)) ∧
    (∃ c, read [] = .ok (.command c false) ∧ read [Topic.names.word] = .ok (.command c true)) := by
  refine ⟨fun c hc => read_of_spells (spells_arguments hc), fun c arguments => read_of_spells,
    ?_, ?_, ?_, ⟨.usual, rfl, rfl⟩⟩
  · intro style o₁ o₂ hallowed₁ hallowed₂ hne
    rw [read_topic (Style.topic_ne_help style)]
    exact readTopic_two (mem_options style _) (mem_options style _) hallowed₁ hallowed₂
      (.inr ⟨style, rfl⟩)
  · intro topic o₁ o₂ hallowed₁ hallowed₂ hoption hsame
    have htopic : topic ≠ .help := by
      rintro rfl
      cases hoption
    rw [read_topic htopic]
    exact readTopic_two hoption (hsame ▸ hoption) hallowed₁ hallowed₂ (.inl hsame)
  · intro arguments c explicit hread
    have hc : c.IsAskable := isAskable_of_read hread
    exact ⟨hc, read_of_spells (spells_arguments hc)⟩

/-- Values that look like options and commands, and a path that is given a second time. -/
theorem read_arguments_awkward :
    read ["pairs".toList, "--url=--file=names".toList] =
      .ok (.command (.operators .pair (some "--file=names".toList) none) true) ∧
    read ["names".toList, "--file".toList, "help".toList] =
      .ok (.command (.operators .listEntry none (some "help".toList)) true) ∧
    read ["pairs".toList, "--file=-".toList, "--url".toList, []] = .error .conflict ∧
    read ["digest".toList, "--url".toList, "=".toList, "--url=".toList] = .error .conflict ∧
    Command.IsAskable (.operators .listEntry none (some "help".toList)) := by
  obtain ⟨hown, hspells, hexclude, hagain, hback, -⟩ := read_arguments
  let help : Occurrence := ⟨.file, "help".toList, .apart, fun _ => by decide⟩
  have hhelp : read ["names".toList, "--file".toList, "help".toList] =
      .ok (.command (.operators .listEntry none (some "help".toList)) true) :=
    hspells _ _ (.operatorsIn .listEntry help rfl fun _ => by decide)
  exact ⟨hown (.operators .pair (some "--file=names".toList) none) ⟨.inr rfl, nofun⟩, hhelp,
    hexclude .pair (.joined .file "-".toList) ⟨.url, [], .apart, nofun⟩
      (fun _ => by decide) nofun (by decide),
    hagain .digest ⟨.url, "=".toList, .apart, fun _ => by decide⟩ (.joined .url [])
      nofun nofun (by decide) rfl,
    (hback _ _ _ hhelp).1⟩

end CommandLine

end OperatorNames
