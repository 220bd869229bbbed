import OperatorNames.Toml.Document

/-!
# A document's own table, key by key

The table of a document is built in steps: first the pairs before the first header are added to it,
then the sections (`Step`).  A step is about one key of the table, the first part of the key that it
names; whether it is possible and what that key holds afterwards depends on what the key held before
and on nothing else (`changesAt_apply`).  So the table can be built if it can be built for every key
by itself, and each key holds what the steps about it make of it (`Step.exists_applyAll`,
`Step.lookup_applyAll`).
-/

namespace OperatorNames.Toml

namespace Entries

/-- No key is given twice. -/
def Distinct (entries : Entries) : Prop :=
  (entries.map Prod.fst).Nodup

theorem lookup_replace (entries : Entries) (name other : Text) (node : Node) :
    List.lookup other (entries.map fun (key, held) =>
        if key = name then (key, node) else (key, held)) =
      if other = name then (entries.lookup other).map fun _ => node else entries.lookup other := by
  induction entries with
  | nil => simp
  | cons entry rest ih =>
      obtain ⟨key, held⟩ := entry
      by_cases hother : other = key
      · subst hother
        by_cases hname : other = name <;> simp [hname]
      · have hbeq : (other == key) = false := beq_false_of_ne hother
        by_cases hname : key = name
        · subst hname
          simp [List.lookup_cons, ih, hother, hbeq]
        · simp [hname, List.lookup_cons, ih, hbeq]

theorem keys_replace (entries : Entries) (name : Text) (node : Node) :
    (entries.map fun (key, held) => if key = name then (key, node) else (key, held)).map Prod.fst =
      entries.map Prod.fst := by
  rw [List.map_map]
  refine List.map_congr_left fun entry _ => ?_
  show (if entry.1 = name then (entry.1, node) else (entry.1, entry.2)).1 = entry.1
  split <;> rfl

theorem lookup_without (entries : Entries) {name other : Text} (hother : other ≠ name) :
    List.lookup other (entries.filter (·.1 ≠ name)) = entries.lookup other := by
  induction entries with
  | nil => rfl
  | cons entry rest ih =>
      obtain ⟨key, held⟩ := entry
      by_cases hkey : key = name
      · have hbeq : (other == key) = false := beq_false_of_ne (hkey ▸ hother)
        rw [List.filter_cons_of_neg (by simpa using hkey), ih, List.lookup_cons, hbeq]
      · rw [List.filter_cons_of_pos (by simpa using hkey), List.lookup_cons, List.lookup_cons, ih]

theorem lookup_without_self (entries : Entries) (name : Text) :
    List.lookup name (entries.filter (·.1 ≠ name)) = none := by
  rw [List.lookup_eq_none_iff]
  intro entry hentry
  have hne : entry.1 ≠ name := by simpa using (List.mem_filter.mp hentry).2
  rw [bne_iff_ne]
  exact hne.symm

theorem lookup_concat (entries : Entries) (name other : Text) (node : Node) :
    List.lookup other (entries ++ [(name, node)]) =
      (entries.lookup other).or (if other = name then some node else none) := by
  rw [List.lookup_append, List.lookup_cons]
  by_cases hother : other = name
  · subst hother
    rw [beq_self_eq_true, if_pos rfl]
  · rw [beq_false_of_ne hother, if_neg hother]
    rfl

theorem lookup_eq_none_iff_not_mem (entries : Entries) (name : Text) :
    entries.lookup name = none ↔ name ∉ entries.map Prod.fst := by
  rw [List.lookup_eq_none_iff]
  constructor
  · intro hne hmem
    obtain ⟨entry, hentry, rfl⟩ := List.mem_map.mp hmem
    exact bne_iff_ne.mp (hne entry hentry) rfl
  · intro hmem entry hentry
    rw [bne_iff_ne]
    rintro rfl
    exact hmem (List.mem_map_of_mem hentry)

theorem Distinct.concat {entries : Entries} (hdistinct : entries.Distinct) {name : Text}
    (hname : entries.lookup name = none) (node : Node) :
    Distinct (entries ++ [(name, node)]) := by
  unfold Distinct
  rw [List.map_append, List.nodup_append]
  refine ⟨hdistinct, List.pairwise_singleton _ _, ?_⟩
  rintro key hkey other hother rfl
  cases List.mem_singleton.mp hother
  exact (lookup_eq_none_iff_not_mem entries _).mp hname hkey

theorem Distinct.filter {entries : Entries} (hdistinct : entries.Distinct)
    (keep : Text × Node → Bool) : Distinct (entries.filter keep) :=
  List.Nodup.sublist (List.filter_sublist.map Prod.fst) hdistinct

/-- Where no key is given twice, what a table holds under a key is what is found there. -/
theorem Distinct.lookup_of_mem {entries : Entries} (hdistinct : entries.Distinct) {name : Text}
    {node : Node} (hmem : (name, node) ∈ entries) : entries.lookup name = some node := by
  induction entries with
  | nil => cases hmem
  | cons entry rest ih =>
      obtain ⟨key, held⟩ := entry
      obtain ⟨hkey, hrest⟩ := List.nodup_cons.mp hdistinct
      rw [List.lookup_cons]
      rcases List.mem_cons.mp hmem with heq | hlater
      · cases heq
        rw [beq_self_eq_true]
      · have hne : name ≠ key := by
          rintro rfl
          exact hkey (List.mem_map.mpr ⟨_, hlater, rfl⟩)
        rw [beq_false_of_ne hne]
        exact ih hrest hlater

/-- What comes of a step that is about one key of a table: nothing, if what the key holds cannot be
changed so; else the key holds what it has been changed to and all other keys hold what they held. -/
inductive ChangesAt (entries : Entries) (name : Text) (change : Option Node → Option Node) :
    Option Entries → Prop
  | refused (hchange : change (entries.lookup name) = none) : ChangesAt entries name change none
  | done {after : Entries} {node : Node} (hchange : change (entries.lookup name) = some node)
      (hself : after.lookup name = some node)
      (hothers : ∀ other, other ≠ name → after.lookup other = entries.lookup other)
      (hdistinct : entries.Distinct → after.Distinct) : ChangesAt entries name change (some after)

variable {entries : Entries} {name : Text} {change : Option Node → Option Node}

theorem changesAt_concat {node : Node} (hname : entries.lookup name = none)
    (hchange : change none = some node) :
    ChangesAt entries name change (some (entries ++ [(name, node)])) := by
  refine .done (hname ▸ hchange) ?_ ?_ fun hdistinct => hdistinct.concat hname node
  · rw [lookup_concat, hname, if_pos rfl]
    rfl
  · intro other hother
    rw [lookup_concat, if_neg hother, Option.or_none]

/-- A key may move to the end of the table as it is changed. -/
theorem changesAt_move {node : Node} (hchange : change (entries.lookup name) = some node) :
    ChangesAt entries name change (some (entries.filter (·.1 ≠ name) ++ [(name, node)])) := by
  refine .done hchange ?_ ?_ ?_
  · rw [lookup_concat, lookup_without_self, if_pos rfl]
    rfl
  · intro other hother
    rw [lookup_concat, if_neg hother, Option.or_none, lookup_without _ hother]
  · intro hdistinct
    exact (hdistinct.filter _).concat (lookup_without_self _ _) _

theorem ChangesAt.of_map {made : Option Entries} {node : Entries → Node}
    {after : Entries → Entries} (hchange : change (entries.lookup name) = made.map node)
    (hdone : ∀ inner, change (entries.lookup name) = some (node inner) →
      ChangesAt entries name change (some (after inner))) :
    ChangesAt entries name change (made.map after) := by
  cases made with
  | none => exact .refused hchange
  | some inner => exact hdone inner hchange

theorem changesAt_alter {f : Option Node → Option Node} (hsame : ∀ held, f held = change held)
    (entries : Entries) (name : Text) : ChangesAt entries name change (entries.alter name f) := by
  obtain rfl : f = change := funext hsame
  unfold alter
  cases hname : entries.lookup name with
  | none =>
      dsimp only
      cases hchange : f none with
      | none => exact .refused (hname ▸ hchange)
      | some node => exact changesAt_concat hname hchange
  | some held =>
      dsimp only
      cases hchange : f (some held) with
      | none => exact .refused (hname ▸ hchange)
      | some node =>
          refine .done (hname ▸ hchange) ?_ ?_ ?_
          · rw [lookup_replace, if_pos rfl, hname]
            rfl
          · intro other hother
            rw [lookup_replace, if_neg hother]
          · intro hdistinct
            unfold Distinct
            rw [keys_replace]
            exact hdistinct

/-! ## Pairs -/

/-- The first part of a key. -/
def firstName (path : List Key) (key : Key) : Text :=
  (path.headD key).name

/-- What adding a pair does to the first key that it names. -/
def pairChange (key : Key) (value : Node) (settled : Bool) (path : List Key) (held : Option Node) :
    Option Node :=
  match path, held with
  | [], none => if settled then none else some value
  | [], some _ => none
  | step :: path, none => (addPair key value false path []).map (.table .dotted · step.extent)
  | _ :: path, some (.table origin inner extent) =>
    if origin = .declared then none
    else (addPair key value (origin ≠ .dotted) path inner).map (.table origin · extent)
  | _ :: path, some (.tables items) => (alterLast (addPair key value true path) items).map .tables
  | _ :: _, some _ => none

theorem changesAt_addPair (key : Key) (value : Node) (settled : Bool) (path : List Key)
    (entries : Entries) :
    ChangesAt entries (firstName path key) (pairChange key value settled path)
      (addPair key value settled path entries) := by
  cases path with
  | nil =>
      rw [addPair]
      cases hname : entries.lookup key.name with
      | some held =>
          rw [Option.isSome_some, Bool.or_true, if_pos rfl]
          refine .refused ?_
          show pairChange key value settled [] (entries.lookup key.name) = none
          rw [hname]
          rfl
      | none =>
          rw [Option.isSome_none, Bool.or_false]
          cases settled with
          | true =>
              refine .refused ?_
              show pairChange key value true [] (entries.lookup key.name) = none
              rw [hname]
              rfl
          | false => exact changesAt_concat hname rfl
  | cons step path =>
      rw [addPair]
      refine changesAt_alter (fun held => ?_) entries step.name
      rcases held with _ | ⟨_, _⟩ | ⟨_, _⟩ | ⟨_, _⟩ | ⟨_, _, _⟩ | _ <;> rfl

/-! ## Sections -/

/-- What a header in two pairs of brackets does to the key that it names. -/
def repeatedChange (part : Section) (held : Option Node) : Option Node :=
  match held with
  | none => (addPairs [] part.pairs).map fun inner => .tables [(inner, part.extent)]
  | some (.tables items) =>
    (addPairs [] part.pairs).map fun inner => .tables (items ++ [(inner, part.extent)])
  | some _ => none

/-- What a header in one pair of brackets does to the key that it names. -/
def declaredChange (part : Section) (held : Option Node) : Option Node :=
  match held with
  | none => (addPairs [] part.pairs).map (.table .declared · part.extent)
  | some (.table .passed begun _) =>
    (addPairs begun part.pairs).map (.table .declared · part.extent)
  | some _ => none

/-- What adding the table of a header does to the key that the header names. -/
def tableChange (part : Section) (held : Option Node) : Option Node :=
  if part.repeated then repeatedChange part held else declaredChange part held

theorem tableChange_of_not_repeated {part : Section} (hrepeated : part.repeated = false)
    (held : Option Node) : tableChange part held = declaredChange part held := by
  rw [tableChange, hrepeated, if_neg Bool.false_ne_true]

theorem changesAt_declare (part : Section) (hrepeated : part.repeated = false)
    (entries : Entries) :
    ChangesAt entries part.key.name (tableChange part) (addTable entries part) := by
  have hchange {held : Option Node} (hname : entries.lookup part.key.name = held) :
      tableChange part (entries.lookup part.key.name) = declaredChange part held := by
    rw [hname, tableChange_of_not_repeated hrepeated]
  unfold addTable
  dsimp only
  rw [hrepeated, if_neg Bool.false_ne_true]
  cases hname : entries.lookup part.key.name with
  | none =>
      exact .of_map (hchange hname) fun inner hinner => changesAt_concat hname (hname ▸ hinner)
  | some held =>
      -- only a table that has been passed through can be declared
      rcases held with ⟨value, extent⟩ | ⟨items, extent⟩ | ⟨inner, extent⟩ |
        ⟨_ | _ | _, begun, extent⟩ | items
      · exact .refused (hchange hname)
      · exact .refused (hchange hname)
      · exact .refused (hchange hname)
      · exact .refused (hchange hname)
      · exact .of_map (hchange hname) fun inner hinner => changesAt_move hinner
      · exact .refused (hchange hname)
      · exact .refused (hchange hname)

theorem changesAt_addTable (part : Section) (entries : Entries) :
    ChangesAt entries part.key.name (tableChange part) (addTable entries part) := by
  cases hrepeated : part.repeated with
  | false => exact changesAt_declare part hrepeated entries
  | true =>
      unfold addTable
      dsimp only
      rw [hrepeated, if_pos rfl]
      refine changesAt_alter (fun held => ?_) entries part.key.name
      rw [tableChange, hrepeated, if_pos rfl]
      rcases held with _ | ⟨_, _⟩ | ⟨_, _⟩ | ⟨_, _⟩ | ⟨_, _, _⟩ | _ <;> rfl

/-- What adding a section does to the first key that its header names. -/
def sectionChange (part : Section) (path : List Key) (held : Option Node) : Option Node :=
  match path, held with
  | [], held => tableChange part held
  | step :: path, none => (addSection part path []).map (.table .passed · step.extent)
  | _ :: path, some (.table origin inner extent) =>
    (addSection part path inner).map (.table origin · extent)
  | _ :: path, some (.tables items) => (alterLast (addSection part path) items).map .tables
  | _ :: _, some _ => none

theorem changesAt_addSection (part : Section) (path : List Key) (entries : Entries) :
    ChangesAt entries (firstName path part.key) (sectionChange part path)
      (addSection part path entries) := by
  cases path with
  | nil =>
      rw [addSection]
      exact changesAt_addTable part entries
  | cons step path =>
      rw [addSection]
      refine changesAt_alter (fun held => ?_) entries step.name
      rcases held with _ | ⟨_, _⟩ | ⟨_, _⟩ | ⟨_, _⟩ | ⟨_, _, _⟩ | _ <;> rfl

end Entries

/-! ## Steps -/

/-- A step in building a document's own table. -/
inductive Step
  /-- A pair is added. -/
  | pair (pair : Pair)
  /-- A section is added. -/
  | part (part : Section)

namespace Step

/-- What a step makes of a table. -/
def apply : Step → Entries → Option Entries
  | .pair p, entries => Entries.addPair p.key p.value false p.path entries
  | .part s, entries => Entries.addSection s s.path entries

/-- The key of the table that a step is about. -/
def name : Step → Text
  | .pair p => Entries.firstName p.path p.key
  | .part s => Entries.firstName s.path s.key

/-- What a step makes of what that key holds. -/
def change : Step → Option Node → Option Node
  | .pair p => Entries.pairChange p.key p.value false p.path
  | .part s => Entries.sectionChange s s.path

theorem changesAt_apply (step : Step) (entries : Entries) :
    entries.ChangesAt step.name step.change (step.apply entries) := by
  cases step with
  | pair p => exact Entries.changesAt_addPair p.key p.value false p.path entries
  | part s => exact Entries.changesAt_addSection s s.path entries

/-- What steps make of a table, one after the other. -/
def applyAll (steps : List Step) (entries : Entries) : Option Entries :=
  steps.foldlM (fun entries step => step.apply entries) entries

theorem applyAll_cons (step : Step) (steps : List Step) (entries : Entries) :
    applyAll (step :: steps) entries = (step.apply entries).bind (applyAll steps) :=
  rfl

/-- What a key holds after some steps, of which only those about the key count; `none` if one of
these is not possible. -/
def heldAfter (name : Text) : List Step → Option Node → Option (Option Node)
  | [], held => some held
  | step :: steps, held =>
    if step.name = name then (step.change held).bind fun node => heldAfter name steps (some node)
    else heldAfter name steps held

/-- The steps that are about a key. -/
def about (name : Text) (steps : List Step) : List Step :=
  steps.filter (·.name = name)

/-- Two steps about different keys may change places. -/
theorem about_swap {a b : Step} (hab : a.name ≠ b.name) (name : Text) (before after : List Step) :
    about name (before ++ a :: b :: after) = about name (before ++ b :: a :: after) := by
  simp only [about, List.filter_append, List.append_cancel_left_eq]
  by_cases ha : a.name = name
  · have hb : b.name ≠ name := fun hb => hab (ha.trans hb.symm)
    simp [ha, hb]
  · simp [List.filter_cons, ha]

/-- Only the steps about a key count for it. -/
theorem heldAfter_about (name : Text) (steps : List Step) (held : Option Node) :
    heldAfter name (about name steps) held = heldAfter name steps held := by
  unfold about
  induction steps generalizing held with
  | nil => rfl
  | cons step steps ih =>
      rw [heldAfter]
      by_cases hname : step.name = name
      · rw [List.filter_cons_of_pos (by simpa using hname), heldAfter, if_pos hname, if_pos hname]
        simp only [ih]
      · rw [List.filter_cons_of_neg (by simpa using hname), if_neg hname, ih]

/-- **After all steps, each key holds what the steps about it make of it.** -/
theorem lookup_applyAll {steps : List Step} {entries after : Entries}
    (hsteps : applyAll steps entries = some after) :
    (entries.Distinct → after.Distinct) ∧
    ∀ name, heldAfter name steps (entries.lookup name) = some (after.lookup name) := by
  induction steps generalizing entries with
  | nil =>
      cases hsteps
      exact ⟨id, fun name => rfl⟩
  | cons step steps ih =>
      rw [applyAll_cons] at hsteps
      obtain ⟨next, hnext, hlater⟩ := Option.bind_eq_some_iff.mp hsteps
      obtain ⟨hdistinct, hheld⟩ := ih hlater
      have hstep := changesAt_apply step entries
      rw [hnext] at hstep
      cases hstep with
      | done hchange hself hothers hkeeps =>
          refine ⟨hdistinct ∘ hkeeps, fun name => ?_⟩
          rw [heldAfter, ← hheld name]
          by_cases hname : step.name = name
          · subst hname
            rw [if_pos rfl, hchange, hself]
            rfl
          · rw [if_neg hname, hothers name (Ne.symm hname)]

/-- **The steps are possible if those about each key are.** -/
theorem exists_applyAll {steps : List Step} {entries : Entries}
    (hheld : ∀ name, ∃ held, heldAfter name steps (entries.lookup name) = some held) :
    ∃ after, applyAll steps entries = some after := by
  induction steps generalizing entries with
  | nil => exact ⟨entries, rfl⟩
  | cons step steps ih =>
      have hstep := changesAt_apply step entries
      rw [applyAll_cons]
      cases hnext : step.apply entries with
      | none =>
          rw [hnext] at hstep
          cases hstep with
          | refused hchange =>
              obtain ⟨held, hfirst⟩ := hheld step.name
              rw [heldAfter, if_pos rfl, hchange] at hfirst
              cases hfirst
      | some next =>
          rw [hnext] at hstep
          cases hstep with
          | done hchange hself hothers hkeeps =>
              apply ih
              intro name
              obtain ⟨held, hname⟩ := hheld name
              refine ⟨held, ?_⟩
              rw [heldAfter] at hname
              by_cases hsame : step.name = name
              · subst hsame
                rw [if_pos rfl, hchange] at hname
                rw [hself]
                exact hname
              · rw [if_neg hsame] at hname
                rwa [hothers name (Ne.symm hsame)]

end Step

end OperatorNames.Toml
