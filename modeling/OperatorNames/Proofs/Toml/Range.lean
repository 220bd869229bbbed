import OperatorNames.Toml.Document

/-!
# Whole numbers of a document

Every whole number that is read has 63 bits and a sign, and putting pairs and sections into a table
changes none.  So the whole numbers that a document's own table holds are in range
(`inRange_of_read?`).
-/

namespace OperatorNames.Toml

open Text

/-- A node that is no whole number, or one that 63 bits and a sign can hold. -/
def Node.InRange (node : Node) : Prop :=
  ∀ n extent, node = .scalar (.integer n) extent → -Number.bound ≤ n ∧ n < Number.bound

/-- The whole numbers of a table are in range; those of tables in it are not asked about. -/
def Entries.InRange (entries : Entries) : Prop :=
  ∀ entry ∈ entries, entry.2.InRange

theorem inRange_of_map {α : Type} {x : Option α} {f : α → Node} {node : Node}
    (hf : ∀ a, (f a).InRange) (hmap : x.map f = some node) : node.InRange := by
  obtain ⟨a, -, heq⟩ := Option.map_eq_some_iff.mp hmap
  rw [← heq]
  exact hf a

/-! ## Values -/

theorem Number.range_of_integer? {t rest : Text} {n : Int}
    (hread : Number.integer? t = some (n, rest)) : -Number.bound ≤ n ∧ n < Number.bound := by
  have hmarked {base : Nat} {after : Text}
      (hmark : (Number.digits? base after).bind (fun found =>
        if Number.value base found.1 < Number.bound then
          some ((Number.value base found.1 : Int), found.2) else none) = some (n, rest)) :
      -Number.bound ≤ n ∧ n < Number.bound := by
    obtain ⟨found, -, hfound⟩ := Option.bind_eq_some_iff.mp hmark
    split at hfound
    · simp only [Option.some.injEq, Prod.mk.injEq] at hfound
      omega
    · cases hfound
  unfold Number.integer? at hread
  dsimp only at hread
  split at hread
  · exact hmarked hread
  · exact hmarked hread
  · exact hmarked hread
  · obtain ⟨⟨digits, last⟩, -, hfound⟩ := Option.bind_eq_some_iff.mp hread
    dsimp only at hfound
    generalize (if (Number.sign t).1 = true then -(Number.value 10 digits : Int)
      else Number.value 10 digits) = m at hfound
    split at hfound
    · next hrange =>
        simp only [Option.some.injEq, Prod.mk.injEq] at hfound
        rw [← hfound.1]
        exact hrange
    · cases hfound

theorem inRange_of_scalar? {t rest : Text} {value : Scalar} (extent : Extent)
    (hread : scalar? t = some (value, rest)) : (Node.scalar value extent).InRange := by
  rintro n other heq
  cases heq
  unfold scalar? at hread
  split at hread
  · cases hread
  · next c more =>
      dsimp only at hread
      split at hread
      · obtain ⟨found, -, hfound⟩ := Option.map_eq_some_iff.mp hread
        cases hfound
      · split at hread
        · split at hread
          · cases hread
          · split at hread
            · cases hread
            · obtain ⟨found, hinteger, hfound⟩ := Option.map_eq_some_iff.mp hread
              cases hfound
              exact Number.range_of_integer? hinteger
        · split at hread
          · cases hread
          · obtain ⟨found, -, hfound⟩ := Option.map_eq_some_iff.mp hread
            cases hfound

theorem inRange_of_value? {depth : Nat} {t rest : Text} {node : Node}
    (hread : value? depth t = some (node, rest)) : node.InRange := by
  have hscalar (hplain : (scalar? t).map (fun found => (Node.scalar found.1 ⟨t, found.2⟩, found.2)) =
      some (node, rest)) : node.InRange := by
    obtain ⟨found, hfound, heq⟩ := Option.map_eq_some_iff.mp hplain
    cases heq
    exact inRange_of_scalar? _ hfound
  cases depth with
  | zero => exact hscalar hread
  | succ depth =>
      unfold value? at hread
      split at hread
      · obtain ⟨found, -, heq⟩ := Option.map_eq_some_iff.mp hread
        cases heq
        exact nofun
      · split at hread
        · cases hread
          exact nofun
        · simp only [Option.bind_eq_bind, Option.bind_eq_some_iff] at hread
          obtain ⟨found, -, entries, -, heq⟩ := hread
          cases heq
          exact nofun
      · exact hscalar hread

theorem inRange_of_pair? {depth : Nat} {t rest : Text} {pair : Pair}
    (hread : pair? (value? depth) t = some (pair, rest)) : pair.value.InRange := by
  simp only [pair?, Option.bind_eq_bind, Option.bind_eq_some_iff] at hread
  obtain ⟨key, -, after, -, found, hvalue, heq⟩ := hread
  cases heq
  exact inRange_of_value? hvalue

/-! ## Lines -/

/-- The value of a pair is in range. -/
def Statement.InRange (statement : Statement) : Prop :=
  ∀ pair, statement = .pair pair → pair.value.InRange

theorem inRange_of_header? {t rest : Text} {statement : Statement}
    (hread : header? t = some (statement, rest)) : statement.InRange := by
  rintro pair rfl
  unfold header? at hread
  split at hread
  · simp only [Option.bind_eq_bind, Option.bind_eq_some_iff] at hread
    obtain ⟨found, -, after, -, heq⟩ := hread
    cases heq
  · simp only [Option.bind_eq_bind, Option.bind_eq_some_iff] at hread
    obtain ⟨found, -, after, -, heq⟩ := hread
    cases heq
  · cases hread

theorem inRange_of_statement? {t rest : Text} {statement : Statement}
    (hread : statement? t = some (statement, rest)) : statement.InRange := by
  unfold statement? at hread
  split at hread
  · cases hread
    exact nofun
  · dsimp only at hread
    split at hread
    · obtain ⟨⟨first, after⟩, hfirst, hread⟩ := Option.bind_eq_some_iff.mp hread
      obtain ⟨last, -, heq⟩ := Option.bind_eq_some_iff.mp hread
      cases heq
      exact inRange_of_header? hfirst
    · obtain ⟨⟨first, after⟩, hfirst, hread⟩ := Option.bind_eq_some_iff.mp hread
      obtain ⟨last, -, heq⟩ := Option.bind_eq_some_iff.mp hread
      obtain ⟨found, hpair, hsame⟩ := Option.map_eq_some_iff.mp hfirst
      cases heq
      cases hsame
      rintro pair heq
      cases heq
      exact inRange_of_pair? hpair

theorem inRange_of_statements? {done : List Statement} {fuel : Nat} {t : Text}
    {statements : List Statement} (hdone : ∀ statement ∈ done, statement.InRange)
    (hread : statements? done fuel t = some statements) :
    ∀ statement ∈ statements, statement.InRange := by
  induction fuel generalizing done t with
  | zero =>
      cases t with
      | nil =>
          cases hread
          simpa using hdone
      | cons c more => cases hread
  | succ fuel ih =>
      cases t with
      | nil =>
          cases hread
          simpa using hdone
      | cons c more =>
          rw [statements?] at hread
          · obtain ⟨⟨first, after⟩, hfirst, hread⟩ := Option.bind_eq_some_iff.mp hread
            refine ih ?_ hread
            intro statement hstatement
            rcases List.mem_cons.mp hstatement with rfl | hbefore
            · exact inRange_of_statement? hfirst
            · exact hdone statement hbefore
          · exact nofun

/-- The pairs before the first header and below the headers are those of the lines. -/
theorem inRange_of_sections {statements : List Statement}
    (hstatements : ∀ statement ∈ statements, statement.InRange) :
    ∀ pair ∈ (sections statements).1, pair.value.InRange := by
  induction statements with
  | nil => exact nofun
  | cons statement more ih =>
      have hmore := ih fun other hother => hstatements other (List.mem_cons_of_mem _ hother)
      have hfirst := hstatements statement List.mem_cons_self
      cases statement with
      | empty => exact hmore
      | pair first =>
          intro pair hpair
          rw [sections] at hpair
          rcases List.mem_cons.mp hpair with rfl | hlater
          · exact hfirst _ rfl
          · exact hmore pair hlater
      | header repeated path key extent => exact nofun

/-! ## Tables -/

namespace Entries

theorem InRange.nil : InRange [] := by
  intro entry hentry
  cases hentry

theorem InRange.append {entries more : Entries} (hentries : entries.InRange)
    (hmore : more.InRange) : (entries ++ more).InRange := by
  intro entry hentry
  rcases List.mem_append.mp hentry with hbefore | hafter
  · exact hentries entry hbefore
  · exact hmore entry hafter

theorem InRange.singleton {name : Text} {node : Node} (hnode : node.InRange) :
    InRange [(name, node)] := by
  intro entry hentry
  rw [List.mem_singleton.mp hentry]
  exact hnode

theorem InRange.alter {entries altered : Entries} {name : Text}
    {change : Option Node → Option Node} (hentries : entries.InRange)
    (hchange : ∀ held node, change held = some node → node.InRange)
    (halter : entries.alter name change = some altered) : altered.InRange := by
  unfold Entries.alter at halter
  split at halter
  · obtain ⟨node, hnode, heq⟩ := Option.map_eq_some_iff.mp halter
    cases heq
    exact hentries.append (.singleton (hchange _ node hnode))
  · obtain ⟨node, hnode, heq⟩ := Option.map_eq_some_iff.mp halter
    cases heq
    intro entry hentry
    obtain ⟨before, hbefore, rfl⟩ := List.mem_map.mp hentry
    dsimp only
    split
    · exact hchange _ node hnode
    · exact hentries before hbefore

theorem InRange.addPair {entries added : Entries} {key : Key} {value : Node} {settled : Bool}
    {path : List Key} (hentries : entries.InRange) (hvalue : value.InRange)
    (hadd : Entries.addPair key value settled path entries = some added) : added.InRange := by
  cases path with
  | nil =>
      rw [Entries.addPair] at hadd
      split at hadd
      · cases hadd
      · cases hadd
        exact hentries.append (.singleton hvalue)
  | cons step path =>
      rw [Entries.addPair] at hadd
      refine hentries.alter ?_ hadd
      -- whatever a step holds afterwards, it is a table or several
      intro held node hnode
      split at hnode
      · exact inRange_of_map (fun _ => by exact nofun) hnode
      · split at hnode
        · cases hnode
        · exact inRange_of_map (fun _ => by exact nofun) hnode
      · exact inRange_of_map (fun _ => by exact nofun) hnode
      · cases hnode

/-- What every step keeps in range is in range after all of them. -/
theorem InRange.foldlM {α : Type} {step : Entries → α → Option Entries} {items : List α}
    (hstep : ∀ a ∈ items, ∀ held added : Entries, held.InRange → step held a = some added →
      added.InRange)
    {entries last : Entries} (hentries : entries.InRange)
    (hfold : items.foldlM step entries = some last) : last.InRange := by
  induction items generalizing entries with
  | nil =>
      cases hfold
      exact hentries
  | cons a items ih =>
      rw [List.foldlM_cons] at hfold
      obtain ⟨one, hone, hmore⟩ := Option.bind_eq_some_iff.mp hfold
      have hfirst := hstep a List.mem_cons_self entries one hentries hone
      exact ih (fun b hb => hstep b (List.mem_cons_of_mem a hb)) hfirst hmore

theorem InRange.addPairs {entries added : Entries} {pairs : List Pair}
    (hentries : entries.InRange) (hpairs : ∀ pair ∈ pairs, pair.value.InRange)
    (hadd : entries.addPairs pairs = some added) : added.InRange := by
  refine InRange.foldlM ?_ hentries hadd
  intro pair hpair held one hheld hone
  exact hheld.addPair (hpairs pair hpair) hone

theorem InRange.addTable {entries added : Entries} {part : Section} (hentries : entries.InRange)
    (hadd : entries.addTable part = some added) : added.InRange := by
  unfold Entries.addTable at hadd
  dsimp only at hadd
  split at hadd
  · refine hentries.alter ?_ hadd
    intro held node hnode
    split at hnode
    · exact inRange_of_map (fun _ => by exact nofun) hnode
    · exact inRange_of_map (fun _ => by exact nofun) hnode
    · cases hnode
  · split at hadd
    · obtain ⟨inner, -, heq⟩ := Option.map_eq_some_iff.mp hadd
      cases heq
      exact hentries.append (.singleton nofun)
    · obtain ⟨inner, -, heq⟩ := Option.map_eq_some_iff.mp hadd
      cases heq
      refine InRange.append ?_ (.singleton nofun)
      exact fun entry hentry => hentries entry (List.mem_filter.mp hentry).1
    · cases hadd

theorem InRange.addSection {entries added : Entries} {part : Section} {path : List Key}
    (hentries : entries.InRange) (hadd : Entries.addSection part path entries = some added) :
    added.InRange := by
  cases path with
  | nil =>
      rw [Entries.addSection] at hadd
      exact hentries.addTable hadd
  | cons step path =>
      rw [Entries.addSection] at hadd
      refine hentries.alter ?_ hadd
      intro held node hnode
      split at hnode
      · exact inRange_of_map (fun _ => by exact nofun) hnode
      · exact inRange_of_map (fun _ => by exact nofun) hnode
      · exact inRange_of_map (fun _ => by exact nofun) hnode
      · cases hnode

end Entries

/-- **The whole numbers of a document's own table are in range.** -/
theorem inRange_of_read? {t : Text} {document : Document}
    (hread : Document.read? t = some document) : document.entries.InRange := by
  simp only [Document.read?, Option.bind_eq_bind, Option.bind_eq_some_iff] at hread
  obtain ⟨statements, hstatements, own, hown, entries, hsections, heq⟩ := hread
  cases heq
  have hlines : ∀ statement ∈ statements, statement.InRange := by
    refine inRange_of_statements? ?_ hstatements
    intro statement hnone
    cases hnone
  have hpairs := Entries.InRange.nil.addPairs (inRange_of_sections hlines) hown
  refine Entries.InRange.foldlM ?_ hpairs hsections
  intro part _ held one hheld hone
  exact hheld.addSection hone

end OperatorNames.Toml
