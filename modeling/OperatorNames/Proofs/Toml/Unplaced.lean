import OperatorNames.Toml.Document

/-!
# Trees without their places

A node says where in its document it is written.  What a document says does not depend on that:
`Node.unplaced` forgets the places, and putting pairs and sections into a table can be done before
forgetting or after (`unplaced_addPairs`, `unplaced_addSection`).
-/

namespace OperatorNames.Toml

/-- The place of what has none. -/
def Extent.nowhere : Extent := ⟨[], []⟩

mutual

/-- A node without the places of what is in it. -/
def Node.unplaced : Node → Node
  | .scalar value _ => .scalar value .nowhere
  | .array items _ => .array (unplacedItems items) .nowhere
  | .inlineTable entries _ => .inlineTable (unplacedEntries entries) .nowhere
  | .table origin entries _ => .table origin (unplacedEntries entries) .nowhere
  | .tables items => .tables (unplacedTables items)

/-- Values without their places. -/
def unplacedItems : List Node → List Node
  | [] => []
  | item :: items => item.unplaced :: unplacedItems items

/-- The keys of a table and what they hold, without places. -/
def unplacedEntries : List (Text × Node) → List (Text × Node)
  | [] => []
  | (name, node) :: entries => (name, node.unplaced) :: unplacedEntries entries

/-- Tables under one name, without places. -/
def unplacedTables : List (List (Text × Node) × Extent) → List (List (Text × Node) × Extent)
  | [] => []
  | (entries, _) :: items => (unplacedEntries entries, .nowhere) :: unplacedTables items

end

/-- A part of a key without its place. -/
def Key.unplaced (key : Key) : Key :=
  { key with extent := .nowhere }

/-- A pair without places. -/
def Pair.unplaced (pair : Pair) : Pair :=
  { path := pair.path.map Key.unplaced, key := pair.key.unplaced, value := pair.value.unplaced }

/-- A section without places. -/
def Section.unplaced (part : Section) : Section :=
  { repeated := part.repeated
    path := part.path.map Key.unplaced
    key := part.key.unplaced
    pairs := part.pairs.map Pair.unplaced
    extent := .nowhere }

theorem unplacedItems_eq (items : List Node) : unplacedItems items = items.map Node.unplaced := by
  induction items with
  | nil => rfl
  | cons item items ih => rw [unplacedItems, ih, List.map_cons]

theorem unplacedEntries_append (entries more : Entries) :
    unplacedEntries (entries ++ more) = unplacedEntries entries ++ unplacedEntries more := by
  induction entries with
  | nil => rfl
  | cons entry entries ih =>
      obtain ⟨name, node⟩ := entry
      rw [List.cons_append, unplacedEntries, unplacedEntries, ih, List.cons_append]

theorem unplacedTables_append (items more : List (Entries × Extent)) :
    unplacedTables (items ++ more) = unplacedTables items ++ unplacedTables more := by
  induction items with
  | nil => rfl
  | cons item items ih =>
      obtain ⟨entries, extent⟩ := item
      rw [List.cons_append, unplacedTables, unplacedTables, ih, List.cons_append]

theorem lookup_unplacedEntries (entries : Entries) (name : Text) :
    (unplacedEntries entries).lookup name = (entries.lookup name).map Node.unplaced := by
  induction entries with
  | nil => rfl
  | cons entry entries ih =>
      obtain ⟨key, node⟩ := entry
      rw [unplacedEntries, List.lookup_cons, List.lookup_cons, ih]
      cases name == key <;> rfl

theorem unplacedEntries_replace (entries : Entries) (name : Text) (node : Node) :
    unplacedEntries (entries.map fun (key, held) =>
        if key = name then (key, node) else (key, held)) =
      (unplacedEntries entries).map fun (key, held) =>
        if key = name then (key, node.unplaced) else (key, held) := by
  induction entries with
  | nil => rfl
  | cons entry entries ih =>
      obtain ⟨key, held⟩ := entry
      by_cases hkey : key = name
      · simp [unplacedEntries, hkey, ih]
      · simp [unplacedEntries, hkey, ih]

theorem unplacedEntries_filter (entries : Entries) (name : Text) :
    unplacedEntries (entries.filter (·.1 ≠ name)) =
      (unplacedEntries entries).filter (·.1 ≠ name) := by
  induction entries with
  | nil => rfl
  | cons entry entries ih =>
      obtain ⟨key, held⟩ := entry
      rw [unplacedEntries]
      by_cases hkey : key = name
      · rw [List.filter_cons_of_neg (by simpa using hkey),
          List.filter_cons_of_neg (by simpa using hkey), ih]
      · rw [List.filter_cons_of_pos (by simpa using hkey),
          List.filter_cons_of_pos (by simpa using hkey), unplacedEntries, ih]

/-! ## Building tables -/

namespace Entries

/-- Changing what a key holds and forgetting places can be done in either order if that holds of the
change. -/
theorem unplaced_alter {f g : Option Node → Option Node}
    (hfg : ∀ held, g (held.map Node.unplaced) = (f held).map Node.unplaced) (entries : Entries)
    (name : Text) :
    alter (unplacedEntries entries) name g = (alter entries name f).map unplacedEntries := by
  unfold alter
  rw [lookup_unplacedEntries]
  cases entries.lookup name with
  | none =>
      have hnone := hfg none
      dsimp only [Option.map_none] at hnone ⊢
      rw [hnone]
      cases f none with
      | none => rfl
      | some node =>
          show some _ = some _
          rw [unplacedEntries_append]
          rfl
  | some held =>
      have hsome := hfg (some held)
      dsimp only [Option.map_some] at hsome ⊢
      rw [hsome]
      cases f (some held) with
      | none => rfl
      | some node =>
          show some _ = some _
          rw [unplacedEntries_replace]

theorem unplaced_alterLast {f g : Entries → Option Entries}
    (hfg : ∀ entries, g (unplacedEntries entries) = (f entries).map unplacedEntries)
    (items : List (Entries × Extent)) :
    alterLast g (unplacedTables items) = (alterLast f items).map unplacedTables := by
  induction items with
  | nil => rfl
  | cons item items ih =>
      obtain ⟨entries, extent⟩ := item
      cases items with
      | nil =>
          show (g (unplacedEntries entries)).map _ = ((f entries).map _).map _
          rw [hfg]
          cases f entries <;> rfl
      | cons next more =>
          obtain ⟨others, place⟩ := next
          show (alterLast g (unplacedTables ((others, place) :: more))).map _ =
            ((alterLast f ((others, place) :: more)).map _).map _
          rw [ih]
          cases alterLast f ((others, place) :: more) <;> rfl

theorem unplaced_addPair (key : Key) (value : Node) (settled : Bool) (path : List Key)
    (entries : Entries) :
    addPair key.unplaced value.unplaced settled (path.map Key.unplaced) (unplacedEntries entries) =
      (addPair key value settled path entries).map unplacedEntries := by
  induction path generalizing settled entries with
  | nil =>
      rw [List.map_nil, addPair, addPair, lookup_unplacedEntries, Option.isSome_map]
      show (if settled || (entries.lookup key.name).isSome then none else _) = _
      split
      · rfl
      · show some _ = some _
        rw [unplacedEntries_append]
        rfl
  | cons step path ih =>
      rw [List.map_cons, addPair, addPair]
      refine unplaced_alter (fun held => ?_) entries step.name
      rcases held with _ | ⟨_, _⟩ | ⟨_, _⟩ | ⟨_, _⟩ | ⟨origin, inner, extent⟩ | items
      · show (addPair _ _ false _ (unplacedEntries [])).map _ = _
        rw [ih]
        show _ = ((addPair key value false path []).map _).map _
        cases addPair key value false path [] <;> rfl
      · rfl
      · rfl
      · rfl
      · show (if origin = .declared then none else
          (addPair _ _ (origin ≠ .dotted) _ (unplacedEntries inner)).map _) =
            Option.map _ (if _ then _ else _)
        split
        · rfl
        · rw [ih, Option.map_map, Option.map_map]
          rfl
      · show (alterLast _ (unplacedTables items)).map _ = ((alterLast _ items).map _).map _
        rw [unplaced_alterLast (fun entries => ih true entries), Option.map_map, Option.map_map]
        rfl

theorem unplaced_addPairs (pairs : List Pair) (entries : Entries) :
    addPairs (unplacedEntries entries) (pairs.map Pair.unplaced) =
      (addPairs entries pairs).map unplacedEntries := by
  induction pairs generalizing entries with
  | nil => rfl
  | cons pair pairs ih =>
      unfold addPairs at ih ⊢
      rw [List.map_cons, List.foldlM_cons, List.foldlM_cons]
      show (addPair pair.key.unplaced pair.value.unplaced false (pair.path.map Key.unplaced)
        (unplacedEntries entries)).bind _ =
          ((addPair pair.key pair.value false pair.path entries).bind _).map _
      rw [unplaced_addPair]
      cases addPair pair.key pair.value false pair.path entries with
      | none => rfl
      | some next => exact ih next

section Table

variable (part : Section) (begun : Entries)

theorem unplaced_addPairs_part :
    addPairs (unplacedEntries begun) part.unplaced.pairs =
      (addPairs begun part.pairs).map unplacedEntries :=
  unplaced_addPairs part.pairs begun

theorem unplaced_append_declared (others : Entries) :
    ((addPairs (unplacedEntries begun) part.unplaced.pairs).map fun inner =>
        unplacedEntries others ++ [(part.key.name, Node.table .declared inner .nowhere)]) =
      ((addPairs begun part.pairs).map fun inner =>
        others ++ [(part.key.name, Node.table .declared inner part.extent)]).map
          unplacedEntries := by
  rw [unplaced_addPairs_part]
  cases addPairs begun part.pairs with
  | none => rfl
  | some inner =>
      show some _ = some _
      rw [unplacedEntries_append]
      rfl

theorem unplaced_append_tables (items : List (Entries × Extent)) :
    ((addPairs (unplacedEntries begun) part.unplaced.pairs).map fun inner =>
        Node.tables (unplacedTables items ++ [(inner, .nowhere)])) =
      ((addPairs begun part.pairs).map fun inner =>
        Node.tables (items ++ [(inner, part.extent)])).map Node.unplaced := by
  rw [unplaced_addPairs_part]
  cases addPairs begun part.pairs with
  | none => rfl
  | some inner =>
      show some (Node.tables (unplacedTables items ++ [(unplacedEntries inner, .nowhere)])) =
        some (Node.tables (unplacedTables (items ++ [(inner, part.extent)])))
      rw [unplacedTables_append]
      rfl

end Table

theorem unplaced_addTable (part : Section) (entries : Entries) :
    addTable (unplacedEntries entries) part.unplaced =
      (addTable entries part).map unplacedEntries := by
  unfold addTable
  dsimp only
  show (if part.repeated = true then _ else _) = _
  split
  · refine unplaced_alter (fun held => ?_) entries part.key.name
    rcases held with _ | ⟨_, _⟩ | ⟨_, _⟩ | ⟨_, _⟩ | ⟨_, _, _⟩ | items
    · exact unplaced_append_tables part [] []
    · rfl
    · rfl
    · rfl
    · rfl
    · exact unplaced_append_tables part [] items
  · have hlookup : (unplacedEntries entries).lookup part.unplaced.key.name =
        (entries.lookup part.key.name).map Node.unplaced :=
      lookup_unplacedEntries entries part.key.name
    rw [hlookup]
    rcases entries.lookup part.key.name with
      _ | ⟨_, _⟩ | ⟨_, _⟩ | ⟨_, _⟩ | ⟨_ | _ | _, begun, _⟩ | _
    · exact unplaced_append_declared part [] entries
    · rfl
    · rfl
    · rfl
    · rfl
    · have hpassed := unplaced_append_declared part begun (entries.filter (·.1 ≠ part.key.name))
      rw [unplacedEntries_filter] at hpassed
      exact hpassed
    · rfl
    · rfl

theorem unplaced_addSection (part : Section) (path : List Key) (entries : Entries) :
    addSection part.unplaced (path.map Key.unplaced) (unplacedEntries entries) =
      (addSection part path entries).map unplacedEntries := by
  induction path generalizing entries with
  | nil =>
      rw [List.map_nil, addSection, addSection]
      exact unplaced_addTable part entries
  | cons step path ih =>
      rw [List.map_cons, addSection, addSection]
      refine unplaced_alter (fun held => ?_) entries step.name
      rcases held with _ | ⟨_, _⟩ | ⟨_, _⟩ | ⟨_, _⟩ | ⟨origin, inner, extent⟩ | items
      · show (addSection _ _ (unplacedEntries [])).map _ = ((addSection part path []).map _).map _
        rw [ih, Option.map_map, Option.map_map]
        rfl
      · rfl
      · rfl
      · rfl
      · show (addSection _ _ (unplacedEntries inner)).map _ =
          ((addSection part path inner).map _).map _
        rw [ih, Option.map_map, Option.map_map]
        rfl
      · show (alterLast _ (unplacedTables items)).map _ = ((alterLast _ items).map _).map _
        rw [unplaced_alterLast ih, Option.map_map, Option.map_map]
        rfl

end Entries

end OperatorNames.Toml
