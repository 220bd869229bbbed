/-!
# Results that may be problems

How to read off a result that is a value what it was put together from, and what becomes of a row in
which each member has a result or none.
-/

namespace OperatorNames

variable {ε α β : Type}

/-- A value comes from a value of the first part. -/
theorem exists_of_bind_eq_ok {x : Except ε α} {f : α → Except ε β} {b : β}
    (hbind : x.bind f = .ok b) : ∃ a, x = .ok a ∧ f a = .ok b := by
  cases x with
  | error e => cases hbind
  | ok a => exact ⟨a, rfl, hbind⟩

/-- A value that is told without its problem is the value that was come to. -/
theorem eq_ok_of_toOption {result : Except ε α} {a : α} (hvalue : result.toOption = some a) :
    result = .ok a := by
  cases result with
  | error e => cases hvalue
  | ok b =>
      cases hvalue
      rfl

/-! ## Rows of results -/

variable {f : α → Option β}

/-- What a row of results holds came from some member of the row. -/
theorem exists_of_mem_mapM {l : List α} {results : List β} (hresults : l.mapM f = some results) :
    ∀ b ∈ results, ∃ a ∈ l, f a = some b := by
  induction l generalizing results with
  | nil =>
      cases hresults
      exact List.forall_mem_nil _
  | cons a l ih =>
      rw [List.mapM_cons] at hresults
      obtain ⟨first, hfirst, hmore⟩ := Option.bind_eq_some_iff.mp hresults
      obtain ⟨rest, hrest, hall⟩ := Option.bind_eq_some_iff.mp hmore
      rw [← Option.some.inj hall]
      refine List.forall_mem_cons.mpr ⟨⟨a, List.mem_cons_self, hfirst⟩, fun b hb => ?_⟩
      obtain ⟨c, hc, hvalue⟩ := ih hrest b hb
      exact ⟨c, List.mem_cons_of_mem a hc, hvalue⟩

theorem length_of_mapM {l : List α} {results : List β} (hresults : l.mapM f = some results) :
    results.length = l.length := by
  induction l generalizing results with
  | nil =>
      cases hresults
      rfl
  | cons a l ih =>
      rw [List.mapM_cons] at hresults
      obtain ⟨first, -, hmore⟩ := Option.bind_eq_some_iff.mp hresults
      obtain ⟨rest, hrest, hall⟩ := Option.bind_eq_some_iff.mp hmore
      rw [← Option.some.inj hall, List.length_cons, List.length_cons, ih hrest]

theorem mapM_eq_some_map {g : α → β} {l : List α} (hvalue : ∀ a ∈ l, f a = some (g a)) :
    l.mapM f = some (l.map g) := by
  induction l with
  | nil => rfl
  | cons a l ih =>
      rw [List.forall_mem_cons] at hvalue
      rw [List.mapM_cons, hvalue.1, ih hvalue.2]
      rfl

/-- A function that undoes another one undoes it in a row. -/
theorem mapM_map_of_forall {g : β → α} {l : List β} (hundoes : ∀ b ∈ l, f (g b) = some b) :
    (l.map g).mapM f = some l := by
  have hsame : ∀ b ∈ l, (f ∘ g) b = some (id b) := hundoes
  rw [List.mapM_map, mapM_eq_some_map hsame, List.map_id]

/-- One member without a result leaves the row without one. -/
theorem mapM_eq_none_of_mem {l : List α} {a : α} (ha : a ∈ l) (hnone : f a = none) :
    l.mapM f = none := by
  induction l with
  | nil => cases ha
  | cons first l ih =>
      rw [List.mapM_cons]
      rcases List.mem_cons.mp ha with rfl | hlater
      · rw [hnone]
        rfl
      · rw [ih hlater]
        cases f first <;> rfl

end OperatorNames
