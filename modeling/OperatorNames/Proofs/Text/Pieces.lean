import OperatorNames.Text.Utf8

/-!
# Pieces of texts

Cutting a text at characters of a kind and joining pieces again: what the pieces hold, and that
nothing is lost (`joinWith_cutAt`) or gets longer (`joinWith_sublist`, `size_le_of_sublist`).
-/

namespace OperatorNames.Text

/-- What is asked of every character of a text can be tried on one after the other. -/
theorem forall_mem_of_all {P : Char → Prop} [DecidablePred P] {t : Text}
    (ht : t.all (fun c => decide (P c)) = true) : ∀ c ∈ t, P c :=
  fun c hc => of_decide_eq_true (List.all_eq_true.mp ht c hc)

/-- A character of a piece is one of the text and none at which the text is cut. -/
theorem mem_of_mem_cutAt {cut : Char → Bool} {t piece : Text} {c : Char}
    (hpiece : piece ∈ cutAt cut t) (hc : c ∈ piece) : c ∈ t ∧ cut c = false := by
  induction t generalizing piece with
  | nil =>
      rw [cutAt, List.mem_singleton] at hpiece
      rw [hpiece] at hc
      cases hc
  | cons d rest ih =>
      have hlater : ∀ {later : Text}, later ∈ cutAt cut rest → c ∈ later →
          c ∈ d :: rest ∧ cut c = false := by
        intro later hmem hin
        obtain ⟨hrest, hkept⟩ := ih hmem hin
        exact ⟨List.mem_cons_of_mem d hrest, hkept⟩
      rw [cutAt] at hpiece
      split at hpiece
      · rcases List.mem_cons.mp hpiece with hfirst | hmem
        · rw [hfirst] at hc
          cases hc
        · exact hlater hmem hc
      · next hcut =>
          have hkept : cut d = false := eq_false_of_ne_true hcut
          split at hpiece
          · rw [List.mem_singleton.mp hpiece] at hc
            rw [List.mem_singleton.mp hc]
            exact ⟨List.mem_cons_self, hkept⟩
          -- the character goes in front of the first piece of the rest
          · next first more hcut =>
              rcases List.mem_cons.mp hpiece with hfirst | hmem
              · rw [hfirst] at hc
                rcases List.mem_cons.mp hc with hhead | htail
                · rw [hhead]
                  exact ⟨List.mem_cons_self, hkept⟩
                · exact hlater (by rw [hcut]; exact List.mem_cons_self) htail
              · exact hlater (by rw [hcut]; exact List.mem_cons_of_mem first hmem) hc

theorem cutAt_append_cons {cut : Char → Bool} {c : Char} (hcut : cut c = true) (p q : Text) :
    cutAt cut (p ++ c :: q) = cutAt cut p ++ cutAt cut q := by
  induction p with
  | nil => simp [cutAt, hcut]
  | cons d rest ih =>
      rw [List.cons_append, cutAt, cutAt, ih]
      split
      · rfl
      · cases hrest : cutAt cut rest with
        | nil =>
            -- every text has a first piece
            cases rest with
            | nil => simp [cutAt] at hrest
            | cons e rest =>
                rw [cutAt] at hrest
                split at hrest
                · cases hrest
                · split at hrest <;> cases hrest
        | cons piece more => rfl

theorem cutAt_eq_singleton {cut : Char → Bool} {t : Text} (hcut : ∀ c ∈ t, cut c = false) :
    cutAt cut t = [t] := by
  induction t with
  | nil => rfl
  | cons c rest ih =>
      rw [cutAt, hcut c List.mem_cons_self, ih fun d hd => hcut d (List.mem_cons_of_mem c hd)]
      rfl

/-- Every text has a first piece. -/
theorem cutAt_ne_nil (cut : Char → Bool) (t : Text) : cutAt cut t ≠ [] := by
  cases t with
  | nil => exact List.cons_ne_nil _ _
  | cons c rest =>
      rw [cutAt]
      split
      · exact List.cons_ne_nil _ _
      · split <;> exact List.cons_ne_nil _ _

/-- A text that is cut at every character of one value is joined by that character again. -/
theorem joinWith_cutAt (c : Char) (t : Text) : joinWith [c] (cutAt (· = c) t) = t := by
  induction t with
  | nil => rfl
  | cons d rest ih =>
      rw [cutAt]
      cases hcut : cutAt (fun x => decide (x = c)) rest with
      | nil => exact absurd hcut (cutAt_ne_nil _ rest)
      | cons piece more =>
          rw [hcut] at ih
          by_cases hd : d = c
          · subst hd
            simp [joinWith, ih]
          · cases more with
            | nil => simpa [joinWith, hd] using ih
            | cons next more => simpa [joinWith, hd] using ih

theorem joinWith_cons (separator piece : Text) {more : List Text} (hmore : more ≠ []) :
    joinWith separator (piece :: more) = piece ++ separator ++ joinWith separator more := by
  cases more with
  | nil => exact absurd rfl hmore
  | cons next more => rfl

/-- Pieces that hold nothing at which is cut are cut apart again. -/
theorem cutAt_joinWith {cut : Char → Bool} {c : Char} (hc : cut c = true) {pieces : List Text}
    (hne : pieces ≠ []) (hpieces : ∀ piece ∈ pieces, ∀ d ∈ piece, cut d = false) :
    cutAt cut (joinWith [c] pieces) = pieces := by
  induction pieces with
  | nil => exact absurd rfl hne
  | cons piece more ih =>
      rw [List.forall_mem_cons] at hpieces
      cases more with
      | nil => exact cutAt_eq_singleton hpieces.1
      | cons next more =>
          rw [joinWith_cons _ _ (List.cons_ne_nil next more), List.append_assoc,
            List.singleton_append, cutAt_append_cons hc, cutAt_eq_singleton hpieces.1,
            ih (List.cons_ne_nil next more) hpieces.2]
          rfl

/-- Pieces without the character that they are joined by are cut apart again. -/
theorem cutAt_eq_joinWith {c : Char} {pieces : List Text} (hne : pieces ≠ [])
    (hpieces : ∀ piece ∈ pieces, c ∉ piece) : cutAt (· = c) (joinWith [c] pieces) = pieces := by
  refine cutAt_joinWith (decide_eq_true rfl) hne fun piece hpiece d hd => ?_
  rw [decide_eq_false_iff_not]
  rintro rfl
  exact hpieces piece hpiece hd

/-- What stands in a joined text stands in the separator or in a piece. -/
theorem mem_joinWith {separator : Text} {pieces : List Text} {c : Char}
    (hc : c ∈ joinWith separator pieces) : c ∈ separator ∨ ∃ piece ∈ pieces, c ∈ piece := by
  induction pieces with
  | nil => cases hc
  | cons piece more ih =>
      cases more with
      | nil => exact .inr ⟨piece, List.mem_cons_self, hc⟩
      | cons next more =>
          rw [joinWith_cons _ _ (List.cons_ne_nil next more), List.append_assoc, List.mem_append,
            List.mem_append] at hc
          rcases hc with hfirst | hseparator | hrest
          · exact .inr ⟨piece, List.mem_cons_self, hfirst⟩
          · exact .inl hseparator
          · rcases ih hrest with hseparator | ⟨other, hother, hmem⟩
            · exact .inl hseparator
            · exact .inr ⟨other, List.mem_cons_of_mem piece hother, hmem⟩

theorem dropStart?_eq_some {start t rest : Text} (hread : dropStart? start t = some rest) :
    t = start ++ rest := by
  induction start generalizing t with
  | nil =>
      cases hread
      rfl
  | cons a start ih =>
      cases t with
      | nil => cases hread
      | cons b t =>
          rw [dropStart?] at hread
          split at hread
          · next hab => rw [hab, ih hread, List.cons_append]
          · cases hread

/-- What follows the last character of one value, if there is one. -/
theorem afterLast {c : Char} {before t : Text} (ht : c ∉ t)
    (hbefore : before = [] ∨ ∃ more, before = more ++ [c]) :
    ((before ++ t).reverse.takeWhile (· ≠ c)).reverse = t := by
  have hall : ∀ d ∈ t.reverse, decide (d ≠ c) = true := by
    intro d hd
    rw [decide_eq_true_eq]
    rintro rfl
    exact ht (List.mem_reverse.mp hd)
  have hstop : before.reverse.takeWhile (· ≠ c) = [] := by
    rcases hbefore with rfl | ⟨more, rfl⟩
    · rfl
    · rw [List.reverse_append]
      exact List.takeWhile_cons_of_neg (by simp)
  rw [List.reverse_append, List.takeWhile_append_of_pos hall, hstop, List.append_nil,
    List.reverse_reverse]

/-- Leaving pieces out leaves parts of the text out. -/
theorem joinWith_sublist (separator : Text) {fewer pieces : List Text}
    (hfewer : fewer.Sublist pieces) :
    (joinWith separator fewer).Sublist (joinWith separator pieces) := by
  induction hfewer with
  | slnil => exact List.Sublist.refl _
  | @cons fewer pieces piece hrest ih =>
      cases pieces with
      | nil =>
          obtain rfl := List.sublist_nil.mp hrest
          exact List.nil_sublist _
      | cons next more =>
          rw [joinWith_cons _ _ (List.cons_ne_nil next more)]
          exact ih.trans (List.sublist_append_right _ _)
  | @cons_cons fewer pieces piece hrest ih =>
      cases pieces with
      | nil =>
          obtain rfl := List.sublist_nil.mp hrest
          exact List.Sublist.refl _
      | cons next more =>
          rw [joinWith_cons _ _ (List.cons_ne_nil next more)]
          cases fewer with
          | nil => exact (List.sublist_append_left _ _).trans (List.sublist_append_left _ _)
          | cons other few =>
              rw [joinWith_cons _ _ (List.cons_ne_nil other few)]
              exact (List.Sublist.refl _).append ih

theorem size_cons (c : Char) (t : Text) :
    Utf8.size (c :: t) = (Utf8.encodeChar c).length + Utf8.size t := by
  have hfrom : ∀ n, t.foldl (fun n c => n + (Utf8.encodeChar c).length) n = n + Utf8.size t := by
    unfold Utf8.size
    induction t with
    | nil => simp
    | cons d rest ih =>
        intro n
        rw [List.foldl_cons, List.foldl_cons, ih, ih (0 + _)]
        omega
  show t.foldl _ (0 + (Utf8.encodeChar c).length) = _
  rw [hfrom, Nat.zero_add]

/-- A part of a text takes no more octets. -/
theorem size_le_of_sublist {part t : Text} (hpart : part.Sublist t) :
    Utf8.size part ≤ Utf8.size t := by
  induction hpart with
  | slnil => exact Nat.le_refl _
  | cons c hrest ih =>
      rw [size_cons]
      omega
  | cons_cons c hrest ih =>
      rw [size_cons, size_cons]
      omega

end OperatorNames.Text
