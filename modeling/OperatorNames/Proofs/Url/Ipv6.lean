import OperatorNames.Proofs.Results
import OperatorNames.Proofs.Text.Digits
import OperatorNames.Proofs.Text.Pieces
import OperatorNames.Url.Ipv6

/-!
# IPv6 addresses in writing

What is read are eight pieces of sixteen bits (`isAddress_of_read?`), and eight such pieces are read
back from their writing (`read?_write`), whichever zeros of them are left out.
-/

namespace OperatorNames.Ipv6

open Text

/-- Whether pieces are those of an address. -/
structure IsAddress (pieces : List Nat) : Prop where
  /-- There are eight of them. -/
  length_eq : pieces.length = 8
  /-- Each has sixteen bits. -/
  small : ∀ n ∈ pieces, n < 0x10000

/-! ## What is read -/

theorem lt_of_piece? {t : Text} {n : Nat} (hpiece : piece? t = some n) : n < 0x10000 := by
  obtain ⟨hlength, hnumber⟩ := Option.ite_none_right_eq_some.mp hpiece
  calc n < Nat.pow 16 t.length := lt_of_number? hnumber
    _ ≤ Nat.pow 16 4 := Nat.pow_le_pow_right (by decide) hlength

theorem le_of_octet? {t : Text} {n : Nat} (hoctet : octet? t = some n) : n ≤ 255 := by
  unfold octet? at hoctet
  split at hoctet
  · cases hoctet
  · obtain ⟨-, hbound⟩ := Option.ite_none_right_eq_some.mp hoctet
    obtain ⟨m, -, hsmall⟩ := Option.bind_eq_some_iff.mp hbound
    obtain ⟨hle, hsame⟩ := Option.ite_none_right_eq_some.mp hsmall
    rw [← Option.some.inj hsame]
    exact hle

theorem lt_of_embedded? {t : Text} {pieces : List Nat} (hpieces : embedded? t = some pieces) :
    ∀ n ∈ pieces, n < 0x10000 := by
  unfold embedded? at hpieces
  split at hpieces
  · next a b c d hoctets =>
      have hle : ∀ n ∈ [a, b, c, d], n ≤ 255 := by
        intro n hn
        obtain ⟨t, -, hoctet⟩ := exists_of_mem_mapM hoctets n hn
        exact le_of_octet? hoctet
      have ha := hle a (by simp)
      have hb := hle b (by simp)
      have hc := hle c (by simp)
      have hd := hle d (by simp)
      rw [← Option.some.inj hpieces, List.forall_mem_cons, List.forall_mem_singleton]
      omega
  · cases hpieces

theorem lt_of_groups? {last : Bool} {groups : List Text} {pieces : List Nat}
    (hpieces : groups? last groups = some pieces) : ∀ n ∈ pieces, n < 0x10000 := by
  induction groups generalizing pieces with
  | nil =>
      cases hpieces
      exact fun n hn => nomatch hn
  | cons group more ih =>
      cases more with
      | nil =>
          rw [groups?] at hpieces
          split at hpieces
          · exact lt_of_embedded? hpieces
          · obtain ⟨n, hn, rfl⟩ := Option.map_eq_some_iff.mp hpieces
            exact List.forall_mem_singleton.mpr (lt_of_piece? hn)
      | cons next more =>
          rw [groups?] at hpieces
          · obtain ⟨n, hn, hrest⟩ := Option.bind_eq_some_iff.mp hpieces
            obtain ⟨rest, hrest, hall⟩ := Option.bind_eq_some_iff.mp hrest
            rw [← Option.some.inj hall]
            exact List.forall_mem_cons.mpr ⟨lt_of_piece? hn, ih hrest⟩
          · exact List.cons_ne_nil _ _

theorem lt_of_side? {last : Bool} {t : Text} {pieces : List Nat}
    (hpieces : side? last t = some pieces) : ∀ n ∈ pieces, n < 0x10000 := by
  unfold side? at hpieces
  split at hpieces
  · cases hpieces
    exact fun n hn => nomatch hn
  · exact lt_of_groups? hpieces

/-- What is read is an address. -/
theorem isAddress_of_read? {t : Text} {pieces : List Nat} (hread : read? t = some pieces) :
    IsAddress pieces := by
  unfold read? at hread
  split at hread
  · obtain ⟨all, hall, hlength⟩ := Option.bind_eq_some_iff.mp hread
    obtain ⟨hlength, hsame⟩ := Option.ite_none_right_eq_some.mp hlength
    rw [← Option.some.inj hsame]
    exact ⟨hlength, lt_of_side? hall⟩
  · obtain ⟨front, hfront, hmore⟩ := Option.bind_eq_some_iff.mp hread
    obtain ⟨back, hback, hcount⟩ := Option.bind_eq_some_iff.mp hmore
    obtain ⟨hcount, hpieces⟩ := Option.ite_none_right_eq_some.mp hcount
    rw [← Option.some.inj hpieces]
    constructor
    · rw [List.length_append, List.length_append, List.length_replicate]
      omega
    · intro n hn
      rcases List.mem_append.mp hn with hbefore | hafter
      · rcases List.mem_append.mp hbefore with hn | hzero
        · exact lt_of_side? hfront n hn
        · rw [(List.mem_replicate.mp hzero).2]
          decide
      · exact lt_of_side? hback n hafter

/-! ## What is written -/

theorem not_mem_hex {c : Char} (hdigits : ∀ d < 16, Nat.digitChar d ≠ c) (n : Nat) : c ∉ hex n :=
  fun hc => forall_mem_hex (P := (· ≠ c)) hdigits c hc rfl

theorem piece?_hex {n : Nat} (hn : n < 0x10000) : piece? (hex n) = some n := by
  have hlength : (hex n).length ≤ 4 :=
    (Nat.length_toDigits_le_iff (by decide) (by decide)).mpr hn
  rw [piece?, if_pos hlength, number?_hex]

theorem groups?_hex (last : Bool) {pieces : List Nat} (hsmall : ∀ n ∈ pieces, n < 0x10000) :
    groups? last (pieces.map hex) = some pieces := by
  induction pieces with
  | nil => rfl
  | cons n more ih =>
      rw [List.forall_mem_cons] at hsmall
      have hpiece := piece?_hex hsmall.1
      cases more with
      | nil =>
          have hpoint : (hex n).contains '.' = false := by
            rw [Bool.eq_false_iff, ne_eq, List.contains_iff_mem]
            exact not_mem_hex (by decide) n
          rw [List.map_cons, List.map_nil, groups?, hpoint, Bool.and_false,
            if_neg Bool.false_ne_true, hpiece]
          rfl
      | cons next more =>
          rw [List.map_cons, groups?, hpiece, ih hsmall.2]
          · rfl
          · exact List.cons_ne_nil _ _

/-- The pieces from one on are the digits of that one and what follows after a colon. -/
theorem writePieces_cons (n next : Nat) (more : List Nat) :
    writePieces (n :: next :: more) = hex n ++ ':' :: writePieces (next :: more) :=
  List.append_assoc _ _ _

/-- Pieces begin with a digit. -/
theorem writePieces_begins (n : Nat) (more : List Nat) :
    ∃ c rest, c ≠ ':' ∧ writePieces (n :: more) = c :: rest := by
  obtain ⟨c, digits, hdigits⟩ := List.exists_cons_of_ne_nil (hex_ne_nil n)
  have hc : c ≠ ':' := by
    have hcolon := not_mem_hex (c := ':') (by decide) n
    rw [hdigits, List.mem_cons, not_or] at hcolon
    exact fun h => hcolon.1 h.symm
  cases more with
  | nil => exact ⟨c, digits, hc, hdigits⟩
  | cons next more =>
      rw [writePieces_cons, hdigits, List.cons_append]
      exact ⟨c, _, hc, rfl⟩

theorem side?_writePieces (last : Bool) {pieces : List Nat} (hsmall : ∀ n ∈ pieces, n < 0x10000) :
    side? last (writePieces pieces) = some pieces := by
  cases pieces with
  | nil => rfl
  | cons n more =>
      obtain ⟨c, rest, -, hbegins⟩ := writePieces_begins n more
      have hne : (writePieces (n :: more)).isEmpty = false := by
        rw [hbegins]
        rfl
      have hcolons : ∀ piece ∈ (n :: more).map hex, ':' ∉ piece := by
        intro piece hpiece
        obtain ⟨m, -, rfl⟩ := List.mem_map.mp hpiece
        exact not_mem_hex (by decide) m
      have hcut : cutAt (· = ':') (writePieces (n :: more)) = (n :: more).map hex :=
        cutAt_eq_joinWith (List.cons_ne_nil _ _) hcolons
      rw [side?, hne, if_neg Bool.false_ne_true, hcut, groups?_hex last hsmall]

/-! ## What is left out -/

/-- A character that makes no gap with the one after it stands before the gap. -/
theorem cutAtGap_cons {c : Char} {rest : Text} (hgap : c = ':' → ∀ more, rest ≠ ':' :: more) :
    cutAtGap (c :: rest) = (cutAtGap rest).map fun (before, after) => (c :: before, after) := by
  rw [cutAtGap]
  rintro more rfl rfl
  exact hgap rfl more rfl

theorem cutAtGap_append {t : Text} (ht : ':' ∉ t) (rest : Text) :
    cutAtGap (t ++ rest) = (cutAtGap rest).map (Prod.map (t ++ ·) id) := by
  induction t with
  | nil =>
      rw [List.nil_append]
      cases cutAtGap rest <;> rfl
  | cons c t ih =>
      rw [List.mem_cons, not_or] at ht
      rw [List.cons_append, cutAtGap_cons fun hc => absurd hc.symm ht.1, ih ht.2, Option.map_map]
      rfl

/-- There is no gap among pieces, nor between them and what follows. -/
theorem cutAtGap_writePieces (pieces : List Nat) (rest : Text) :
    cutAtGap (writePieces pieces ++ rest)
      = (cutAtGap rest).map (Prod.map (writePieces pieces ++ ·) id) := by
  induction pieces with
  | nil => exact cutAtGap_append List.not_mem_nil rest
  | cons n more ih =>
      have hcolon := not_mem_hex (c := ':') (by decide) n
      cases more with
      | nil => exact cutAtGap_append hcolon rest
      | cons next more =>
          obtain ⟨c, digits, hc, hbegins⟩ := writePieces_begins next more
          have hgap : ∀ after, writePieces (next :: more) ++ rest ≠ ':' :: after := by
            intro after h
            rw [hbegins] at h
            exact hc (List.cons.inj h).1
          rw [writePieces_cons, List.append_assoc, cutAtGap_append hcolon, List.cons_append,
            cutAtGap_cons fun _ => hgap, ih, Option.map_map, Option.map_map]
          refine congrArg (Option.map · _) (funext fun sides => ?_)
          simp [Function.comp, Prod.map]

theorem replicate_zeros_append (pieces : List Nat) :
    List.replicate (zeros pieces) 0 ++ pieces.drop (zeros pieces) = pieces := by
  induction pieces with
  | nil => rfl
  | cons n more ih =>
      unfold zeros at ih ⊢
      by_cases hn : n = 0
      · rw [List.takeWhile_cons_of_pos (by exact decide_eq_true hn), List.length_cons,
          List.replicate_succ, List.cons_append, List.drop_succ_cons, ih, hn]
      · rw [List.takeWhile_cons_of_neg (by exact fun h => hn (of_decide_eq_true h))]
        rfl

/-- What is left out are zeros. -/
theorem longestGap_spec (pieces : List Nat) :
    pieces.take (longestGap pieces).1 ++ (List.replicate (longestGap pieces).2 0
      ++ pieces.drop ((longestGap pieces).1 + (longestGap pieces).2)) = pieces := by
  unfold longestGap
  refine List.foldlRecOn (motive := fun (gap : Nat × Nat) => pieces.take gap.1
    ++ (List.replicate gap.2 0 ++ pieces.drop (gap.1 + gap.2)) = pieces) _ _ ?_ ?_
  · exact List.nil_append _
  · intro gap hgap i _
    dsimp only
    split
    · rw [← List.drop_drop, replicate_zeros_append, List.take_append_drop]
    · exact hgap

/-- An address is read back from its writing. -/
theorem read?_write {pieces : List Nat} (hpieces : IsAddress pieces) :
    read? (write pieces) = some pieces := by
  unfold write
  dsimp only
  split
  · have hnone : cutAtGap (writePieces pieces) = none := by
      have hcut := cutAtGap_writePieces pieces []
      rwa [List.append_nil] at hcut
    rw [read?, hnone]
    dsimp only
    rw [side?_writePieces true hpieces.small, Option.bind_some, if_pos hpieces.length_eq]
  · next hlong =>
      have hgap := longestGap_spec pieces
      generalize (longestGap pieces).1 = start at hgap ⊢
      generalize (longestGap pieces).2 = length at hlong hgap ⊢
      have hfront : ∀ n ∈ pieces.take start, n < 0x10000 :=
        fun n hn => hpieces.small n (List.mem_of_mem_take hn)
      have hback : ∀ n ∈ pieces.drop (start + length), n < 0x10000 :=
        fun n hn => hpieces.small n (List.mem_of_mem_drop hn)
      have hcut := cutAtGap_writePieces (pieces.take start)
        ([':', ':'] ++ writePieces (pieces.drop (start + length)))
      have hlength := congrArg List.length hgap
      rw [List.length_append, List.length_append, List.length_replicate, hpieces.length_eq]
        at hlength
      rw [read?, List.append_assoc, hcut]
      change ((side? false (writePieces (pieces.take start) ++ [])).bind fun front =>
        (side? true (writePieces (pieces.drop (start + length)))).bind fun back => _) = _
      rw [List.append_nil, side?_writePieces false hfront, side?_writePieces true hback,
        Option.bind_some, Option.bind_some]
      dsimp only
      rw [if_pos (by omega)]
      -- as many zeros are put in as were left out
      have hzeros : 8 - ((pieces.take start).length + (pieces.drop (start + length)).length)
          = length := by
        omega
      rw [hzeros, List.append_assoc, hgap]

/-- What an address is written with: the digits of its pieces and colons. -/
theorem mem_write {pieces : List Nat} {c : Char} (hc : c ∈ write pieces) :
    c = ':' ∨ ∃ n, c ∈ hex n := by
  have hpieces : ∀ {pieces : List Nat}, c ∈ writePieces pieces → c = ':' ∨ ∃ n, c ∈ hex n := by
    intro pieces hmem
    rcases mem_joinWith hmem with hcolon | ⟨piece, hpiece, hdigit⟩
    · exact .inl (List.mem_singleton.mp hcolon)
    · obtain ⟨n, -, rfl⟩ := List.mem_map.mp hpiece
      exact .inr ⟨n, hdigit⟩
  unfold write at hc
  dsimp only at hc
  split at hc
  · exact hpieces hc
  · rcases List.mem_append.mp hc with hbefore | hafter
    · rcases List.mem_append.mp hbefore with hfront | hgap
      · exact hpieces hfront
      · rw [List.mem_cons, List.mem_singleton, or_self] at hgap
        exact .inl hgap
    · exact hpieces hafter

end OperatorNames.Ipv6
