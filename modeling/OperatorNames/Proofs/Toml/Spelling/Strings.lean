import OperatorNames.Proofs.Toml.Spelling.Blanks

/-!
# How strings are written

The grammar of strings: what may stand between the delimiters of each of the four forms, up to and
with the closing delimiter, and the text that it stands for.  `Quoted.Spells` is about strings of any
form and `Quoted.SpellsShort` about those that end on their line, which may also be parts of keys.
The readers read just what the grammar has.
-/

namespace OperatorNames.Toml

open Text

namespace Quoted

/-- An escape and the character that it stands for. -/
inductive Escape : Text → Char → Prop
  | letter {x c : Char} (hx : escaped? x = some c) : Escape ['\\', x] c
  | short {p q r s c : Char} (hcode : codePoint? [p, q, r, s] = some c) :
      Escape ['\\', 'u', p, q, r, s] c
  | long {p q r s p' q' r' s' c : Char}
      (hcode : codePoint? [p, q, r, s, p', q', r', s'] = some c) :
      Escape ['\\', 'U', p, q, r, s, p', q', r', s'] c

/-- What stands between double quotes. -/
inductive BasicBody : Text → Text → Prop
  | close : BasicBody ['"'] []
  | plain {c : Char} {w t : Text} (hplain : isPlain c = true) (hquote : c ≠ '"') (hback : c ≠ '\\')
      (hw : BasicBody w t) : BasicBody (c :: w) (c :: t)
  | escape {e w t : Text} {c : Char} (he : Escape e c) (hw : BasicBody w t) :
      BasicBody (e ++ w) (c :: t)

/-- What stands between apostrophes. -/
inductive LiteralBody : Text → Text → Prop
  | close : LiteralBody ['\x27'] []
  | plain {c : Char} {w t : Text} (hplain : isPlain c = true) (hmark : c ≠ '\x27')
      (hw : LiteralBody w t) : LiteralBody (c :: w) (c :: t)

/-- Whether a character is a blank or belongs to a line end. -/
def isWhite (c : Char) : Bool :=
  isSpace c || c = '\n' || c = '\r'

/-- Blanks and line ends. -/
inductive White : Text → Prop
  | nil : White []
  | space {c : Char} {w : Text} (hc : isSpace c = true) (hw : White w) : White (c :: w)
  | feed {f w : Text} (hf : LineFeed f) (hw : White w) : White (f ++ w)

/-- What stands between tripled double quotes.  Up to two quotes may stand before the delimiter, and
a backslash at the end of a line takes the white space after it away. -/
inductive LongBasicBody : Text → Text → Prop
  | close {n : Nat} (hn : n ≤ 2) : LongBasicBody (List.replicate (n + 3) '"') (List.replicate n '"')
  | quote {w t : Text} (hfew : ¬ ['"', '"'] <+: w) (hw : LongBasicBody w t) :
      LongBasicBody ('"' :: w) ('"' :: t)
  | plain {c : Char} {w t : Text} (hplain : isPlain c = true) (hquote : c ≠ '"') (hback : c ≠ '\\')
      (hw : LongBasicBody w t) : LongBasicBody (c :: w) (c :: t)
  | feed {f w t : Text} (hf : LineFeed f) (hw : LongBasicBody w t) :
      LongBasicBody (f ++ w) ('\n' :: t)
  | escape {e w t : Text} {c : Char} (he : Escape e c) (hw : LongBasicBody w t) :
      LongBasicBody (e ++ w) (c :: t)
  | fold {s f g w t : Text} (hs : Spaces s) (hf : LineFeed f) (hg : White g)
      (hwhite : BeginsNot isWhite w) (hw : LongBasicBody w t) :
      LongBasicBody ('\\' :: (s ++ (f ++ (g ++ w)))) t

/-- What stands between tripled apostrophes. -/
inductive LongLiteralBody : Text → Text → Prop
  | close {n : Nat} (hn : n ≤ 2) :
      LongLiteralBody (List.replicate (n + 3) '\x27') (List.replicate n '\x27')
  | mark {w t : Text} (hfew : ¬ ['\x27', '\x27'] <+: w) (hw : LongLiteralBody w t) :
      LongLiteralBody ('\x27' :: w) ('\x27' :: t)
  | plain {c : Char} {w t : Text} (hplain : isPlain c = true) (hmark : c ≠ '\x27')
      (hw : LongLiteralBody w t) : LongLiteralBody (c :: w) (c :: t)
  | feed {f w t : Text} (hf : LineFeed f) (hw : LongLiteralBody w t) :
      LongLiteralBody (f ++ w) ('\n' :: t)

/-- A string that ends on its line, and its text. -/
inductive SpellsShort : Text → Text → Prop
  | basic {w t : Text} (hw : BasicBody w t) : SpellsShort ('"' :: w) t
  | literal {w t : Text} (hw : LiteralBody w t) : SpellsShort ('\x27' :: w) t

/-- What follows a tripled delimiter: the body, of which a line end at its start is no part. -/
inductive Started (body : Text → Text → Prop) : Text → Text → Prop
  | here {w t : Text} (hline : lineEnd? w = none) (hw : body w t) : Started body w t
  | nextLine {f w t : Text} (hf : LineFeed f) (hw : body w t) : Started body (f ++ w) t

/-- A string of any form, and its text. -/
inductive Spells : Text → Text → Prop
  | short {w t : Text} (hw : SpellsShort w t) : Spells w t
  | longBasic {w t : Text} (hw : Started LongBasicBody w t) : Spells ('"' :: '"' :: '"' :: w) t
  | longLiteral {w t : Text} (hw : Started LongLiteralBody w t) :
      Spells ('\x27' :: '\x27' :: '\x27' :: w) t

/-! ## Bodies that are read -/

/-- A body stands at the front of a text, and with what has been read before it, in reverse, it
makes up a string. -/
def Reads (body : Text → Text → Prop) (done t s rest : Text) : Prop :=
  ∃ w u, t = w ++ rest ∧ s = done.reverse ++ u ∧ body w u

theorem Reads.whole {body : Text → Text → Prop} {t s rest : Text} (h : Reads body [] t s rest) :
    ∃ w, t = w ++ rest ∧ body w s := by
  obtain ⟨w, u, ht, rfl, hw⟩ := h
  exact ⟨w, ht, hw⟩

/-- More is read that stands for nothing. -/
theorem Reads.skip {body body' : Text → Text → Prop} {done t s rest : Text} (e : Text)
    (hstep : ∀ w u, t = w ++ rest → body w u → body' (e ++ w) u)
    (h : Reads body done t s rest) : Reads body' done (e ++ t) s rest := by
  obtain ⟨w, u, ht, hs, hw⟩ := h
  exact ⟨e ++ w, u, by rw [ht, List.append_assoc], hs, hstep w u ht hw⟩

/-- One more character is read. -/
theorem Reads.step {body body' : Text → Text → Prop} {done t s rest : Text} {c : Char}
    (e : Text) (hstep : ∀ w u, t = w ++ rest → body w u → body' (e ++ w) (c :: u))
    (h : Reads body (c :: done) t s rest) : Reads body' done (e ++ t) s rest := by
  obtain ⟨w, u, ht, hs, hw⟩ := h
  refine ⟨e ++ w, c :: u, by rw [ht, List.append_assoc], ?_, hstep w u ht hw⟩
  rw [hs, List.reverse_cons, ← List.append_cons]

theorem reads_of_readBasic {done t s rest : Text} (hread : readBasic done t = some (s, rest)) :
    Reads BasicBody done t s rest := by
  fun_induction readBasic done t with
  | case1 done more =>
      cases hread
      exact ⟨['"'], [], rfl, (List.append_nil _).symm, .close⟩
  | case2 done p q r x more ih =>
      obtain ⟨c, hcode, hlater⟩ := Option.bind_eq_some_iff.mp hread
      exact (ih c hlater).step ['\\', 'u', p, q, r, x] fun _ _ _ => .escape (.short hcode)
  | case3 done p q r x p' q' r' x' more ih =>
      obtain ⟨c, hcode, hlater⟩ := Option.bind_eq_some_iff.mp hread
      exact (ih c hlater).step ['\\', 'U', p, q, r, x, p', q', r', x'] fun _ _ _ =>
        .escape (.long hcode)
  | case4 done x more _ _ ih =>
      obtain ⟨c, hx, hlater⟩ := Option.bind_eq_some_iff.mp hread
      exact (ih c hlater).step ['\\', x] fun _ _ _ => .escape (.letter hx)
  | case5 done c more hquote _ _ _ hplain ih =>
      simp only [Bool.and_eq_true, decide_eq_true_eq] at hplain
      exact (ih hread).step [c] fun _ _ _ => .plain hplain.1 hquote hplain.2
  | case6 => cases hread
  | case7 => cases hread

theorem reads_of_readLiteral {done t s rest : Text} (hread : readLiteral done t = some (s, rest)) :
    Reads LiteralBody done t s rest := by
  fun_induction readLiteral done t with
  | case1 done more =>
      cases hread
      exact ⟨['\x27'], [], rfl, (List.append_nil _).symm, .close⟩
  | case2 done c more hmark hplain ih =>
      exact (ih hread).step [c] fun _ _ _ => .plain hplain hmark
  | case3 => cases hread
  | case4 => cases hread

/-! ## Bodies that are written -/

theorem reverse_cons_append (c : Char) (done t : Text) :
    (c :: done).reverse ++ t = done.reverse ++ c :: t := by
  rw [List.reverse_cons, ← List.append_cons]

theorem readBasic_escape {e : Text} {c : Char} (he : Escape e c) (done rest : Text) :
    readBasic done (e ++ rest) = readBasic (c :: done) rest := by
  cases he with
  | letter hx => exact readBasic_letter hx done rest
  | short hcode => exact readBasic_number hcode done rest
  | long hcode =>
      show readBasic done ('\\' :: 'U' :: _ :: _ :: _ :: _ :: _ :: _ :: _ :: _ :: rest) = _
      rw [readBasic, hcode, Option.bind_some]

theorem readBasic_append {w t : Text} (hw : BasicBody w t) (done rest : Text) :
    readBasic done (w ++ rest) = some (done.reverse ++ t, rest) := by
  induction hw generalizing done with
  | close => rw [List.append_nil, List.singleton_append, readBasic]
  | plain hplain hquote hback _ ih =>
      rw [List.cons_append, readBasic_plain hplain hback hquote, ih, reverse_cons_append]
  | escape he _ ih => rw [List.append_assoc, readBasic_escape he, ih, reverse_cons_append]

theorem readLiteral_append {w t : Text} (hw : LiteralBody w t) (done rest : Text) :
    readLiteral done (w ++ rest) = some (done.reverse ++ t, rest) := by
  induction hw generalizing done with
  | close => rw [List.append_nil, List.singleton_append, readLiteral]
  | plain hplain hmark _ ih =>
      rw [List.cons_append, readLiteral, if_pos hplain, ih, reverse_cons_append]
      exact hmark

/-! ## Runs of marks that close a string -/

theorem takeWhile_eq_replicate (mark : Char) (t : Text) :
    t.takeWhile (· = mark) = List.replicate (t.takeWhile (· = mark)).length mark := by
  refine List.eq_replicate_of_mem fun c hc => ?_
  simpa using List.all_eq_true.mp List.all_takeWhile c hc

/-- A delimiter stands where three marks do. -/
theorem three_le_iff (mark : Char) (t : Text) :
    3 ≤ (t.takeWhile (· = mark)).length ↔ [mark, mark, mark] <+: t := by
  constructor
  · intro hthree
    obtain ⟨more, hmore⟩ := Nat.exists_eq_add_of_le hthree
    have hrun := takeWhile_eq_replicate mark t
    rw [hmore, ← List.replicate_append_replicate] at hrun
    have hthree : [mark, mark, mark] <+: t.takeWhile (· = mark) := ⟨_, hrun.symm⟩
    exact hthree.trans (List.takeWhile_prefix _)
  · rintro ⟨more, rfl⟩
    rw [List.takeWhile_append_of_pos (by simp), List.length_append]
    exact Nat.le_add_right 3 _

theorem closing?_eq_none_iff (mark : Char) (t : Text) :
    closing? mark t = none ↔ ¬ [mark, mark, mark] <+: t := by
  rw [← three_le_iff, closing?]
  split
  · next hfew => simpa using hfew
  · next hmany => simpa using hmany

theorem closing?_append {mark : Char} {n : Nat} (hn : n ≤ 2) {rest : Text}
    (hrest : BeginsNot (· = mark) rest) :
    closing? mark (List.replicate (n + 3) mark ++ rest) = some (n, rest) := by
  have hrun : (List.replicate (n + 3) mark ++ rest).takeWhile (· = mark) =
      List.replicate (n + 3) mark := by
    refine takeWhile_append_of_beginsNot ?_ hrest
    intro c hc
    simpa using (List.mem_replicate.mp hc).2
  rw [closing?, hrun, List.length_replicate, if_neg (by omega), Nat.add_sub_cancel,
    Nat.min_eq_left hn, Nat.min_eq_left (by omega), List.drop_left' List.length_replicate]

theorem exists_of_closing? {mark : Char} {t after : Text} {n : Nat}
    (hclosing : closing? mark t = some (n, after)) :
    n ≤ 2 ∧ t = List.replicate (n + 3) mark ++ after := by
  unfold closing? at hclosing
  dsimp only at hclosing
  split at hclosing
  · cases hclosing
  · next hmany =>
      cases hclosing
      have hcount : min ((t.takeWhile (· = mark)).length - 3) 2 + 3 =
          min (t.takeWhile (· = mark)).length 5 := by omega
      refine ⟨Nat.min_le_right _ _, ?_⟩
      rw [hcount]
      generalize hk : min (t.takeWhile (· = mark)).length 5 = k
      have hle : k ≤ (t.takeWhile (· = mark)).length := by omega
      have htake : t.take k = List.replicate k mark := by
        have hprefix := List.prefix_iff_eq_take.mp (List.takeWhile_prefix (· = mark) (l := t))
        rw [← Nat.min_eq_left hle, ← List.take_take, ← hprefix, takeWhile_eq_replicate,
          List.take_replicate, List.length_replicate]
      rw [← htake, List.take_append_drop]

/-! ## Strings between tripled apostrophes -/

theorem reads_of_readLongLiteral {done t s rest : Text}
    (hread : readLongLiteral done t = some (s, rest)) : Reads LongLiteralBody done t s rest := by
  fun_induction readLongLiteral done t with
  | case1 done more n after hclosing =>
      cases hread
      obtain ⟨hn, ht⟩ := exists_of_closing? hclosing
      exact ⟨_, _, ht, by simp, .close hn⟩
  | case2 done more hclosing ih =>
      refine (ih hread).step ['\x27'] fun w u hmore hw => .mark (fun htwo => ?_) hw
      refine (closing?_eq_none_iff _ _).mp hclosing ?_
      rw [hmore]
      exact List.cons_prefix_cons.mpr ⟨rfl, htwo.trans (List.prefix_append w rest)⟩
  | case3 done more ih => exact (ih hread).step ['\r', '\n'] fun _ _ _ => .feed .withReturn
  | case4 done more ih => exact (ih hread).step ['\n'] fun _ _ _ => .feed .plain
  | case5 done c more hmark _ _ hplain ih =>
      exact (ih hread).step [c] fun _ _ _ => .plain hplain hmark
  | case6 => cases hread
  | case7 => cases hread

theorem LongLiteralBody.three_le_length {w t : Text} (hw : LongLiteralBody w t) : 3 ≤ w.length := by
  induction hw with
  | close => simp
  | mark _ _ ih => exact Nat.le_succ_of_le ih
  | plain _ _ _ ih => exact Nat.le_succ_of_le ih
  | feed _ _ ih =>
      rw [List.length_append]
      exact Nat.le_add_left_of_le ih

/-- Where fewer than three marks stand, no delimiter does. -/
theorem closing?_of_few {mark : Char} {w : Text} (hfew : ¬ [mark, mark] <+: w) (hw : 3 ≤ w.length)
    (rest : Text) : closing? mark (mark :: (w ++ rest)) = none := by
  rw [closing?_eq_none_iff]
  intro hthree
  have htwo : [mark, mark] <+: w ++ rest := (List.cons_prefix_cons.mp hthree).2
  have hlength := Nat.le_of_succ_le hw
  exact hfew (List.prefix_of_prefix_length_le htwo (List.prefix_append w rest) hlength)

theorem readLongLiteral_append {w t : Text} (hw : LongLiteralBody w t) (done : Text) {rest : Text}
    (hrest : BeginsNot (· = '\x27') rest) :
    readLongLiteral done (w ++ rest) = some (done.reverse ++ t, rest) := by
  induction hw generalizing done with
  | @close n hn =>
      have hclosing := closing?_append hn hrest
      rw [List.replicate_succ, List.cons_append] at hclosing ⊢
      rw [readLongLiteral, hclosing]
      simp
  | mark hfew hw ih =>
      rw [List.cons_append, readLongLiteral, closing?_of_few hfew hw.three_le_length]
      dsimp only
      rw [ih, reverse_cons_append]
  | @plain c w t hplain hmark _ ih =>
      have hline : c ≠ '\n' := by
        rintro rfl
        cases hplain
      rw [List.cons_append, readLongLiteral, if_pos hplain, ih, reverse_cons_append]
      · exact hmark
      · exact fun _ hreturn => absurd hreturn (ne_return_of_isPlain hplain)
      · exact hline
  | feed hf _ ih =>
      cases hf with
      | plain =>
          rw [List.append_assoc, List.singleton_append, readLongLiteral, ih, reverse_cons_append]
      | withReturn =>
          rw [List.append_assoc, List.cons_append, List.singleton_append, readLongLiteral, ih,
            reverse_cons_append]

/-! ## Strings between tripled double quotes -/

theorem White.append {v w : Text} (hv : White v) (hw : White w) : White (v ++ w) := by
  induction hv with
  | nil => exact hw
  | space hc _ ih => exact .space hc ih
  | feed hf _ ih =>
      rw [List.append_assoc]
      exact .feed hf ih

/-- White space with a line end after its first blanks consists of these, the line end and more
white space. -/
theorem White.exists_feed {g w after : Text} (hg : White g) (hw : BeginsNot isWhite w)
    (hend : lineEnd? (afterSpaces (g ++ w)) = some after) :
    ∃ s f more, Spaces s ∧ LineFeed f ∧ White more ∧ g = s ++ (f ++ more) := by
  induction hg with
  | nil =>
      exfalso
      cases w with
      | nil => cases hend
      | cons c w =>
          have hwhite := hw.of_cons
          simp only [isWhite, Bool.or_eq_false_iff, decide_eq_false_iff_not] at hwhite
          rw [List.nil_append, afterSpaces, List.dropWhile_cons_of_neg (by simp [hwhite]),
            lineEnd?_cons hwhite.1.2 hwhite.2] at hend
          cases hend
  | @space c g hc _ ih =>
      rw [List.cons_append, afterSpaces, List.dropWhile_cons_of_pos hc] at hend
      obtain ⟨s, f, more, hs, hf, hmore, rfl⟩ := ih hend
      exact ⟨c :: s, f, more, List.forall_mem_cons.mpr ⟨hc, hs⟩, hf, hmore, rfl⟩
  | @feed f g hf hg _ => exact ⟨[], f, g, .nil, hf, hg, rfl⟩

/-- How a string goes on: where white space is being taken away, what is left of it comes first. -/
def Goes (gap : Bool) (w t : Text) : Prop :=
  ∃ g v, w = g ++ v ∧ White g ∧ (if gap = true then BeginsNot isWhite v else g = []) ∧
    LongBasicBody v t

theorem goes_false {w t : Text} : Goes false w t ↔ LongBasicBody w t := by
  constructor
  · rintro ⟨g, v, rfl, -, hnil, hv⟩
    rw [if_neg Bool.false_ne_true] at hnil
    rw [hnil]
    exact hv
  · intro hw
    exact ⟨[], w, rfl, .nil, rfl, hw⟩

/-- No white space is left where something else stands. -/
theorem goes_of_not_white (gap : Bool) {w t : Text} (hwhite : BeginsNot isWhite w)
    (hw : LongBasicBody w t) : Goes gap w t := by
  refine ⟨[], w, rfl, .nil, ?_, hw⟩
  split
  · exact hwhite
  · rfl

/-- White space may be taken away before an escape. -/
theorem goes_escape (gap : Bool) {e w t : Text} {c : Char} (he : Escape e c) (hw : Goes false w t) :
    Goes gap (e ++ w) (c :: t) := by
  have hbegins : BeginsNot isWhite (e ++ w) := by
    cases he with
    | letter hx => exact beginsNot_cons rfl _
    | short hcode => exact beginsNot_cons rfl _
    | long hcode => exact beginsNot_cons rfl _
  exact goes_of_not_white gap hbegins (.escape he (goes_false.mp hw))

theorem goes_plain {gap : Bool} {c : Char} {w t : Text} (hspace : (gap && isSpace c) = false)
    (hplain : isPlain c = true) (hquote : c ≠ '"') (hback : c ≠ '\\') (hw : Goes false w t) :
    Goes gap (c :: w) (c :: t) := by
  have hbody : LongBasicBody (c :: w) (c :: t) := .plain hplain hquote hback (goes_false.mp hw)
  cases gap with
  | false => exact goes_false.mpr hbody
  | true =>
      have hline : c ≠ '\n' := by
        rintro rfl
        cases hplain
      have hreturn := ne_return_of_isPlain hplain
      rw [Bool.true_and] at hspace
      have hwhite : isWhite c = false := by simp [isWhite, hspace, hline, hreturn]
      exact goes_of_not_white true (beginsNot_cons hwhite w) hbody

/-- A line end is taken away, or else stands for a line feed. -/
theorem goes_feed {f w t : Text} (hf : LineFeed f) (hw : Goes true w t) : Goes true (f ++ w) t := by
  obtain ⟨g, v, rfl, hg, hwhite, hv⟩ := hw
  exact ⟨f ++ g, v, (List.append_assoc f g v).symm, .feed hf hg, hwhite, hv⟩

theorem reads_feed {gap : Bool} {f more done s rest : Text} (hf : LineFeed f)
    (h : Reads (Goes gap) (if gap = true then done else '\n' :: done) more s rest) :
    Reads (Goes gap) done (f ++ more) s rest := by
  cases gap with
  | false => exact h.step f fun w u _ hw => goes_false.mpr (.feed hf (goes_false.mp hw))
  | true => exact h.skip f fun w u _ hw => goes_feed hf hw

theorem LongBasicBody.three_le_length {w t : Text} (hw : LongBasicBody w t) : 3 ≤ w.length := by
  induction hw with
  | close => simp
  | quote _ _ ih => exact Nat.le_succ_of_le ih
  | plain _ _ _ _ ih => exact Nat.le_succ_of_le ih
  | feed _ _ ih =>
      rw [List.length_append]
      exact Nat.le_add_left_of_le ih
  | escape _ _ ih =>
      rw [List.length_append]
      exact Nat.le_add_left_of_le ih
  | fold _ _ _ _ _ ih =>
      simp only [List.length_cons, List.length_append]
      omega

theorem LongBasicBody.beginsNot_append {w t : Text} (hw : LongBasicBody w t) {kind : Char → Bool}
    (hbegins : BeginsNot kind w) (rest : Text) : BeginsNot kind (w ++ rest) := by
  have hlength := hw.three_le_length
  cases w with
  | nil => cases hlength
  | cons c w => exact beginsNot_cons hbegins.of_cons _

theorem reads_of_readLongBasic {gap : Bool} {done t s rest : Text}
    (hread : readLongBasic done gap t = some (s, rest)) : Reads (Goes gap) done t s rest := by
  fun_induction readLongBasic done gap t with
  | case1 done gap more n after hclosing =>
      cases hread
      obtain ⟨hn, ht⟩ := exists_of_closing? hclosing
      exact ⟨_, _, ht, by simp, goes_of_not_white gap (beginsNot_cons rfl _) (.close hn)⟩
  | case2 done gap more hclosing ih =>
      refine (ih hread).step ['"'] fun w u hmore hw => ?_
      refine goes_of_not_white gap (beginsNot_cons rfl w) (.quote (fun htwo => ?_) (goes_false.mp hw))
      refine (closing?_eq_none_iff _ _).mp hclosing ?_
      rw [hmore]
      exact List.cons_prefix_cons.mpr ⟨rfl, htwo.trans (List.prefix_append w rest)⟩
  | case3 done gap p q r x more ih =>
      obtain ⟨c, hcode, hlater⟩ := Option.bind_eq_some_iff.mp hread
      exact (ih c hlater).step ['\\', 'u', p, q, r, x] fun _ _ _ => goes_escape gap (.short hcode)
  | case4 done gap p q r x p' q' r' x' more ih =>
      obtain ⟨c, hcode, hlater⟩ := Option.bind_eq_some_iff.mp hread
      exact (ih c hlater).step ['\\', 'U', p, q, r, x, p', q', r', x'] fun _ _ _ =>
        goes_escape gap (.long hcode)
  | case5 done gap c more _ _ after hend ih =>
      refine (ih hread).skip ['\\'] fun w u hmore hw => ?_
      obtain ⟨g, v, rfl, hg, hwhite, hv⟩ := hw
      rw [hmore, List.append_assoc] at hend
      obtain ⟨s, f, after, hs, hf, hafter, rfl⟩ :=
        hg.exists_feed (hv.beginsNot_append hwhite rest) hend
      rw [List.append_assoc, List.append_assoc]
      have hfold : LongBasicBody ('\\' :: (s ++ (f ++ (after ++ v)))) u :=
        .fold hs hf hafter hwhite hv
      exact goes_of_not_white gap (beginsNot_cons rfl _) hfold
  | case6 done gap x more _ _ hend ih =>
      obtain ⟨c, hx, hlater⟩ := Option.bind_eq_some_iff.mp hread
      exact (ih c hlater).step ['\\', x] fun _ _ _ => goes_escape gap (.letter hx)
  | case7 done gap more ih => exact reads_feed .withReturn (ih hread)
  | case8 done gap more ih => exact reads_feed .plain (ih hread)
  | case9 done gap c more _ _ _ _ _ _ hspace ih =>
      obtain ⟨rfl, hc⟩ := Bool.and_eq_true_iff.mp hspace
      refine (ih hread).skip [c] fun w u _ hw => ?_
      obtain ⟨g, v, rfl, hg, hwhite, hv⟩ := hw
      exact ⟨c :: g, v, rfl, .space hc hg, hwhite, hv⟩
  | case10 done gap c more hquote _ _ _ _ _ hspace hplain ih =>
      simp only [Bool.and_eq_true, decide_eq_true_eq] at hplain
      exact (ih hread).step [c] fun _ _ _ =>
        goes_plain (by simpa using hspace) hplain.1 hquote hplain.2
  | case11 => cases hread
  | case12 => cases hread

theorem readLongBasic_escape {e : Text} {c : Char} (he : Escape e c) (done rest : Text) :
    readLongBasic done false (e ++ rest) = readLongBasic (c :: done) false rest := by
  cases he with
  | letter hx => exact readLongBasic_letter hx done rest
  | short hcode =>
      show readLongBasic done false ('\\' :: 'u' :: _ :: _ :: _ :: _ :: rest) = _
      rw [readLongBasic, hcode, Option.bind_some]
  | long hcode =>
      show readLongBasic done false ('\\' :: 'U' :: _ :: _ :: _ :: _ :: _ :: _ :: _ :: _ :: rest) = _
      rw [readLongBasic, hcode, Option.bind_some]

/-- A backslash at the end of a line begins to take white space away. -/
theorem readLongBasic_fold {c : Char} {more after : Text}
    (hend : lineEnd? (afterSpaces (c :: more)) = some after) (done : Text) :
    readLongBasic done false ('\\' :: c :: more) = readLongBasic done true (c :: more) := by
  rw [readLongBasic, hend]
  · rintro _ _ _ _ _ rfl
    cases hend
  · rintro _ _ _ _ _ _ _ _ _ rfl
    cases hend

theorem readLongBasic_white {g : Text} (hg : White g) (done t : Text) :
    readLongBasic done true (g ++ t) = readLongBasic done true t := by
  induction hg with
  | nil => rfl
  | @space c g hc _ ih =>
      have hstep : readLongBasic done true (c :: (g ++ t)) = readLongBasic done true (g ++ t) := by
        simp only [isSpace, Bool.or_eq_true, decide_eq_true_eq] at hc
        rcases hc with rfl | rfl <;> simp [readLongBasic, isSpace]
      exact hstep.trans ih
  | feed hf _ ih =>
      cases hf with
      | plain => rw [List.append_assoc, List.singleton_append, readLongBasic, if_pos rfl, ih]
      | withReturn =>
          rw [List.append_assoc, List.cons_append, List.singleton_append, readLongBasic, if_pos rfl,
            ih]

/-- Where no white space stands, none is taken away. -/
theorem readLongBasic_true {t : Text} (ht : BeginsNot isWhite t) (done : Text) :
    readLongBasic done true t = readLongBasic done false t := by
  cases t with
  | nil => simp [readLongBasic]
  | cons c t =>
      have hc := ht.of_cons
      simp only [isWhite, Bool.or_eq_false_iff, decide_eq_false_iff_not] at hc
      rw [readLongBasic.eq_def, readLongBasic.eq_def done false]
      split <;> simp_all

theorem Spaces.white {s : Text} (hs : Spaces s) : White s := by
  induction s with
  | nil => exact .nil
  | cons c s ih =>
      obtain ⟨hc, hs⟩ := List.forall_mem_cons.mp hs
      exact .space hc (ih hs)

theorem readLongBasic_append {w t : Text} (hw : LongBasicBody w t) (done : Text) {rest : Text}
    (hrest : BeginsNot (· = '"') rest) :
    readLongBasic done false (w ++ rest) = some (done.reverse ++ t, rest) := by
  induction hw generalizing done with
  | @close n hn =>
      have hclosing := closing?_append hn hrest
      rw [List.replicate_succ, List.cons_append] at hclosing ⊢
      rw [readLongBasic, hclosing]
      simp
  | quote hfew hw ih =>
      rw [List.cons_append, readLongBasic, closing?_of_few hfew hw.three_le_length]
      dsimp only
      rw [ih, reverse_cons_append]
  | @plain c w t hplain hquote hback _ ih =>
      have hline : c ≠ '\n' := by
        rintro rfl
        cases hplain
      have hstep := readLongBasic_escaped (.plain hplain hback) hquote hline done (w ++ rest)
      rw [List.singleton_append] at hstep
      rw [List.cons_append, hstep, ih, reverse_cons_append]
  | feed hf _ ih =>
      cases hf with
      | plain =>
          rw [List.append_assoc, List.singleton_append, readLongBasic, if_neg Bool.false_ne_true, ih,
            reverse_cons_append]
      | withReturn =>
          rw [List.append_assoc, List.cons_append, List.singleton_append, readLongBasic,
            if_neg Bool.false_ne_true, ih, reverse_cons_append]
  | escape he _ ih => rw [List.append_assoc, readLongBasic_escape he, ih, reverse_cons_append]
  | @fold s f g w t hs hf hg hwhite hw ih =>
      have hend : lineEnd? (afterSpaces (s ++ (f ++ (g ++ (w ++ rest))))) =
          some (g ++ (w ++ rest)) := by
        rw [afterSpaces_append hs (hf.beginsNot_space _), lineEnd?_append hf]
      have hgap : White (s ++ (f ++ g)) := (Spaces.white hs).append (.feed hf hg)
      simp only [List.cons_append, List.append_assoc]
      cases hmore : s ++ (f ++ (g ++ (w ++ rest))) with
      | nil =>
          rw [hmore] at hend
          cases hend
      | cons c more =>
          rw [hmore] at hend
          rw [readLongBasic_fold hend, ← hmore, ← List.append_assoc f, ← List.append_assoc s,
            readLongBasic_white hgap, readLongBasic_true (hw.beginsNot_append hwhite rest), ih]

/-! ## Strings of any form -/

theorem readShort?_append {w t : Text} (hw : SpellsShort w t) (rest : Text) :
    readShort? (w ++ rest) = some (t, rest) := by
  cases hw with
  | basic hw => exact readBasic_append hw [] rest
  | literal hw => exact readLiteral_append hw [] rest

theorem exists_spellsShort {t s rest : Text} (hread : readShort? t = some (s, rest)) :
    ∃ w, t = w ++ rest ∧ SpellsShort w s := by
  unfold readShort? at hread
  split at hread
  · obtain ⟨w, rfl, hw⟩ := (reads_of_readBasic hread).whole
    exact ⟨_, rfl, .basic hw⟩
  · obtain ⟨w, rfl, hw⟩ := (reads_of_readLiteral hread).whole
    exact ⟨_, rfl, .literal hw⟩
  · cases hread

/-- A string that ends on its line is not taken for one with a tripled delimiter. -/
theorem read?_eq_readShort?_append {w t rest : Text} (hw : SpellsShort w t)
    (hquote : BeginsNot (· = '"') rest) (hmark : BeginsNot (· = '\x27') rest) :
    read? (w ++ rest) = readShort? (w ++ rest) := by
  rw [read?]
  · intro more heq
    cases hw with
    | basic hw =>
        cases hw with
        | close =>
            cases heq
            exact absurd hquote.of_cons (by decide)
        | plain hplain hquote hback hw =>
            injection heq with _ heq
            injection heq with heq _
            exact hquote heq
        | escape he hw => cases he <;> cases heq
    | literal hw => cases heq
  · intro more heq
    cases hw with
    | basic hw => cases heq
    | literal hw =>
        cases hw with
        | close =>
            cases heq
            exact absurd hmark.of_cons (by decide)
        | plain hplain hmark hw =>
            injection heq with _ heq
            injection heq with heq _
            exact hmark heq

theorem lineEnd?_append_of_none {w : Text} (hlength : 2 ≤ w.length) (hline : lineEnd? w = none)
    (rest : Text) : lineEnd? (w ++ rest) = none := by
  cases hend : lineEnd? (w ++ rest) with
  | none => rfl
  | some after =>
      obtain ⟨f, hf, heq⟩ := lineEnd?_eq_some hend
      have hprefix : f <+: w := by
        refine List.prefix_of_prefix_length_le ⟨after, heq.symm⟩ (List.prefix_append w rest) ?_
        cases hf with
        | plain => exact Nat.le_of_succ_le hlength
        | withReturn => exact hlength
      obtain ⟨more, rfl⟩ := hprefix
      rw [lineEnd?_append hf] at hline
      cases hline

theorem Started.exists_body {body : Text → Text → Prop} {w t : Text} (hw : Started body w t)
    (hlength : ∀ w t, body w t → 3 ≤ w.length) (rest : Text) :
    ∃ v, (lineEnd? (w ++ rest)).getD (w ++ rest) = v ++ rest ∧ body v t := by
  cases hw with
  | here hline hw =>
      refine ⟨w, ?_, hw⟩
      rw [lineEnd?_append_of_none (Nat.le_of_succ_le (hlength w t hw)) hline]
      rfl
  | nextLine hf hw =>
      refine ⟨_, ?_, hw⟩
      rw [List.append_assoc, lineEnd?_append hf]
      rfl

theorem exists_started {body : Text → Text → Prop} {v t s rest : Text}
    (ht : (lineEnd? t).getD t = v ++ rest) (hv : body v s) :
    ∃ w, t = w ++ rest ∧ Started body w s := by
  cases hend : lineEnd? t with
  | none =>
      rw [hend] at ht
      refine ⟨v, ht, .here ?_ hv⟩
      cases hline : lineEnd? v with
      | none => rfl
      | some after =>
          obtain ⟨f, hf, rfl⟩ := lineEnd?_eq_some hline
          rw [show t = _ from ht, List.append_assoc, lineEnd?_append hf] at hend
          cases hend
  | some after =>
      rw [hend] at ht
      obtain ⟨f, hf, rfl⟩ := lineEnd?_eq_some hend
      refine ⟨f ++ v, ?_, .nextLine hf hv⟩
      rw [show after = _ from ht, List.append_assoc]

/-- **What the grammar has as a string is read as its text**, if no quote follows. -/
theorem read?_append {w t rest : Text} (hw : Spells w t) (hquote : BeginsNot (· = '"') rest)
    (hmark : BeginsNot (· = '\x27') rest) : read? (w ++ rest) = some (t, rest) := by
  cases hw with
  | short hw => rw [read?_eq_readShort?_append hw hquote hmark, readShort?_append hw]
  | longBasic hw =>
      obtain ⟨v, hv, hbody⟩ := hw.exists_body (fun _ _ => LongBasicBody.three_le_length) rest
      simp only [List.cons_append, read?]
      rw [hv]
      exact readLongBasic_append hbody [] hquote
  | longLiteral hw =>
      obtain ⟨v, hv, hbody⟩ := hw.exists_body (fun _ _ => LongLiteralBody.three_le_length) rest
      simp only [List.cons_append, read?]
      rw [hv]
      exact readLongLiteral_append hbody [] hmark

/-- **What is read as a string is one by the grammar.** -/
theorem exists_spells {t s rest : Text} (hread : read? t = some (s, rest)) :
    ∃ w, t = w ++ rest ∧ Spells w s := by
  unfold read? at hread
  split at hread
  · obtain ⟨v, hv, hbody⟩ := (reads_of_readLongBasic hread).whole
    obtain ⟨w, rfl, hw⟩ := exists_started hv (goes_false.mp hbody)
    exact ⟨_, rfl, .longBasic hw⟩
  · obtain ⟨v, hv, hbody⟩ := (reads_of_readLongLiteral hread).whole
    obtain ⟨w, rfl, hw⟩ := exists_started hv hbody
    exact ⟨_, rfl, .longLiteral hw⟩
  · obtain ⟨w, rfl, hw⟩ := exists_spellsShort hread
    exact ⟨w, rfl, .short hw⟩

end Quoted

end OperatorNames.Toml
