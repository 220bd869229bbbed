import OperatorNames.Proofs.Toml.Spelling.Blanks
import OperatorNames.Toml.Number

/-!
# How numbers are written

The grammar of whole numbers (`Number.SpellsInteger`) and of floating-point numbers
(`Number.SpellsFloat`), made up of signs, runs of digits, fractions and exponents.  The readers read
just what the grammar has where nothing follows that could belong to a number.
-/

namespace OperatorNames.Toml

open Text

namespace Number

/-- More digits of a run, before each of which an underscore may stand. -/
inductive MoreDigits (base : Nat) : Text → Text → Prop
  | nil : MoreDigits base [] []
  | digit {c : Char} {w ds : Text} (hc : isDigit base c = true) (hw : MoreDigits base w ds) :
      MoreDigits base (c :: w) (c :: ds)
  | apart {c : Char} {w ds : Text} (hc : isDigit base c = true) (hw : MoreDigits base w ds) :
      MoreDigits base ('_' :: c :: w) (c :: ds)

/-- A run of digits, as it is written and by itself. -/
inductive Digits (base : Nat) : Text → Text → Prop
  | run {c : Char} {w ds : Text} (hc : isDigit base c = true) (hw : MoreDigits base w ds) :
      Digits base (c :: w) (c :: ds)

/-- A sign, or none; `true` is minus. -/
inductive Sign : Text → Bool → Prop
  | absent : Sign [] false
  | plus : Sign ['+'] false
  | minus : Sign ['-'] true

/-- Decimal digits without a leading zero. -/
inductive Whole : Text → Text → Prop
  | zero : Whole ['0'] ['0']
  | digits {w ds : Text} (hzero : w.head? ≠ some '0') (hw : Digits 10 w ds) : Whole w ds

/-- A number with a sign. -/
def signed (negative : Bool) (n : Nat) : Int :=
  if negative then -(n : Int) else n

/-- The marks of the bases other than ten. -/
inductive Mark : Char → Nat → Prop
  | hexadecimal : Mark 'x' 16
  | octal : Mark 'o' 8
  | binary : Mark 'b' 2

/-- A whole number that 64 bits with a sign can hold. -/
inductive SpellsInteger : Text → Int → Prop
  | decimal {s w ds : Text} {negative : Bool} (hs : Sign s negative) (hw : Whole w ds)
      (hlow : -(bound : Int) ≤ signed negative (value 10 ds))
      (hhigh : signed negative (value 10 ds) < bound) :
      SpellsInteger (s ++ w) (signed negative (value 10 ds))
  | marked {mark : Char} {base : Nat} {w ds : Text} (hmark : Mark mark base)
      (hw : Digits base w ds) (hhigh : value base ds < bound) :
      SpellsInteger ('0' :: mark :: w) (value base ds)

/-- A fraction, or none, and its digits. -/
inductive Fraction : Text → Text → Prop
  | absent : Fraction [] []
  | digits {w ds : Text} (hw : Digits 10 w ds) : Fraction ('.' :: w) ds

/-- An exponent, or none, and its value. -/
inductive Exponent : Text → Int → Prop
  | absent : Exponent [] 0
  | power {e : Char} {s w ds : Text} {negative : Bool} (he : e = 'e' ∨ e = 'E')
      (hs : Sign s negative) (hw : Digits 10 w ds) :
      Exponent (e :: (s ++ w)) (signed negative (value 10 ds))

/-- A floating-point number.  A fraction or an exponent tells one with digits from a whole number,
and it is not beyond all finite numbers unless it is negative. -/
inductive SpellsFloat : Text → Binary64 → Prop
  | infinite {s : Text} {negative : Bool} (hs : Sign s negative) :
      SpellsFloat (s ++ ['i', 'n', 'f']) (.infinite negative)
  | undefined {s : Text} {negative : Bool} (hs : Sign s negative) :
      SpellsFloat (s ++ ['n', 'a', 'n']) .undefined
  | decimal {s h f e ds fs : Text} {negative : Bool} {n : Int} (hs : Sign s negative)
      (hh : Whole h ds) (hf : Fraction f fs) (he : Exponent e n) (hpart : f ++ e ≠ [])
      (hfinite : Binary64.ofDecimal negative (value 10 (ds ++ fs)) (n - fs.length) ≠
        .infinite false) :
      SpellsFloat (s ++ (h ++ (f ++ e)))
        (Binary64.ofDecimal negative (value 10 (ds ++ fs)) (n - fs.length))

/-! ## Digits -/

/-- Whether a character may go on with a run of digits. -/
def goesOn (base : Nat) (c : Char) : Bool :=
  isDigit base c || c = '_'

theorem digitsFrom_digit {base : Nat} {c : Char} (hc : isDigit base c = true) (done t : Text) :
    digitsFrom base done (c :: t) = digitsFrom base (c :: done) t := by
  rw [digitsFrom, if_pos hc]
  rintro d more rfl
  cases hc

theorem digitsFrom_stop {base : Nat} {t : Text} (ht : BeginsNot (goesOn base) t) (done : Text) :
    digitsFrom base done t = (done.reverse, t) := by
  cases t with
  | nil => rw [digitsFrom]
  | cons c t =>
      have hc := ht.of_cons
      simp only [goesOn, Bool.or_eq_false_iff, decide_eq_false_iff_not] at hc
      rw [digitsFrom, if_neg (by simp [hc.1])]
      rintro d more rfl
      exact absurd rfl hc.2

theorem digitsFrom_append {base : Nat} {w ds rest : Text} (hw : MoreDigits base w ds)
    (hrest : BeginsNot (goesOn base) rest) (done : Text) :
    digitsFrom base done (w ++ rest) = (done.reverse ++ ds, rest) := by
  induction hw generalizing done with
  | nil => rw [List.nil_append, List.append_nil, digitsFrom_stop hrest]
  | digit hc _ ih =>
      rw [List.cons_append, digitsFrom_digit hc, ih, List.reverse_cons, ← List.append_cons]
  | apart hc _ ih =>
      rw [List.cons_append, List.cons_append, digitsFrom, if_pos hc, ih, List.reverse_cons,
        ← List.append_cons]

theorem exists_moreDigits {base : Nat} {done t ds rest : Text}
    (hread : digitsFrom base done t = (ds, rest)) :
    ∃ w more, t = w ++ rest ∧ ds = done.reverse ++ more ∧ MoreDigits base w more := by
  have hstop {done t : Text} (hread : (done.reverse, t) = (ds, rest)) :
      ∃ w more, t = w ++ rest ∧ ds = done.reverse ++ more ∧ MoreDigits base w more := by
    cases hread
    exact ⟨[], [], rfl, (List.append_nil _).symm, .nil⟩
  fun_induction digitsFrom base done t with
  | case1 done c t hc ih =>
      obtain ⟨w, more, rfl, rfl, hw⟩ := ih hread
      exact ⟨'_' :: c :: w, c :: more, rfl, by simp, .apart hc hw⟩
  | case2 => exact hstop hread
  | case3 done c t _ hc ih =>
      obtain ⟨w, more, rfl, rfl, hw⟩ := ih hread
      exact ⟨c :: w, c :: more, rfl, by simp, .digit hc hw⟩
  | case4 => exact hstop hread
  | case5 => exact hstop hread

theorem digits?_append {base : Nat} {w ds rest : Text} (hw : Digits base w ds)
    (hrest : BeginsNot (goesOn base) rest) : digits? base (w ++ rest) = some (ds, rest) := by
  cases hw with
  | run hc hw =>
      rw [List.cons_append, digits?, if_pos hc, digitsFrom_append hw hrest]
      rfl

theorem exists_digits {base : Nat} {t ds rest : Text} (hread : digits? base t = some (ds, rest)) :
    ∃ w, t = w ++ rest ∧ Digits base w ds := by
  unfold digits? at hread
  split at hread
  · next c t =>
      split at hread
      · next hc =>
          obtain ⟨w, more, rfl, rfl, hw⟩ := exists_moreDigits (Option.some.inj hread)
          exact ⟨c :: w, rfl, .run hc hw⟩
      · cases hread
  · cases hread

/-! ## Signs and digits without a leading zero -/

/-- Whether a character is a sign. -/
def isSign (c : Char) : Bool :=
  c = '+' || c = '-'

theorem sign_append {s t : Text} {negative : Bool} (hs : Sign s negative)
    (ht : BeginsNot isSign t) : sign (s ++ t) = (negative, t) := by
  cases hs with
  | plus => rfl
  | minus => rfl
  | absent =>
      rw [List.nil_append, sign]
      · rintro more rfl
        exact absurd ht.of_cons (by decide)
      · rintro more rfl
        exact absurd ht.of_cons (by decide)

theorem exists_sign (t : Text) : ∃ s, t = s ++ (sign t).2 ∧ Sign s (sign t).1 := by
  unfold sign
  split
  · exact ⟨_, rfl, .minus⟩
  · exact ⟨_, rfl, .plus⟩
  · exact ⟨_, rfl, .absent⟩

theorem Whole.exists_cons {w ds : Text} (hw : Whole w ds) :
    ∃ c more, w = c :: more ∧ isDigit 10 c = true := by
  cases hw with
  | zero => exact ⟨_, _, rfl, rfl⟩
  | digits _ hw =>
      cases hw with
      | run hc _ => exact ⟨_, _, rfl, hc⟩

theorem whole?_append {w ds rest : Text} (hw : Whole w ds) (hrest : BeginsNot (goesOn 10) rest) :
    whole? (w ++ rest) = some (ds, rest) := by
  cases hw with
  | zero => rfl
  | digits hzero hw =>
      rw [whole?, digits?_append hw hrest]
      intro more heq
      cases hw with
      | run hc _ =>
          cases heq
          exact hzero rfl

theorem exists_whole {t ds rest : Text} (hread : whole? t = some (ds, rest)) :
    ∃ w, t = w ++ rest ∧ Whole w ds := by
  unfold whole? at hread
  split at hread
  · cases hread
    exact ⟨_, rfl, .zero⟩
  · next hzero =>
      obtain ⟨w, rfl, hw⟩ := exists_digits hread
      refine ⟨w, rfl, .digits ?_ hw⟩
      intro hhead
      obtain ⟨more, rfl⟩ := List.head?_eq_some_iff.mp hhead
      exact hzero _ rfl

theorem Digits.beginsNot_sign {base : Nat} {w ds : Text} (hw : Digits base w ds) (t : Text) :
    BeginsNot isSign (w ++ t) := by
  cases hw with
  | @run c w ds hc _ =>
      refine beginsNot_cons ?_ _
      rw [isSign, Bool.or_eq_false_iff, decide_eq_false_iff_not, decide_eq_false_iff_not]
      constructor
      · rintro rfl
        cases hc
      · rintro rfl
        cases hc

theorem Whole.beginsNot_sign {w ds : Text} (hw : Whole w ds) (t : Text) :
    BeginsNot isSign (w ++ t) := by
  cases hw with
  | zero => exact beginsNot_cons rfl _
  | digits _ hw => exact hw.beginsNot_sign t

/-! ## Whole numbers -/

theorem integer?_of_marked {mark : Char} {base : Nat} (hmark : Mark mark base) (t : Text) :
    integer? ('0' :: mark :: t) = (digits? base t).bind fun found =>
      if value base found.1 < bound then some ((value base found.1 : Int), found.2) else none := by
  cases hmark with
  | hexadecimal => rfl
  | octal => rfl
  | binary => rfl

theorem integer?_of_not_marked {t : Text}
    (hmark : ¬ ∃ mark base more, Mark mark base ∧ t = '0' :: mark :: more) :
    integer? t = (whole? (sign t).2).bind fun found =>
      if -bound ≤ signed (sign t).1 (value 10 found.1) ∧ signed (sign t).1 (value 10 found.1) < bound
      then some (signed (sign t).1 (value 10 found.1), found.2) else none := by
  rw [integer?]
  · rfl
  · exact fun _ heq => hmark ⟨_, _, _, .hexadecimal, heq⟩
  · exact fun _ heq => hmark ⟨_, _, _, .octal, heq⟩
  · exact fun _ heq => hmark ⟨_, _, _, .binary, heq⟩

/-- What follows a decimal number is no mark of a base. -/
theorem not_marked {s w ds rest : Text} {negative : Bool} (hs : Sign s negative) (hw : Whole w ds)
    (hrest : Closes rest) :
    ¬ ∃ mark base more, Mark mark base ∧ s ++ (w ++ rest) = '0' :: mark :: more := by
  rintro ⟨mark, base, more, hmark, heq⟩
  cases hs with
  | plus => cases heq
  | minus => cases heq
  | absent =>
      cases hw with
      | zero =>
          have hends : BeginsNot (fun c => c = 'x' || c = 'o' || c = 'b') rest :=
            hrest.beginsNot rfl
          injection heq with _ heq
          rw [show rest = _ from heq] at hends
          have hnone := hends.of_cons
          cases hmark with
          | hexadecimal => cases hnone
          | octal => cases hnone
          | binary => cases hnone
      | digits hzero hw =>
          cases hw with
          | run hc _ =>
              injection heq with heq _
              subst heq
              exact hzero rfl

theorem integer?_append {w rest : Text} {n : Int} (hw : SpellsInteger w n) (hrest : Closes rest) :
    integer? (w ++ rest) = some (n, rest) := by
  cases hw with
  | decimal hs hw hlow hhigh =>
      rw [List.append_assoc, integer?_of_not_marked (not_marked hs hw hrest),
        sign_append hs (hw.beginsNot_sign rest), whole?_append hw (hrest.beginsNot rfl),
        Option.bind_some, if_pos ⟨hlow, hhigh⟩]
  | @marked mark base w ds hmark hw hhigh =>
      have hends : BeginsNot (goesOn base) rest := by
        cases hmark with
        | hexadecimal => exact hrest.beginsNot rfl
        | octal => exact hrest.beginsNot rfl
        | binary => exact hrest.beginsNot rfl
      rw [List.cons_append, List.cons_append, integer?_of_marked hmark, digits?_append hw hends,
        Option.bind_some, if_pos hhigh]

theorem exists_spellsInteger {t rest : Text} {n : Int} (hread : integer? t = some (n, rest)) :
    ∃ w, t = w ++ rest ∧ SpellsInteger w n := by
  by_cases hmarked : ∃ mark base more, Mark mark base ∧ t = '0' :: mark :: more
  · obtain ⟨mark, base, more, hmark, rfl⟩ := hmarked
    rw [integer?_of_marked hmark] at hread
    obtain ⟨⟨ds, last⟩, hds, hfound⟩ := Option.bind_eq_some_iff.mp hread
    dsimp only at hfound
    split at hfound
    · next hhigh =>
        cases hfound
        obtain ⟨w, rfl, hw⟩ := exists_digits hds
        exact ⟨_, rfl, .marked hmark hw hhigh⟩
    · cases hfound
  · rw [integer?_of_not_marked hmarked] at hread
    obtain ⟨⟨ds, last⟩, hds, hfound⟩ := Option.bind_eq_some_iff.mp hread
    dsimp only at hfound
    split at hfound
    · next hrange =>
        cases hfound
        obtain ⟨s, ht, hs⟩ := exists_sign t
        obtain ⟨w, hunsigned, hw⟩ := exists_whole hds
        refine ⟨s ++ w, ?_, .decimal hs hw hrange.1 hrange.2⟩
        rw [List.append_assoc, ← hunsigned]
        exact ht
    · cases hfound

/-! ## Fractions and exponents -/

/-- Whether a character begins a fraction or an exponent. -/
def beginsPart (c : Char) : Bool :=
  c = '.' || c = 'e' || c = 'E'

theorem fraction?_append {w ds t : Text} (hw : Fraction w ds) (hdigits : BeginsNot (goesOn 10) t)
    (hpoint : BeginsNot (· = '.') t) : fraction? (w ++ t) = some (ds, t) := by
  cases hw with
  | absent =>
      rw [List.nil_append, fraction?]
      rintro more rfl
      exact absurd hpoint.of_cons (by decide)
  | digits hw =>
      rw [List.cons_append, fraction?]
      exact digits?_append hw hdigits

/-- No fraction is read only where none begins. -/
theorem exists_fraction {t ds rest : Text} (hread : fraction? t = some (ds, rest)) :
    ∃ w, t = w ++ rest ∧ Fraction w ds ∧ (w = [] → ∀ more, rest ≠ '.' :: more) := by
  unfold fraction? at hread
  split at hread
  · obtain ⟨w, rfl, hw⟩ := exists_digits hread
    exact ⟨_, rfl, .digits hw, nofun⟩
  · next hpoint =>
      cases hread
      exact ⟨[], rfl, .absent, fun _ => hpoint⟩

/-- Reads an exponent after its mark. -/
def power? (t : Text) : Option (Int × Text) :=
  (digits? 10 (sign t).2).map fun found => (signed (sign t).1 (value 10 found.1), found.2)

theorem exponent?_mark {e : Char} (he : e = 'e' ∨ e = 'E') (t : Text) :
    exponent? (e :: t) = power? t := by
  rcases he with rfl | rfl
  · rfl
  · rfl

theorem exponent?_append {w rest : Text} {n : Int} (hw : Exponent w n)
    (hdigits : BeginsNot (goesOn 10) rest) (hpart : BeginsNot beginsPart rest) :
    exponent? (w ++ rest) = some (n, rest) := by
  cases hw with
  | absent =>
      rw [List.nil_append, exponent?]
      · rintro more rfl
        cases hpart.of_cons
      · rintro more rfl
        cases hpart.of_cons
  | power he hs hw =>
      rw [List.cons_append, exponent?_mark he, List.append_assoc, power?,
        sign_append hs (hw.beginsNot_sign rest), digits?_append hw hdigits]
      rfl

/-- No exponent is read only where none begins. -/
theorem exists_exponent {t rest : Text} {n : Int} (hread : exponent? t = some (n, rest)) :
    ∃ w, t = w ++ rest ∧ Exponent w n ∧
      (w = [] → ∀ more, rest ≠ 'e' :: more ∧ rest ≠ 'E' :: more) := by
  have hpower {e : Char} {after : Text} (he : e = 'e' ∨ e = 'E')
      (hread : power? after = some (n, rest)) :
      ∃ w, e :: after = w ++ rest ∧ Exponent w n ∧
        (w = [] → ∀ more, rest ≠ 'e' :: more ∧ rest ≠ 'E' :: more) := by
    obtain ⟨⟨ds, last⟩, hds, hfound⟩ := Option.map_eq_some_iff.mp hread
    cases hfound
    obtain ⟨s, hafter, hs⟩ := exists_sign after
    obtain ⟨w, hunsigned, hw⟩ := exists_digits hds
    refine ⟨e :: (s ++ w), ?_, .power he hs hw, nofun⟩
    rw [List.cons_append, List.append_assoc, ← hunsigned, ← hafter]
  unfold exponent? at hread
  split at hread
  · exact hpower (.inl rfl) hread
  · exact hpower (.inr rfl) hread
  · next hlower hupper =>
      cases hread
      exact ⟨[], rfl, .absent, fun _ more => ⟨hlower more, hupper more⟩⟩

theorem Exponent.beginsNot {w t : Text} {n : Int} (hw : Exponent w n) {kind : Char → Bool}
    (hkind : kind 'e' = false ∧ kind 'E' = false) (ht : BeginsNot kind t) :
    BeginsNot kind (w ++ t) := by
  cases hw with
  | absent => exact ht
  | power he hs hw =>
      rcases he with rfl | rfl
      · exact beginsNot_cons hkind.1 _
      · exact beginsNot_cons hkind.2 _

theorem Fraction.beginsNot {w ds t : Text} (hw : Fraction w ds) {kind : Char → Bool}
    (hkind : kind '.' = false) (ht : BeginsNot kind t) : BeginsNot kind (w ++ t) := by
  cases hw with
  | absent => exact ht
  | digits hw => exact beginsNot_cons hkind _

/-- A fraction or an exponent is seen by its first character. -/
theorem any_beginsPart {f e fs : Text} {n : Int} (hf : Fraction f fs) (he : Exponent e n)
    (hpart : f ++ e ≠ []) (t : Text) : (f ++ (e ++ t)).head?.any beginsPart = true := by
  cases hf with
  | digits hw => rfl
  | absent =>
      cases he with
      | absent => exact absurd rfl hpart
      | power he hs hw =>
          rcases he with rfl | rfl
          · rfl
          · rfl

/-! ## Floating-point numbers -/

theorem float?_of_whole {s h ds : Text} {negative : Bool} (hs : Sign s negative) (hh : Whole h ds)
    (t : Text) : float? (s ++ (h ++ t)) = decimal? (s ++ (h ++ t)) := by
  have hsign := sign_append hs (hh.beginsNot_sign t)
  obtain ⟨c, more, rfl, hc⟩ := hh.exists_cons
  rw [float?, hsign]
  split
  · next heq =>
      have hhead := (List.cons.inj (Prod.mk.inj heq).2).1
      subst hhead
      cases hc
  · next heq =>
      have hhead := (List.cons.inj (Prod.mk.inj heq).2).1
      subst hhead
      cases hc
  · rfl

theorem decimal?_of_whole {s h ds t : Text} {negative : Bool} (hs : Sign s negative)
    (hh : Whole h ds) (ht : BeginsNot (goesOn 10) t) :
    decimal? (s ++ (h ++ t)) =
      if t.head?.any beginsPart then
        (fraction? t).bind fun tail => (exponent? tail.2).bind fun power =>
          if Binary64.ofDecimal negative (value 10 (ds ++ tail.1)) (power.1 - tail.1.length) =
              .infinite false then none
          else some (Binary64.ofDecimal negative (value 10 (ds ++ tail.1))
            (power.1 - tail.1.length), power.2)
      else none := by
  rw [decimal?, sign_append hs (hh.beginsNot_sign t)]
  dsimp only
  rw [whole?_append hh ht]
  rfl

theorem float?_append {w rest : Text} {x : Binary64} (hw : SpellsFloat w x) (hrest : Closes rest) :
    float? (w ++ rest) = some (x, rest) := by
  cases hw with
  | infinite hs =>
      have hmark : BeginsNot isSign ('i' :: 'n' :: 'f' :: rest) := beginsNot_cons rfl _
      have hsign := sign_append hs hmark
      rw [List.append_assoc, float?]
      exact hsign ▸ rfl
  | undefined hs =>
      have hmark : BeginsNot isSign ('n' :: 'a' :: 'n' :: rest) := beginsNot_cons rfl _
      have hsign := sign_append hs hmark
      rw [List.append_assoc, float?]
      exact hsign ▸ rfl
  | decimal hs hh hf he hpart hfinite =>
      have hdigits : BeginsNot (goesOn 10) rest := hrest.beginsNot rfl
      have hexponent := he.beginsNot ⟨rfl, rfl⟩ hdigits
      have hrestPoint : BeginsNot (· = '.') rest := hrest.beginsNot rfl
      have hpoint := he.beginsNot ⟨rfl, rfl⟩ hrestPoint
      rw [List.append_assoc, List.append_assoc, List.append_assoc, float?_of_whole hs hh,
        decimal?_of_whole hs hh (hf.beginsNot rfl hexponent),
        if_pos (any_beginsPart hf he hpart rest), fraction?_append hf hexponent hpoint,
        Option.bind_some,
        exponent?_append he hdigits (hrest.beginsNot rfl), Option.bind_some, if_neg hfinite]

/-- Digits that neither a fraction nor an exponent follows are no floating-point number. -/
theorem float?_eq_none {s h ds t : Text} {negative : Bool} (hs : Sign s negative) (hh : Whole h ds)
    (hdigits : BeginsNot (goesOn 10) t) (hpart : BeginsNot beginsPart t) :
    float? (s ++ (h ++ t)) = none := by
  rw [float?_of_whole hs hh, decimal?_of_whole hs hh hdigits, if_neg]
  cases t with
  | nil => exact Bool.false_ne_true
  | cons c t =>
      rw [List.head?_cons, Option.any_some, hpart.of_cons]
      exact Bool.false_ne_true

theorem SpellsInteger.float?_eq_none {w rest : Text} {n : Int} (hw : SpellsInteger w n)
    (hrest : Closes rest) : float? (w ++ rest) = none := by
  cases hw with
  | decimal hs hw hlow hhigh =>
      rw [List.append_assoc]
      exact Number.float?_eq_none hs hw (hrest.beginsNot rfl) (hrest.beginsNot rfl)
  | marked hmark hw hhigh =>
      cases hmark with
      | hexadecimal =>
          exact Number.float?_eq_none .absent .zero (beginsNot_cons rfl _) (beginsNot_cons rfl _)
      | octal =>
          exact Number.float?_eq_none .absent .zero (beginsNot_cons rfl _) (beginsNot_cons rfl _)
      | binary =>
          exact Number.float?_eq_none .absent .zero (beginsNot_cons rfl _) (beginsNot_cons rfl _)

theorem exists_decimal {t rest : Text} {x : Binary64} (hread : decimal? t = some (x, rest)) :
    ∃ w, t = w ++ rest ∧ SpellsFloat w x := by
  unfold decimal? at hread
  dsimp only at hread
  obtain ⟨⟨ds, afterHead⟩, hhead, hread⟩ := Option.bind_eq_some_iff.mp hread
  dsimp only at hread
  split at hread
  · next hany =>
      obtain ⟨⟨fs, afterTail⟩, htail, hread⟩ := Option.bind_eq_some_iff.mp hread
      obtain ⟨⟨n, last⟩, hpower, hread⟩ := Option.bind_eq_some_iff.mp hread
      dsimp only at hread
      split at hread
      · cases hread
      · next hfinite =>
          cases hread
          obtain ⟨s, ht, hs⟩ := exists_sign t
          obtain ⟨h, hunsigned, hh⟩ := exists_whole hhead
          obtain ⟨f, rfl, hf, hpoint⟩ := exists_fraction htail
          obtain ⟨e, rfl, he, hletter⟩ := exists_exponent hpower
          refine ⟨s ++ (h ++ (f ++ e)), ?_, .decimal hs hh hf he ?_ hfinite⟩
          · rw [hunsigned] at ht
            simpa using ht
          · intro hnil
            obtain ⟨rfl, rfl⟩ := List.append_eq_nil_iff.mp hnil
            cases rest with
            | nil => cases hany
            | cons c more =>
                simp only [List.nil_append, List.head?_cons, Option.any_some, Bool.or_eq_true,
                  decide_eq_true_eq] at hany
                rcases hany with (rfl | rfl) | rfl
                · exact hpoint rfl more rfl
                · exact (hletter rfl more).1 rfl
                · exact (hletter rfl more).2 rfl
  · cases hread

theorem exists_spellsFloat {t rest : Text} {x : Binary64} (hread : float? t = some (x, rest)) :
    ∃ w, t = w ++ rest ∧ SpellsFloat w x := by
  obtain ⟨s, ht, hs⟩ := exists_sign t
  unfold float? at hread
  split at hread
  · next heq =>
      cases hread
      rw [heq] at ht hs
      exact ⟨s ++ ['i', 'n', 'f'], by simpa using ht, .infinite hs⟩
  · next heq =>
      cases hread
      rw [heq] at ht hs
      exact ⟨s ++ ['n', 'a', 'n'], by simpa using ht, .undefined hs⟩
  · exact exists_decimal hread

end Number

end OperatorNames.Toml
