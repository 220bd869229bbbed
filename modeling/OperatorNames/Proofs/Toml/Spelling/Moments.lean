import OperatorNames.Proofs.Toml.Number
import OperatorNames.Proofs.Toml.Spelling.Blanks

/-!
# How dates and times are written

The grammar of moments (`Moment.Spells`): a date, a time of day, or a date, a mark, a time and
perhaps a distance from universal time.  `Moment.read?` reads just these where a value ends.
-/

namespace OperatorNames.Toml

open Text

namespace Moment

/-- A number with a fixed number of places. -/
structure Places (count : Nat) (w : Text) (n : Nat) : Prop where
  /-- There are as many places. -/
  length : w.length = count
  /-- In the places there are digits. -/
  digits : AllDigits w
  /-- They denote the number. -/
  value : number? 10 w = some n

/-- Two digits that denote a number in a range. -/
structure Two (low high : Nat) (w : Text) (n : Nat) : Prop where
  /-- There are two digits. -/
  places : Places 2 w n
  /-- The number is in the range. -/
  range : low ≤ n ∧ n ≤ high

/-- A date, which exists. -/
inductive Date : Text → Prop
  | ymd {y m d : Text} {year month day : Nat} (hy : Places 4 y year) (hm : Two 1 12 m month)
      (hd : Two 1 (daysIn year month) d day) : Date (y ++ ('-' :: (m ++ ('-' :: d))))

/-- A part of a second, or nothing. -/
inductive Subsecond : Text → Prop
  | absent : Subsecond []
  | digits {w : Text} (hne : w ≠ []) (hw : AllDigits w) : Subsecond ('.' :: w)

/-- A time of day. -/
inductive Time : Text → Prop
  | hms {h m s f : Text} {hour minute second : Nat} (hh : Two 0 23 h hour) (hm : Two 0 59 m minute)
      (hs : Two 0 60 s second) (hf : Subsecond f) : Time (h ++ (':' :: (m ++ (':' :: (s ++ f)))))

/-- A distance from universal time, or nothing. -/
inductive Offset : Text → Prop
  | absent : Offset []
  | universal {c : Char} (hc : c = 'Z' ∨ c = 'z') : Offset [c]
  | numeric {c : Char} {h m : Text} {hour minute : Nat} (hc : c = '+' ∨ c = '-')
      (hh : Two 0 23 h hour) (hm : Two 0 59 m minute) : Offset (c :: (h ++ (':' :: m)))

/-- A moment. -/
inductive Spells : Text → Prop
  | date {d : Text} (hd : Date d) : Spells d
  | dateTime {d t o : Text} {c : Char} (hd : Date d) (hc : c = 'T' ∨ c = 't' ∨ c = ' ')
      (ht : Time t) (ho : Offset o) : Spells (d ++ (c :: (t ++ o)))
  | time {t : Text} (ht : Time t) : Spells t

/-! ## Digits and marks -/

theorem digits?_append {count n : Nat} {w : Text} (hw : Places count w n) (t : Text) :
    digits? count (w ++ t) = some (n, t) := by
  have htake : (w ++ t).take count = w := List.take_left' hw.length
  have hdrop : (w ++ t).drop count = t := List.drop_left' hw.length
  have hall : (decide (w.length = count) && w.all Char.isDigit) = true := by
    simpa using ⟨hw.length, hw.digits⟩
  rw [digits?, htake, hdrop, if_pos hall, hw.value]
  rfl

theorem exists_places {count n : Nat} {t rest : Text} (hread : digits? count t = some (n, rest)) :
    ∃ w, t = w ++ rest ∧ Places count w n := by
  unfold digits? at hread
  dsimp only at hread
  split at hread
  · next hall =>
      simp only [Bool.and_eq_true, decide_eq_true_eq, List.all_eq_true] at hall
      obtain ⟨value, hvalue, heq⟩ := Option.map_eq_some_iff.mp hread
      cases heq
      exact ⟨t.take count, (List.take_append_drop count t).symm, hall.1, hall.2, hvalue⟩
  · cases hread

theorem pair?_append {low high n : Nat} {w : Text} (hw : Two low high w n) (t : Text) :
    pair? low high (w ++ t) = some (n, t) := by
  rw [pair?, digits?_append hw.places, Option.bind_some]
  exact if_pos hw.range

theorem exists_two {low high n : Nat} {t rest : Text}
    (hread : pair? low high t = some (n, rest)) : ∃ w, t = w ++ rest ∧ Two low high w n := by
  obtain ⟨⟨m, after⟩, hdigits, hrange⟩ := Option.bind_eq_some_iff.mp hread
  obtain ⟨w, rfl, hw⟩ := exists_places hdigits
  dsimp only at hrange
  split at hrange
  · next hmn =>
      cases hrange
      exact ⟨w, rfl, hw, hmn⟩
  · cases hrange

theorem mark?_cons (mark : Char) (t : Text) : mark? mark (mark :: t) = some t :=
  if_pos rfl

theorem mark?_eq_some {mark : Char} {t rest : Text} (hread : mark? mark t = some rest) :
    t = mark :: rest := by
  cases t with
  | nil => cases hread
  | cons c t =>
      rw [mark?, dropStart?] at hread
      split at hread
      · next hc =>
          cases hread
          rw [hc]
      · cases hread

/-! ## Dates -/

theorem date?_append {d : Text} (hd : Date d) (t : Text) : date? (d ++ t) = some t := by
  cases hd with
  | ymd hy hm hd =>
      simp only [List.append_assoc, List.cons_append, date?, Option.bind_eq_bind,
        digits?_append hy, Option.bind_some, mark?_cons, pair?_append hm, pair?_append hd]

theorem exists_date {t rest : Text} (hread : date? t = some rest) :
    ∃ d, t = d ++ rest ∧ Date d := by
  simp only [date?, Option.bind_eq_bind, Option.bind_eq_some_iff] at hread
  obtain ⟨⟨year, _⟩, hyear, _, hmark, ⟨month, _⟩, hmonth, _, hmark', ⟨day, _⟩, hday, heq⟩ := hread
  cases heq
  obtain ⟨y, rfl, hy⟩ := exists_places hyear
  obtain rfl := mark?_eq_some hmark
  obtain ⟨m, rfl, hm⟩ := exists_two hmonth
  obtain rfl := mark?_eq_some hmark'
  obtain ⟨d, rfl, hd⟩ := exists_two hday
  exact ⟨_, by simp, .ymd hy hm hd⟩

/-! ## Times -/

theorem subsecond?_append {f t : Text} (hf : Subsecond f) (hdigit : BeginsNot Char.isDigit t)
    (hpoint : BeginsNot (· = '.') t) : subsecond? (f ++ t) = some t := by
  cases hf with
  | absent =>
      rw [List.nil_append, subsecond?]
      rintro more rfl
      exact absurd hpoint.of_cons (by decide)
  | @digits w hne hw =>
      cases w with
      | nil => exact absurd rfl hne
      | cons c w =>
          have hc : (c :: (w ++ t)).head?.any Char.isDigit = true := hw c List.mem_cons_self
          rw [List.cons_append, List.cons_append, subsecond?, if_pos hc, ← List.cons_append,
            dropWhile_append_of_beginsNot hw hdigit]

theorem exists_subsecond {t rest : Text} (hread : subsecond? t = some rest) :
    ∃ f, t = f ++ rest ∧ Subsecond f := by
  unfold subsecond? at hread
  split at hread
  · next t =>
      split at hread
      · next hany =>
          cases hread
          obtain ⟨w, hw, hdigits⟩ := exists_eq_append_dropWhile Char.isDigit t
          refine ⟨'.' :: w, by rw [List.cons_append, ← hw], .digits ?_ hdigits⟩
          rintro rfl
          -- then there is no digit after the point
          cases t with
          | nil => cases hany
          | cons c t =>
              have hnone := beginsNot_dropWhile Char.isDigit (c :: t)
              rw [List.nil_append] at hw
              rw [← hw] at hnone
              rw [List.head?_cons, Option.any_some, hnone.of_cons] at hany
              cases hany
      · cases hread
  · cases hread
    exact ⟨[], rfl, .absent⟩

theorem time?_append {w t : Text} (hw : Time w) (hdigit : BeginsNot Char.isDigit t)
    (hpoint : BeginsNot (· = '.') t) : time? (w ++ t) = some t := by
  cases hw with
  | hms hh hm hs hf =>
      simp only [List.append_assoc, List.cons_append, time?, Option.bind_eq_bind, pair?_append hh,
        Option.bind_some, mark?_cons, pair?_append hm, pair?_append hs,
        subsecond?_append hf hdigit hpoint]

theorem exists_time {t rest : Text} (hread : time? t = some rest) :
    ∃ w, t = w ++ rest ∧ Time w := by
  simp only [time?, Option.bind_eq_bind, Option.bind_eq_some_iff] at hread
  obtain ⟨⟨hour, _⟩, hhour, _, hmark, ⟨minute, _⟩, hminute, _, hmark',
    ⟨second, _⟩, hsecond, hlast⟩ := hread
  obtain ⟨h, rfl, hh⟩ := exists_two hhour
  obtain rfl := mark?_eq_some hmark
  obtain ⟨m, rfl, hm⟩ := exists_two hminute
  obtain rfl := mark?_eq_some hmark'
  obtain ⟨s, rfl, hs⟩ := exists_two hsecond
  obtain ⟨f, rfl, hf⟩ := exists_subsecond hlast
  exact ⟨_, by simp, .hms hh hm hs hf⟩

/-! ## Distances from universal time -/

/-- Reads the hours and minutes of a distance from universal time. -/
def distance? (t : Text) : Option Text :=
  (pair? 0 23 t).bind fun hour => (mark? ':' hour.2).bind fun after =>
    (pair? 0 59 after).bind fun minute => some minute.2

theorem offset?_sign {c : Char} (hc : c = '+' ∨ c = '-') (t : Text) :
    offset? (c :: t) = distance? t := by
  rcases hc with rfl | rfl
  · rfl
  · rfl

/-- Whether a character begins a distance from universal time. -/
def beginsOffset (c : Char) : Bool :=
  c = 'Z' || c = 'z' || c = '+' || c = '-'

theorem offset?_append {o t : Text} (ho : Offset o) (ht : BeginsNot beginsOffset t) :
    offset? (o ++ t) = some t := by
  cases ho with
  | universal hc =>
      rcases hc with rfl | rfl
      · rfl
      · rfl
  | numeric hc hh hm =>
      rw [List.cons_append, offset?_sign hc, List.append_assoc, List.cons_append, distance?,
        pair?_append hh, Option.bind_some, mark?_cons, Option.bind_some, pair?_append hm]
      rfl
  | absent =>
      rw [List.nil_append, offset?]
      all_goals
        rintro more rfl
        cases ht.of_cons

theorem exists_offset {t rest : Text} (hread : offset? t = some rest) :
    ∃ o, t = o ++ rest ∧ Offset o := by
  have hdistance {c : Char} {after : Text} (hc : c = '+' ∨ c = '-')
      (hread : distance? after = some rest) : ∃ o, c :: after = o ++ rest ∧ Offset o := by
    simp only [distance?, Option.bind_eq_some_iff] at hread
    obtain ⟨⟨hour, _⟩, hhour, _, hmark, ⟨minute, _⟩, hminute, heq⟩ := hread
    cases heq
    obtain ⟨h, rfl, hh⟩ := exists_two hhour
    obtain rfl := mark?_eq_some hmark
    obtain ⟨m, rfl, hm⟩ := exists_two hminute
    exact ⟨_, by simp, .numeric hc hh hm⟩
  unfold offset? at hread
  split at hread
  · cases hread
    exact ⟨_, rfl, .universal (.inl rfl)⟩
  · cases hread
    exact ⟨_, rfl, .universal (.inr rfl)⟩
  · exact hdistance (.inl rfl) hread
  · exact hdistance (.inr rfl) hread
  · cases hread
    exact ⟨_, rfl, .absent⟩

/-! ## Moments -/

/-- Nothing that is not a digit begins a time. -/
theorem time?_eq_none {t : Text} (ht : BeginsNot Char.isDigit t) : time? t = none := by
  cases htime : time? t with
  | none => rfl
  | some rest =>
      exfalso
      obtain ⟨w, rfl, hw⟩ := exists_time htime
      cases hw with
      | @hms h m s f hour minute second hh hm hs hf =>
          cases h with
          | nil => cases hh.places.length
          | cons c h =>
              have hc := hh.places.digits c List.mem_cons_self
              have hnone : c.isDigit = false := ht.of_cons
              rw [hc] at hnone
              cases hnone

/-- Reads a time of day and perhaps a distance from universal time. -/
def clock? (t : Text) : Option Text :=
  (time? t).bind offset?

theorem clock?_append {w o rest : Text} (hw : Time w) (ho : Offset o) (hrest : Closes rest) :
    clock? (w ++ (o ++ rest)) = some rest := by
  have hfollows {kind : Char → Bool} (hkind : enders.any kind = false)
      (hoffset : ['Z', 'z', '+', '-'].any kind = false) : BeginsNot kind (o ++ rest) := by
    simp only [List.any_cons, List.any_nil, Bool.or_eq_false_iff] at hoffset
    obtain ⟨hupper, hlower, hplus, hminus, -⟩ := hoffset
    cases ho with
    | absent => exact hrest.beginsNot hkind
    | universal hc =>
        rcases hc with rfl | rfl
        · exact beginsNot_cons hupper _
        · exact beginsNot_cons hlower _
    | numeric hc hh hm =>
        rcases hc with rfl | rfl
        · exact beginsNot_cons hplus _
        · exact beginsNot_cons hminus _
  rw [clock?, time?_append hw (hfollows rfl rfl) (hfollows rfl rfl), Option.bind_some,
    offset?_append ho (hrest.beginsNot rfl)]

theorem exists_clock {t rest : Text} (hread : clock? t = some rest) :
    ∃ w o, t = w ++ (o ++ rest) ∧ Time w ∧ Offset o := by
  obtain ⟨after, htime, hoffset⟩ := Option.bind_eq_some_iff.mp hread
  obtain ⟨w, rfl, hw⟩ := exists_time htime
  obtain ⟨o, rfl, ho⟩ := exists_offset hoffset
  exact ⟨w, o, rfl, hw, ho⟩

/-- A date stands alone where no time follows it. -/
theorem afterDate_of_closes {rest : Text} (hrest : Closes rest) : afterDate rest = some rest := by
  cases rest with
  | nil => rfl
  | cons c rest =>
      by_cases hspace : c = ' '
      · subst hspace
        have hlater : Closes rest := fun d hd => hrest d hd
        have hnone : clock? rest = none := by
          rw [clock?, time?_eq_none (hlater.beginsNot rfl)]
          rfl
        show some ((clock? rest).getD (' ' :: rest)) = _
        rw [hnone]
        rfl
      · have hletters : BeginsNot (fun c => c = 'T' || c = 't') (c :: rest) := hrest.beginsNot rfl
        have hc := hletters.of_cons
        simp only [Bool.or_eq_false_iff, decide_eq_false_iff_not] at hc
        rw [afterDate]
        · exact fun _ heq => hc.1 (List.cons.inj heq).1
        · exact fun _ heq => hc.2 (List.cons.inj heq).1
        · exact fun _ heq => hspace (List.cons.inj heq).1

theorem afterDate_mark {c : Char} (hc : c = 'T' ∨ c = 't' ∨ c = ' ') {t rest : Text}
    (hread : clock? t = some rest) : afterDate (c :: t) = some rest := by
  rcases hc with rfl | rfl | rfl
  · exact hread
  · exact hread
  · show some ((clock? t).getD (' ' :: t)) = _
    rw [hread]
    rfl

theorem Places.takeWhile_isDigit {count n : Nat} {w : Text} (hw : Places count w n) {c : Char}
    (hc : c.isDigit = false) (t : Text) : (w ++ c :: t).takeWhile Char.isDigit = w :=
  takeWhile_append_of_beginsNot hw.digits (beginsNot_cons hc t)

/-- A time has no four digits at its front. -/
theorem date?_eq_none {w : Text} (hw : Time w) (t : Text) : date? (w ++ t) = none := by
  cases hdate : date? (w ++ t) with
  | none => rfl
  | some rest =>
      exfalso
      obtain ⟨d, heq, hd⟩ := exists_date hdate
      cases hw with
      | hms hh hm hs hf =>
          cases hd with
          | ymd hy hm hd =>
              rw [List.append_assoc, List.append_assoc, List.cons_append, List.cons_append] at heq
              have hdigits := congrArg (List.takeWhile Char.isDigit) heq
              rw [hh.places.takeWhile_isDigit rfl, hy.takeWhile_isDigit rfl] at hdigits
              have hlength := congrArg List.length hdigits
              rw [hh.places.length, hy.length] at hlength
              cases hlength

theorem read?_append {w rest : Text} (hw : Spells w) (hrest : Closes rest) :
    read? (w ++ rest) = some rest := by
  cases hw with
  | date hd =>
      rw [read?, date?_append hd]
      exact afterDate_of_closes hrest
  | dateTime hd hc ht ho =>
      rw [List.append_assoc, read?, date?_append hd, List.cons_append, List.append_assoc]
      exact afterDate_mark hc (clock?_append ht ho hrest)
  | time ht =>
      rw [read?, date?_eq_none ht]
      exact time?_append ht (hrest.beginsNot rfl) (hrest.beginsNot rfl)

theorem exists_spells {t rest : Text} (hread : read? t = some rest) :
    ∃ w, t = w ++ rest ∧ Spells w := by
  unfold read? at hread
  split at hread
  · next after hdate =>
      obtain ⟨d, rfl, hd⟩ := exists_date hdate
      have hclock {c : Char} {more : Text} (hc : c = 'T' ∨ c = 't' ∨ c = ' ')
          (hmore : clock? more = some rest) : ∃ w, d ++ c :: more = w ++ rest ∧ Spells w := by
        obtain ⟨t, o, rfl, ht, ho⟩ := exists_clock hmore
        exact ⟨_, by simp, .dateTime hd hc ht ho⟩
      unfold afterDate at hread
      dsimp only at hread
      split at hread
      · exact hclock (.inl rfl) hread
      · exact hclock (.inr (.inl rfl)) hread
      · next more =>
          injection hread with hread
          cases hmore : clock? more with
          | some last =>
              rw [← clock?, hmore] at hread
              exact hclock (.inr (.inr rfl)) (hmore.trans (congrArg some hread))
          | none =>
              rw [← clock?, hmore] at hread
              exact ⟨d, congrArg (d ++ ·) hread, .date hd⟩
      · cases hread
        exact ⟨d, rfl, .date hd⟩
  · obtain ⟨w, rfl, hw⟩ := exists_time hread
    exact ⟨w, rfl, .time hw⟩

/-! ## What is no moment -/

/-- Whether a character stands between the first numbers of a date or a time. -/
def isJoint (c : Char) : Bool :=
  c = '-' || c = ':'

theorem Places.beginsNot_joint {count n : Nat} {w : Text} (hw : Places count w n)
    (hcount : count ≠ 0) {c : Char} (hc : isJoint c = true) (t : Text) :
    ¬ BeginsNot Char.isDigit (w ++ c :: t) ∧
      ¬ BeginsNot isJoint ((w ++ c :: t).dropWhile Char.isDigit) := by
  have hdigit : c.isDigit = false := by
    simp only [isJoint, Bool.or_eq_true, decide_eq_true_eq] at hc
    rcases hc with rfl | rfl
    · rfl
    · rfl
  constructor
  · intro hbegins
    cases w with
    | nil => exact hcount hw.length.symm
    | cons d w =>
        have hd := hw.digits d List.mem_cons_self
        have hnone : d.isDigit = false := hbegins.of_cons
        rw [hd] at hnone
        cases hnone
  · intro hbegins
    rw [dropWhile_append_of_beginsNot hw.digits (beginsNot_cons hdigit t)] at hbegins
    rw [hbegins.of_cons] at hc
    cases hc

/-- A moment begins with digits and a character that joins these to others. -/
theorem read?_eq_none {t : Text}
    (ht : BeginsNot Char.isDigit t ∨ BeginsNot isJoint (t.dropWhile Char.isDigit)) :
    read? t = none := by
  cases hread : read? t with
  | none => rfl
  | some rest =>
      exfalso
      obtain ⟨w, rfl, hw⟩ := exists_spells hread
      have hdate {d more : Text} (hd : Date d) (ht : BeginsNot Char.isDigit (d ++ more) ∨
          BeginsNot isJoint ((d ++ more).dropWhile Char.isDigit)) : False := by
        cases hd with
        | ymd hy hm hd =>
            rw [List.append_assoc, List.cons_append] at ht
            obtain ⟨hdigit, hjoint⟩ := hy.beginsNot_joint nofun (c := '-') rfl _
            exact ht.elim hdigit hjoint
      cases hw with
      | date hd => exact hdate hd ht
      | dateTime hd hc _ _ =>
          rw [List.append_assoc] at ht
          exact hdate hd ht
      | time hw =>
          cases hw with
          | hms hh hm hs hf =>
              rw [List.append_assoc, List.cons_append] at ht
              obtain ⟨hdigit, hjoint⟩ := hh.places.beginsNot_joint nofun (c := ':') rfl _
              exact ht.elim hdigit hjoint

end Moment

end OperatorNames.Toml
