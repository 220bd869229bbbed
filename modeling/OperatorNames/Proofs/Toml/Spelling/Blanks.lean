import OperatorNames.Proofs.Toml.Quoted
import OperatorNames.Toml.Document

/-!
# How blanks, comments and line ends are written

The grammar of what separates the parts of a document, as predicates on written text: blanks within
a line (`Spaces`), a comment (`Comment`), a line end (`LineFeed`) and any number of these (`Gap`).
The functions that pass over them pass over just such texts, as much as there is.
-/

namespace OperatorNames.Toml

open Text

/-- Blanks within a line. -/
def Spaces (w : Text) : Prop :=
  ∀ c ∈ w, isSpace c = true

/-- A comment, or nothing. -/
inductive Comment : Text → Prop
  | absent : Comment []
  | written {w : Text} (hplain : ∀ c ∈ w, isPlain c = true) : Comment ('#' :: w)

/-- A line end. -/
inductive LineFeed : Text → Prop
  | plain : LineFeed ['\n']
  | withReturn : LineFeed ['\r', '\n']

/-- What may stand around the items of an array: blanks, line ends, and comments up to these. -/
inductive Gap : Text → Prop
  | spaces {s : Text} (hs : Spaces s) : Gap s
  | line {s c f g : Text} (hs : Spaces s) (hc : Comment c) (hf : LineFeed f) (hg : Gap g) :
      Gap (s ++ (c ++ (f ++ g)))

/-- A text does not begin with a character of a kind. -/
def BeginsNot (kind : Char → Bool) (t : Text) : Prop :=
  ∀ c, t.head? = some c → kind c = false

theorem beginsNot_nil (kind : Char → Bool) : BeginsNot kind [] :=
  nofun

theorem beginsNot_cons {kind : Char → Bool} {c : Char} (hc : kind c = false) (t : Text) :
    BeginsNot kind (c :: t) := by
  rintro d hd
  cases hd
  exact hc

theorem BeginsNot.of_cons {kind : Char → Bool} {c : Char} {t : Text}
    (h : BeginsNot kind (c :: t)) : kind c = false :=
  h c rfl

theorem takeWhile_append_of_beginsNot {kind : Char → Bool} {w t : Text}
    (hw : ∀ c ∈ w, kind c = true) (ht : BeginsNot kind t) : (w ++ t).takeWhile kind = w := by
  rw [List.takeWhile_append_of_pos hw]
  cases t with
  | nil => exact List.append_nil w
  | cons c t => rw [List.takeWhile_cons_of_neg (by simp [ht.of_cons]), List.append_nil]

theorem dropWhile_append_of_beginsNot {kind : Char → Bool} {w t : Text}
    (hw : ∀ c ∈ w, kind c = true) (ht : BeginsNot kind t) : (w ++ t).dropWhile kind = t := by
  rw [List.dropWhile_append_of_pos hw]
  cases t with
  | nil => rfl
  | cons c t => rw [List.dropWhile_cons_of_neg (by simp [ht.of_cons])]

theorem beginsNot_dropWhile (kind : Char → Bool) (t : Text) :
    BeginsNot kind (t.dropWhile kind) := by
  intro c hc
  have hneg := List.head?_dropWhile_not kind t
  rw [hc] at hneg
  exact hneg

/-- Each text is as many characters of a kind as there are, and a text that begins with none. -/
theorem exists_eq_append_dropWhile (kind : Char → Bool) (t : Text) :
    ∃ w, t = w ++ t.dropWhile kind ∧ ∀ c ∈ w, kind c = true :=
  ⟨t.takeWhile kind, List.takeWhile_append_dropWhile.symm, List.all_eq_true.mp List.all_takeWhile⟩

/-! ## Blanks within a line -/

theorem Spaces.append {s s' : Text} (hs : Spaces s) (hs' : Spaces s') : Spaces (s ++ s') :=
  List.forall_mem_append.mpr ⟨hs, hs'⟩

theorem Spaces.nil : Spaces [] :=
  nofun

theorem afterSpaces_append {s t : Text} (hs : Spaces s) (ht : BeginsNot isSpace t) :
    afterSpaces (s ++ t) = t :=
  dropWhile_append_of_beginsNot hs ht

theorem exists_spaces (t : Text) : ∃ s, t = s ++ afterSpaces t ∧ Spaces s :=
  exists_eq_append_dropWhile isSpace t

theorem beginsNot_afterSpaces (t : Text) : BeginsNot isSpace (afterSpaces t) :=
  beginsNot_dropWhile isSpace t

/-! ## Comments and line ends -/

theorem afterComment_of_ne {c : Char} (hc : c ≠ '#') (t : Text) :
    afterComment (c :: t) = c :: t := by
  rw [afterComment]
  intro _ heq
  exact hc (List.cons.inj heq).1

theorem afterComment_append {c t : Text} (hc : Comment c) (ht : BeginsNot isPlain t) :
    afterComment (c ++ t) = t := by
  cases hc with
  | absent =>
      cases t with
      | nil => rfl
      | cons d t =>
          refine afterComment_of_ne ?_ t
          rintro rfl
          exact absurd ht.of_cons (by decide)
  | written hplain => exact dropWhile_append_of_beginsNot hplain ht

/-- What is passed over is a comment, after which no more of it comes. -/
theorem exists_comment (t : Text) : ∃ c, t = c ++ afterComment t ∧ Comment c ∧
    (c = [] ∨ BeginsNot isPlain (afterComment t)) := by
  cases t with
  | nil => exact ⟨[], rfl, .absent, .inl rfl⟩
  | cons c t =>
      by_cases hc : c = '#'
      · subst hc
        obtain ⟨w, hw, hplain⟩ := exists_eq_append_dropWhile isPlain t
        refine ⟨'#' :: w, ?_, .written hplain, .inr (beginsNot_dropWhile isPlain t)⟩
        show '#' :: t = '#' :: (w ++ t.dropWhile isPlain)
        rw [← hw]
      · exact ⟨[], (afterComment_of_ne hc t).symm, .absent, .inl rfl⟩

theorem lineEnd?_append {f : Text} (hf : LineFeed f) (t : Text) : lineEnd? (f ++ t) = some t := by
  cases hf with
  | plain => rfl
  | withReturn => rfl

theorem lineEnd?_eq_some {t rest : Text} (hend : lineEnd? t = some rest) :
    ∃ f, LineFeed f ∧ t = f ++ rest := by
  unfold lineEnd? at hend
  split at hend
  · cases hend
    exact ⟨_, .plain, rfl⟩
  · cases hend
    exact ⟨_, .withReturn, rfl⟩
  · cases hend

theorem LineFeed.exists_cons {f : Text} (hf : LineFeed f) :
    ∃ c more, f = c :: more ∧ isPlain c = false ∧ isSpace c = false := by
  cases hf with
  | plain => exact ⟨_, _, rfl, rfl, rfl⟩
  | withReturn => exact ⟨_, _, rfl, rfl, rfl⟩

theorem LineFeed.beginsNot_plain {f : Text} (hf : LineFeed f) (t : Text) :
    BeginsNot isPlain (f ++ t) := by
  obtain ⟨c, more, rfl, hplain, -⟩ := hf.exists_cons
  exact beginsNot_cons hplain _

/-- A character that may stand in a line ends none. -/
theorem lineEnd?_of_isPlain {c : Char} (hc : isPlain c = true) (t : Text) :
    lineEnd? (c :: t) = none := by
  refine lineEnd?_cons ?_ (Quoted.ne_return_of_isPlain hc) t
  rintro rfl
  cases hc

theorem Comment.beginsNot_space {c t : Text} (hc : Comment c) (ht : BeginsNot isSpace t) :
    BeginsNot isSpace (c ++ t) := by
  cases hc with
  | absent => exact ht
  | written hplain => exact beginsNot_cons rfl _

theorem LineFeed.beginsNot_space {f : Text} (hf : LineFeed f) (t : Text) :
    BeginsNot isSpace (f ++ t) := by
  obtain ⟨c, more, rfl, -, hspace⟩ := hf.exists_cons
  exact beginsNot_cons hspace _

/-! ## Gaps -/

/-- Whether a character may begin what comes after a gap. -/
def endsGap (c : Char) : Bool :=
  isPlain c && !isSpace c && c ≠ '#'

/-- What comes after a gap: something, and no blank, comment or line end. -/
def AfterGap (t : Text) : Prop :=
  ∃ c more, t = c :: more ∧ endsGap c = true

theorem AfterGap.beginsNot_space {t : Text} (h : AfterGap t) : BeginsNot isSpace t := by
  obtain ⟨c, more, rfl, hc⟩ := h
  simp only [endsGap, Bool.and_eq_true, Bool.not_eq_true'] at hc
  exact beginsNot_cons hc.1.2 more

theorem AfterGap.afterComment {t : Text} (h : AfterGap t) : afterComment t = t := by
  obtain ⟨c, more, rfl, hc⟩ := h
  simp only [endsGap, Bool.and_eq_true, decide_eq_true_eq] at hc
  exact afterComment_of_ne hc.2 more

theorem AfterGap.lineEnd? {t : Text} (h : AfterGap t) : lineEnd? t = none := by
  obtain ⟨c, more, rfl, hc⟩ := h
  simp only [endsGap, Bool.and_eq_true] at hc
  exact lineEnd?_of_isPlain hc.1.1 more

theorem afterGap_zero (t : Text) : afterGap 0 t = afterComment (afterSpaces t) := by
  unfold afterGap
  rfl

/-- Where a line ends, the gap goes on after it. -/
theorem afterGap_of_lineEnd {t rest : Text}
    (hend : lineEnd? (afterComment (afterSpaces t)) = some rest) (fuel : Nat) :
    afterGap (fuel + 1) t = afterGap fuel rest := by
  conv => lhs; unfold afterGap
  dsimp only
  rw [hend]

/-- Where no line ends, the gap does. -/
theorem afterGap_of_not_lineEnd {t : Text} (hend : lineEnd? (afterComment (afterSpaces t)) = none)
    (fuel : Nat) : afterGap fuel t = afterComment (afterSpaces t) := by
  cases fuel with
  | zero => exact afterGap_zero t
  | succ fuel =>
      unfold afterGap
      dsimp only
      rw [hend]

theorem afterGap_append {g t : Text} (hg : Gap g) (ht : AfterGap t) {fuel : Nat}
    (hfuel : g.length ≤ fuel) : afterGap fuel (g ++ t) = t := by
  induction hg generalizing fuel with
  | @spaces s hs =>
      have hhere : afterComment (afterSpaces (s ++ t)) = t := by
        rw [afterSpaces_append hs ht.beginsNot_space, ht.afterComment]
      have hend : lineEnd? (afterComment (afterSpaces (s ++ t))) = none := by
        rw [hhere]
        exact ht.lineEnd?
      rw [afterGap_of_not_lineEnd hend, hhere]
  | @line s c f g hs hc hf hg ih =>
      obtain ⟨d, more, hd, -, -⟩ := hf.exists_cons
      have hhere : afterComment (afterSpaces (s ++ (c ++ (f ++ g)) ++ t)) = f ++ (g ++ t) := by
        rw [List.append_assoc, List.append_assoc, List.append_assoc,
          afterSpaces_append hs (hc.beginsNot_space (hf.beginsNot_space _)),
          afterComment_append hc (hf.beginsNot_plain _)]
      have hlength : f.length = more.length + 1 := by rw [hd, List.length_cons]
      simp only [List.length_append] at hfuel
      cases fuel with
      | zero => omega
      | succ fuel =>
          have hend : lineEnd? (afterComment (afterSpaces (s ++ (c ++ (f ++ g)) ++ t))) =
              some (g ++ t) := by
            rw [hhere]
            exact lineEnd?_append hf _
          rw [afterGap_of_lineEnd hend]
          exact ih (by omega)

/-- What is passed over is a gap, unless nothing comes after it that could be an item or a mark. -/
theorem exists_gap (fuel : Nat) (t : Text) :
    (∃ g, Gap g ∧ t = g ++ afterGap fuel t) ∨ BeginsNot isPlain (afterGap fuel t) := by
  -- where the gap ends here, it is blanks, or a comment that nothing follows
  have hends (t : Text) : (∃ g, Gap g ∧ t = g ++ afterComment (afterSpaces t)) ∨
      BeginsNot isPlain (afterComment (afterSpaces t)) := by
    obtain ⟨s, hs, hspaces⟩ := exists_spaces t
    obtain ⟨c, hc, -, rfl | hplain⟩ := exists_comment (afterSpaces t)
    · exact .inl ⟨s, .spaces hspaces, hs.trans (congrArg (s ++ ·) hc)⟩
    · exact .inr hplain
  induction fuel generalizing t with
  | zero =>
      rw [afterGap_zero]
      exact hends t
  | succ fuel ih =>
      cases hend : lineEnd? (afterComment (afterSpaces t)) with
      | none =>
          rw [afterGap_of_not_lineEnd hend]
          exact hends t
      | some rest =>
          rw [afterGap_of_lineEnd hend]
          obtain ⟨s, hs, hspaces⟩ := exists_spaces t
          obtain ⟨c, hc, hcomment, -⟩ := exists_comment (afterSpaces t)
          obtain ⟨f, hf, hline⟩ := lineEnd?_eq_some hend
          rcases ih rest with ⟨g, hg, hrest⟩ | hplain
          · left
            refine ⟨s ++ (c ++ (f ++ g)), .line hspaces hcomment hf hg, ?_⟩
            rw [List.append_assoc, List.append_assoc, List.append_assoc, ← hrest, ← hline, ← hc,
              ← hs]
          · exact .inr hplain

/-! ## The end of a value -/

/-- Whether a character ends a line or the value before it. -/
def closesValue (c : Char) : Bool :=
  c = '#' || c = '\n' || c = '\r' || c = ',' || c = ']' || c = '}'

/-- What may follow a value: blanks, and then a comment, a line end, a mark or nothing. -/
def Closes (rest : Text) : Prop :=
  ∀ c, (afterSpaces rest).head? = some c → closesValue c = true

/-- The characters of which one stands right after a value, if anything does. -/
def enders : Text :=
  [' ', '\t', '#', '\n', '\r', ',', ']', '}']

theorem mem_enders {c : Char} (hc : isSpace c = true ∨ closesValue c = true) : c ∈ enders := by
  simp only [isSpace, closesValue, Bool.or_eq_true, decide_eq_true_eq, or_assoc] at hc
  simpa only [enders, List.mem_cons, List.not_mem_nil, or_false] using hc

/-- Characters that are not among these do not begin what follows a value. -/
theorem Closes.beginsNot {rest : Text} (h : Closes rest) {kind : Char → Bool}
    (hkind : enders.any kind = false) : BeginsNot kind rest := by
  intro c hc
  have hmem : c ∈ enders := by
    apply mem_enders
    by_cases hspace : isSpace c = true
    · exact .inl hspace
    · right
      refine h c ?_
      obtain ⟨more, rfl⟩ := List.head?_eq_some_iff.mp hc
      rw [afterSpaces, List.dropWhile_cons_of_neg hspace]
      exact hc
  simpa using List.any_eq_false.mp hkind c hmem

theorem closes_append {s rest : Text} (hs : Spaces s)
    (hrest : ∀ c, rest.head? = some c → closesValue c = true) : Closes (s ++ rest) := by
  have hbegins : BeginsNot isSpace rest := by
    intro c hc
    have hcloses := hrest c hc
    simp only [closesValue, Bool.or_eq_true, decide_eq_true_eq] at hcloses
    rcases hcloses with ((((rfl | rfl) | rfl) | rfl) | rfl) | rfl <;> rfl
  intro c hc
  rw [afterSpaces_append hs hbegins] at hc
  exact hrest c hc

theorem closes_lineFeed {s c f : Text} (hs : Spaces s) (hc : Comment c) (hf : LineFeed f)
    (t : Text) : Closes (s ++ (c ++ (f ++ t))) := by
  refine closes_append hs fun d hd => ?_
  cases hc with
  | written hplain =>
      cases hd
      rfl
  | absent =>
      cases hf with
      | plain =>
          cases hd
          rfl
      | withReturn =>
          cases hd
          rfl

end OperatorNames.Toml
