import OperatorNames.Proofs.Text.Pieces
import OperatorNames.Proofs.Toml.Lines
import OperatorNames.Proofs.Toml.Spelling.Moments
import OperatorNames.Proofs.Toml.Spelling.Numbers
import OperatorNames.Proofs.Toml.Spelling.Strings
import OperatorNames.Proofs.Toml.Unplaced

/-!
# How keys and values without parts are written

A value without parts is told by its first character, or else by the order in which the kinds are
tried: no whole number and no floating-point number is written as a moment, and no whole number as a
floating-point one (`scalar?_append`).
-/

namespace OperatorNames.Toml

open Text

/-- A value without parts. -/
inductive SpellsScalar : Text → Scalar → Prop
  | string {w t : Text} (hw : Quoted.Spells w t) : SpellsScalar w (.string t)
  | integer {w : Text} {n : Int} (hw : Number.SpellsInteger w n) : SpellsScalar w (.integer n)
  | float {w : Text} {x : Binary64} (hw : Number.SpellsFloat w x) : SpellsScalar w (.float x)
  | moment {w : Text} (hw : Moment.Spells w) : SpellsScalar w .moment
  | yes : SpellsScalar ['t', 'r', 'u', 'e'] (.boolean true)
  | no : SpellsScalar ['f', 'a', 'l', 's', 'e'] (.boolean false)

/-- A part of a key. -/
inductive SpellsPart : Text → Text → Prop
  | bare {w : Text} (hne : w ≠ []) (hbare : ∀ c ∈ w, isBare c = true) : SpellsPart w w
  | quoted {w name : Text} (hw : Quoted.SpellsShort w name) : SpellsPart w name

/-- A part of a key that stands nowhere. -/
def Key.named (name : Text) : Key := ⟨name, .nowhere⟩

/-- A key of at most so many parts: all parts but the last one, and the last. -/
inductive SpellsKey : Nat → Text → List Key → Key → Prop
  | last {most : Nat} {s w s' name : Text} (hs : Spaces s) (hw : SpellsPart w name)
      (hs' : Spaces s') : SpellsKey (most + 1) (s ++ (w ++ s')) [] (.named name)
  | dot {most : Nat} {s w s' v name : Text} {path : List Key} {key : Key} (hs : Spaces s)
      (hw : SpellsPart w name) (hs' : Spaces s') (hv : SpellsKey most v path key) :
      SpellsKey (most + 1) (s ++ (w ++ (s' ++ '.' :: v))) (.named name :: path) key

/-! ## First characters -/

theorem Number.isDigit_ten_iff {c : Char} : Number.isDigit 10 c = true ↔ c.isDigit = true := by
  refine ⟨fun hc => ?_, Number.isDigit_ten⟩
  unfold Number.isDigit hexDigit? at hc
  split at hc
  · next d hd =>
      have hlow : d < 10 := of_decide_eq_true hc
      split at hd
      · next hrange =>
          exact Bool.and_eq_true_iff.mpr ⟨decide_eq_true hrange.1, decide_eq_true hrange.2⟩
      · split at hd
        · next hrange =>
            have hle : 97 ≤ c.toNat := hrange.1
            cases hd
            omega
        · split at hd
          · next hrange =>
              have hle : 65 ≤ c.toNat := hrange.1
              cases hd
              omega
          · cases hd
  · cases hc

/-- Whether a character begins a number or a moment. -/
def beginsNumber (c : Char) : Bool :=
  c.isDigit || c = '+' || c = '-' || c = 'i' || c = 'n'

theorem beginsNumber_of_isDigit {c : Char} (hc : c.isDigit = true) : beginsNumber c = true := by
  simp only [beginsNumber, hc, Bool.true_or]

theorem Quoted.SpellsShort.exists_cons {w t : Text} (hw : Quoted.SpellsShort w t) :
    ∃ c more, w = c :: more ∧ (c = '"' ∨ c = '\x27') := by
  cases hw with
  | basic hw => exact ⟨_, _, rfl, .inl rfl⟩
  | literal hw => exact ⟨_, _, rfl, .inr rfl⟩

theorem Quoted.Spells.exists_cons {w t : Text} (hw : Quoted.Spells w t) :
    ∃ c more, w = c :: more ∧ (c = '"' ∨ c = '\x27') := by
  cases hw with
  | short hw => exact hw.exists_cons
  | longBasic hw => exact ⟨_, _, rfl, .inl rfl⟩
  | longLiteral hw => exact ⟨_, _, rfl, .inr rfl⟩

/-- A text begins with a character that begins numbers. -/
def BeginsNumber (w : Text) : Prop :=
  ∃ c more, w = c :: more ∧ beginsNumber c = true

/-- With a sign a number begins with it, and else with what comes first. -/
theorem Number.Sign.beginsNumber {s w : Text} {negative : Bool} (hs : Number.Sign s negative)
    (hw : BeginsNumber w) : BeginsNumber (s ++ w) := by
  cases hs with
  | absent => exact hw
  | plus => exact ⟨_, _, rfl, rfl⟩
  | minus => exact ⟨_, _, rfl, rfl⟩

theorem Number.Whole.beginsNumber {w ds : Text} (hw : Number.Whole w ds) (t : Text) :
    BeginsNumber (w ++ t) := by
  obtain ⟨c, more, rfl, hc⟩ := hw.exists_cons
  exact ⟨c, more ++ t, rfl, beginsNumber_of_isDigit (Number.isDigit_ten_iff.mp hc)⟩

theorem Number.SpellsInteger.beginsNumber {w : Text} {n : Int} (hw : Number.SpellsInteger w n) :
    BeginsNumber w := by
  cases hw with
  | decimal hs hw _ _ =>
      have hbegins := hs.beginsNumber (hw.beginsNumber [])
      rwa [List.append_nil] at hbegins
  | marked _ _ _ => exact ⟨_, _, rfl, rfl⟩

theorem Number.SpellsFloat.beginsNumber {w : Text} {x : Binary64} (hw : Number.SpellsFloat w x) :
    BeginsNumber w := by
  cases hw with
  | infinite hs => exact hs.beginsNumber ⟨_, _, rfl, rfl⟩
  | undefined hs => exact hs.beginsNumber ⟨_, _, rfl, rfl⟩
  | decimal hs hh _ _ _ _ => exact hs.beginsNumber (hh.beginsNumber _)

theorem Moment.Places.beginsNumber {count n : Nat} {w : Text} (hw : Moment.Places count w n)
    (hcount : count ≠ 0) (t : Text) : BeginsNumber (w ++ t) := by
  cases w with
  | nil => exact absurd hw.length.symm hcount
  | cons c w => exact ⟨c, _, rfl, beginsNumber_of_isDigit (hw.digits c List.mem_cons_self)⟩

theorem Moment.Spells.beginsNumber {w : Text} (hw : Moment.Spells w) : BeginsNumber w := by
  cases hw with
  | date hd =>
      cases hd with
      | ymd hy _ _ => exact hy.beginsNumber nofun _
  | dateTime hd _ _ _ =>
      cases hd with
      | ymd hy _ _ =>
          rw [List.append_assoc]
          exact hy.beginsNumber nofun _
  | time ht =>
      cases ht with
      | hms hh _ _ _ => exact hh.places.beginsNumber nofun _

/-! ## Numbers that are no moments -/

/-- A text that does not begin like a moment. -/
def NoMoment (t : Text) : Prop :=
  BeginsNot Char.isDigit t ∨ BeginsNot Moment.isJoint (t.dropWhile Char.isDigit)

theorem beginsNot_joint_digit {c : Char} {t : Text} (hc : Moment.isJoint c = false)
    (ht : BeginsNot Moment.isJoint (t.dropWhile Char.isDigit)) :
    BeginsNot Moment.isJoint ((c :: t).dropWhile Char.isDigit) := by
  rw [List.dropWhile_cons]
  split
  · exact ht
  · exact beginsNot_cons hc t

theorem Number.not_isJoint {base : Nat} {c : Char} (hc : Number.isDigit base c = true) :
    Moment.isJoint c = false := by
  rw [Moment.isJoint, Bool.or_eq_false_iff, decide_eq_false_iff_not, decide_eq_false_iff_not]
  constructor
  · rintro rfl
    cases hc
  · rintro rfl
    cases hc

theorem Number.MoreDigits.beginsNot_joint {base : Nat} {w ds t : Text}
    (hw : Number.MoreDigits base w ds)
    (ht : BeginsNot Moment.isJoint (t.dropWhile Char.isDigit)) :
    BeginsNot Moment.isJoint ((w ++ t).dropWhile Char.isDigit) := by
  induction hw with
  | nil => exact ht
  | digit hc _ ih => exact beginsNot_joint_digit (Number.not_isJoint hc) ih
  | apart _ _ _ => exact beginsNot_cons rfl _

/-- A number is no moment if what follows its first digits goes on with neither. -/
theorem noMoment_of_whole {s w ds t : Text} {negative : Bool} (hs : Number.Sign s negative)
    (hw : Number.Whole w ds) (ht : BeginsNot (fun c => c.isDigit || Moment.isJoint c) t) :
    NoMoment (s ++ (w ++ t)) := by
  have hafter : BeginsNot Moment.isJoint (t.dropWhile Char.isDigit) := by
    cases t with
    | nil => exact beginsNot_nil _
    | cons c t =>
        obtain ⟨hdigit, hjoint⟩ := Bool.or_eq_false_iff.mp ht.of_cons
        rw [List.dropWhile_cons_of_neg (by simp [hdigit])]
        exact beginsNot_cons hjoint t
  cases hs with
  | plus => exact .inl (beginsNot_cons rfl _)
  | minus => exact .inl (beginsNot_cons rfl _)
  | absent =>
      right
      cases hw with
      | zero => exact beginsNot_joint_digit rfl hafter
      | digits _ hw =>
          cases hw with
          | run hc hw =>
              exact beginsNot_joint_digit (Number.not_isJoint hc) (hw.beginsNot_joint hafter)

theorem Number.SpellsInteger.noMoment {w rest : Text} {n : Int} (hw : Number.SpellsInteger w n)
    (hrest : Closes rest) : NoMoment (w ++ rest) := by
  cases hw with
  | decimal hs hw _ _ =>
      rw [List.append_assoc]
      exact noMoment_of_whole hs hw (hrest.beginsNot rfl)
  | marked hmark _ _ =>
      cases hmark with
      | hexadecimal => exact noMoment_of_whole .absent .zero (beginsNot_cons rfl _)
      | octal => exact noMoment_of_whole .absent .zero (beginsNot_cons rfl _)
      | binary => exact noMoment_of_whole .absent .zero (beginsNot_cons rfl _)

theorem Number.SpellsFloat.noMoment {w rest : Text} {x : Binary64} (hw : Number.SpellsFloat w x)
    (hrest : Closes rest) : NoMoment (w ++ rest) := by
  have hword {s v : Text} {negative : Bool} (hs : Number.Sign s negative)
      (hv : BeginsNot Char.isDigit v) : NoMoment (s ++ v) := by
    cases hs with
    | absent => exact .inl hv
    | plus => exact .inl (beginsNot_cons rfl _)
    | minus => exact .inl (beginsNot_cons rfl _)
  cases hw with
  | infinite hs =>
      rw [List.append_assoc]
      exact hword hs (beginsNot_cons rfl _)
  | undefined hs =>
      rw [List.append_assoc]
      exact hword hs (beginsNot_cons rfl _)
  | decimal hs hh hf he _ _ =>
      rw [List.append_assoc, List.append_assoc, List.append_assoc]
      refine noMoment_of_whole hs hh (hf.beginsNot rfl ?_)
      exact he.beginsNot ⟨rfl, rfl⟩ (hrest.beginsNot rfl)

/-! ## Values without parts -/

theorem scalar?_quoted {c : Char} (hc : c = '"' ∨ c = '\x27') (t : Text) :
    scalar? (c :: t) = (Quoted.read? (c :: t)).map fun found => (.string found.1, found.2) := by
  rw [scalar?]
  exact if_pos (by simpa using hc)

theorem scalar?_number {c : Char} (hc : beginsNumber c = true) (t : Text) :
    scalar? (c :: t) =
      match Moment.read? (c :: t) with
      | some rest => some (.moment, rest)
      | none =>
        match Number.float? (c :: t) with
        | some (x, rest) => some (.float x, rest)
        | none => (Number.integer? (c :: t)).map fun found => (.integer found.1, found.2) := by
  have hquote : ¬ (decide (c = '"') || decide (c = '\x27')) = true := by
    simp only [Bool.or_eq_true, decide_eq_true_eq, not_or]
    constructor
    · rintro rfl
      cases hc
    · rintro rfl
      cases hc
  rw [scalar?]
  dsimp only
  rw [if_neg hquote]
  exact if_pos hc

/-- **What the grammar has as a value without parts is read as it**, if the value ends there. -/
theorem scalar?_append {w rest : Text} {value : Scalar} (hw : SpellsScalar w value)
    (hrest : Closes rest) : scalar? (w ++ rest) = some (value, rest) := by
  cases hw with
  | yes => rfl
  | no => rfl
  | string hw =>
      have hread := Quoted.read?_append hw (hrest.beginsNot rfl) (hrest.beginsNot rfl)
      obtain ⟨c, more, rfl, hc⟩ := hw.exists_cons
      rw [List.cons_append] at hread ⊢
      rw [scalar?_quoted hc, hread]
      rfl
  | moment hw =>
      have hread := Moment.read?_append hw hrest
      obtain ⟨c, more, rfl, hc⟩ := hw.beginsNumber
      rw [List.cons_append] at hread ⊢
      rw [scalar?_number hc, hread]
  | float hw =>
      have hmoment := Moment.read?_eq_none (hw.noMoment hrest)
      have hread := Number.float?_append hw hrest
      obtain ⟨c, more, rfl, hc⟩ := hw.beginsNumber
      rw [List.cons_append] at hmoment hread ⊢
      rw [scalar?_number hc, hmoment, hread]
  | integer hw =>
      have hmoment := Moment.read?_eq_none (hw.noMoment hrest)
      have hfloat := hw.float?_eq_none hrest
      have hread := Number.integer?_append hw hrest
      obtain ⟨c, more, rfl, hc⟩ := hw.beginsNumber
      rw [List.cons_append] at hmoment hfloat hread ⊢
      rw [scalar?_number hc, hmoment, hfloat, hread]
      rfl

/-- **What is read as a value without parts is one by the grammar.** -/
theorem exists_spellsScalar {t rest : Text} {value : Scalar}
    (hread : scalar? t = some (value, rest)) : ∃ w, t = w ++ rest ∧ SpellsScalar w value := by
  unfold scalar? at hread
  split at hread
  · cases hread
  · next c more =>
      split at hread
      · obtain ⟨found, hfound, heq⟩ := Option.map_eq_some_iff.mp hread
        cases heq
        obtain ⟨w, hw, hspells⟩ := Quoted.exists_spells hfound
        exact ⟨w, hw, .string hspells⟩
      · split at hread
        · split at hread
          · next hmoment =>
              cases hread
              obtain ⟨w, hw, hspells⟩ := Moment.exists_spells hmoment
              exact ⟨w, hw, .moment hspells⟩
          · split at hread
            · next hfloat =>
                cases hread
                obtain ⟨w, hw, hspells⟩ := Number.exists_spellsFloat hfloat
                exact ⟨w, hw, .float hspells⟩
            · obtain ⟨found, hinteger, heq⟩ := Option.map_eq_some_iff.mp hread
              cases heq
              obtain ⟨w, hw, hspells⟩ := Number.exists_spellsInteger hinteger
              exact ⟨w, hw, .integer hspells⟩
        · split at hread
          · next hyes =>
              cases hread
              exact ⟨_, dropStart?_eq_some hyes, .yes⟩
          · obtain ⟨last, hno, heq⟩ := Option.map_eq_some_iff.mp hread
            cases heq
            exact ⟨_, dropStart?_eq_some hno, .no⟩

/-! ## Keys -/

theorem isPlain_of_isBare {c : Char} (hc : isBare c = true) : isPlain c = true := by
  have hrange (hlow : 0x20 ≤ c.toNat) (hhigh : c.toNat ≤ 0x7E) : isPlain c = true := by
    simp only [isPlain, Bool.or_eq_true, Bool.and_eq_true, decide_eq_true_eq]
    omega
  have hkinds : ((((decide (65 ≤ c.val ∧ c.val ≤ 90) || 97 ≤ c.val && c.val ≤ 122) ||
      48 ≤ c.val && c.val ≤ 57) || c = '_') || c = '-') = true := hc
  simp only [Bool.or_eq_true, Bool.and_eq_true, decide_eq_true_eq] at hkinds
  rcases hkinds with ((((⟨hlow, hhigh⟩ | ⟨hlow, hhigh⟩) | ⟨hlow, hhigh⟩) | rfl) | rfl)
  · have hlow' : 65 ≤ c.toNat := hlow
    have hhigh' : c.toNat ≤ 90 := hhigh
    exact hrange (by omega) (by omega)
  · have hlow' : 97 ≤ c.toNat := hlow
    have hhigh' : c.toNat ≤ 122 := hhigh
    exact hrange (by omega) (by omega)
  · have hlow' : 48 ≤ c.toNat := hlow
    have hhigh' : c.toNat ≤ 57 := hhigh
    exact hrange (by omega) (by omega)
  · rfl
  · rfl

theorem endsGap_of_isBare {c : Char} (hc : isBare c = true) : endsGap c = true := by
  have hcomment : c ≠ '#' := ne_of_isBare hc rfl
  simp [endsGap, isPlain_of_isBare hc, isSpace_of_isBare hc, hcomment]

/-- Whether a character may go on with a key. -/
def keyGoesOn (c : Char) : Bool :=
  isBare c || isSpace c || c = '.'

theorem SpellsPart.exists_cons {w name : Text} (hw : SpellsPart w name) :
    ∃ c more, w = c :: more ∧ (isBare c = true ∨ c = '"' ∨ c = '\x27') := by
  cases hw with
  | quoted hw =>
      obtain ⟨c, more, rfl, hc⟩ := hw.exists_cons
      exact ⟨c, more, rfl, .inr hc⟩
  | bare hne hbare =>
      cases w with
      | nil => exact absurd rfl hne
      | cons c w => exact ⟨c, w, rfl, .inl (hbare c List.mem_cons_self)⟩

theorem SpellsPart.beginsNot_space {w name : Text} (hw : SpellsPart w name) (t : Text) :
    BeginsNot isSpace (w ++ t) := by
  obtain ⟨c, more, rfl, hc⟩ := hw.exists_cons
  refine beginsNot_cons ?_ _
  rcases hc with hbare | rfl | rfl
  · exact isSpace_of_isBare hbare
  · rfl
  · rfl

theorem keyPart?_append {w name t : Text} (hw : SpellsPart w name) (ht : BeginsNot isBare t) :
    ∃ key, keyPart? (w ++ t) = some (key, t) ∧ key.unplaced = .named name := by
  cases hw with
  | quoted hw =>
      refine ⟨⟨name, w ++ t, t⟩, ?_, rfl⟩
      rw [keyPart?, Quoted.readShort?_append hw]
  | bare hne hbare =>
      have hshort : Quoted.readShort? (w ++ t) = none := by
        cases w with
        | nil => exact absurd rfl hne
        | cons c w =>
            have hc := hbare c List.mem_cons_self
            rw [List.cons_append, Quoted.readShort?]
            · exact fun _ heq => ne_of_isBare hc rfl (List.cons.inj heq).1
            · exact fun _ heq => ne_of_isBare hc rfl (List.cons.inj heq).1
      refine ⟨⟨w, w ++ t, t⟩, ?_, rfl⟩
      rw [keyPart?, hshort]
      dsimp only
      rw [takeWhile_append_of_beginsNot hbare ht, dropWhile_append_of_beginsNot hbare ht,
        if_neg (by simpa using hne)]

theorem exists_spellsPart {t rest : Text} {key : Key} (hread : keyPart? t = some (key, rest)) :
    ∃ w, t = w ++ rest ∧ SpellsPart w key.name := by
  unfold keyPart? at hread
  split at hread
  · next hshort =>
      cases hread
      obtain ⟨w, hw, hspells⟩ := Quoted.exists_spellsShort hshort
      exact ⟨w, hw, .quoted hspells⟩
  · dsimp only at hread
    split at hread
    · cases hread
    · next hne =>
        cases hread
        refine ⟨t.takeWhile isBare, List.takeWhile_append_dropWhile.symm, .bare ?_ ?_⟩
        · simpa using hne
        · exact List.all_eq_true.mp List.all_takeWhile

/-- A key begins, after blanks, with a character of a part of a key. -/
theorem SpellsKey.exists_afterSpaces {most : Nat} {k : Text} {path : List Key} {key : Key}
    (hk : SpellsKey most k path key) (t : Text) :
    ∃ c more, afterSpaces (k ++ t) = c :: more ∧ (isBare c = true ∨ c = '"' ∨ c = '\x27') := by
  have hpart {s w name : Text} (hs : Spaces s) (hw : SpellsPart w name) (t : Text) :
      ∃ c more, afterSpaces (s ++ (w ++ t)) = c :: more ∧
        (isBare c = true ∨ c = '"' ∨ c = '\x27') := by
    rw [afterSpaces_append hs (hw.beginsNot_space t)]
    obtain ⟨c, more, rfl, hc⟩ := hw.exists_cons
    exact ⟨c, more ++ t, rfl, hc⟩
  cases hk with
  | last hs hw hs' =>
      rw [List.append_assoc, List.append_assoc]
      exact hpart hs hw _
  | dot hs hw hs' hv =>
      rw [List.append_assoc, List.append_assoc]
      exact hpart hs hw _

/-- A key does not begin with a character that begins no part of one. -/
theorem SpellsKey.afterSpaces_ne {most : Nat} {k : Text} {path : List Key} {key : Key}
    (hk : SpellsKey most k path key) {c : Char}
    (hc : ¬ (isBare c = true ∨ c = '"' ∨ c = '\x27')) (t rest : Text) :
    afterSpaces (k ++ t) ≠ c :: rest := by
  obtain ⟨d, more, hcons, hd⟩ := hk.exists_afterSpaces t
  rw [hcons]
  intro heq
  cases heq
  exact hc hd

section

variable {most : Nat} {t after : Text} {part : Key}
  (hpart : keyPart? (afterSpaces t) = some (part, after))

include hpart

theorem key?_last (hdot : ∀ more, afterSpaces after ≠ '.' :: more) :
    key? (most + 1) t = some (([], part), afterSpaces after) := by
  rw [key?, hpart]
  simp only [Option.bind_eq_bind, Option.bind_some]

theorem key?_dot {more : Text} (hdot : afterSpaces after = '.' :: more) :
    key? (most + 1) t =
      (key? most more).bind fun found => some ((part :: found.1.1, found.1.2), found.2) := by
  rw [key?, hpart]
  simp only [Option.bind_eq_bind, Option.bind_some, hdot]

end

theorem Spaces.beginsNot {s t : Text} (hs : Spaces s) {kind : Char → Bool}
    (hkind : kind ' ' = false ∧ kind '\t' = false) (ht : BeginsNot kind t) :
    BeginsNot kind (s ++ t) := by
  cases s with
  | nil => exact ht
  | cons c s =>
      have hc := hs c List.mem_cons_self
      simp only [isSpace, Bool.or_eq_true, decide_eq_true_eq] at hc
      rcases hc with rfl | rfl
      · exact beginsNot_cons hkind.1 _
      · exact beginsNot_cons hkind.2 _

theorem key?_append {most : Nat} {w t : Text} {path : List Key} {key : Key}
    (hw : SpellsKey most w path key) (ht : BeginsNot keyGoesOn t) :
    ∃ path' key', key? most (w ++ t) = some ((path', key'), t) ∧ path'.map Key.unplaced = path ∧
      key'.unplaced = key := by
  induction hw with
  | @last most s w s' name hs hw hs' =>
      have hbare : BeginsNot isBare t := fun c hc => by
        have hnone := ht c hc
        simp only [keyGoesOn, Bool.or_eq_false_iff] at hnone
        exact hnone.1.1
      have hspace : BeginsNot isSpace t := fun c hc => by
        have hnone := ht c hc
        simp only [keyGoesOn, Bool.or_eq_false_iff] at hnone
        exact hnone.1.2
      obtain ⟨key', hread, hkey⟩ := keyPart?_append hw (Spaces.beginsNot hs' ⟨rfl, rfl⟩ hbare)
      rw [← afterSpaces_append hs (hw.beginsNot_space _)] at hread
      refine ⟨[], key', ?_, rfl, hkey⟩
      rw [List.append_assoc, List.append_assoc, key?_last hread, afterSpaces_append hs' hspace]
      rw [afterSpaces_append hs' hspace]
      rintro more rfl
      exact absurd ht.of_cons (by decide)
  | @dot most s w s' v name path key hs hw hs' hv ih =>
      obtain ⟨path', key', hlater, hpath, hkey⟩ := ih
      have hdot : BeginsNot isBare ('.' :: (v ++ t)) := beginsNot_cons rfl _
      obtain ⟨part, hread, hpart⟩ := keyPart?_append hw (Spaces.beginsNot hs' ⟨rfl, rfl⟩ hdot)
      rw [← afterSpaces_append hs (hw.beginsNot_space _)] at hread
      refine ⟨part :: path', key', ?_, ?_, hkey⟩
      · rw [List.append_assoc, List.append_assoc, List.append_assoc, List.cons_append,
          key?_dot hread (afterSpaces_append hs' (beginsNot_cons rfl _)), hlater]
        rfl
      · rw [List.map_cons, hpart, hpath]

theorem exists_spellsKey {most : Nat} {t rest : Text} {path : List Key} {key : Key}
    (hread : key? most t = some ((path, key), rest)) :
    ∃ w, t = w ++ rest ∧ SpellsKey most w (path.map Key.unplaced) key.unplaced := by
  induction most generalizing t path with
  | zero => cases hread
  | succ most ih =>
      obtain ⟨s, hs, hspaces⟩ := exists_spaces t
      cases hpart : keyPart? (afterSpaces t) with
      | none =>
          rw [key?, hpart] at hread
          cases hread
      | some found =>
          obtain ⟨part, after⟩ := found
          obtain ⟨w, hw, hspells⟩ := exists_spellsPart hpart
          obtain ⟨s', hs', hspaces'⟩ := exists_spaces after
          by_cases hdot : ∃ more, afterSpaces after = '.' :: more
          · obtain ⟨more, hmore⟩ := hdot
            rw [key?_dot hpart hmore] at hread
            obtain ⟨⟨⟨later, last⟩, final⟩, hlater, heq⟩ := Option.bind_eq_some_iff.mp hread
            cases heq
            obtain ⟨v, hv, hkey⟩ := ih hlater
            refine ⟨s ++ (w ++ (s' ++ '.' :: v)), ?_, .dot hspaces hspells hspaces' hkey⟩
            rw [List.append_assoc, List.append_assoc, List.append_assoc, List.cons_append, ← hv,
              ← hmore, ← hs', ← hw, ← hs]
          · have hnone : ∀ more, afterSpaces after ≠ '.' :: more := fun more heq => hdot ⟨more, heq⟩
            rw [key?_last hpart hnone] at hread
            cases hread
            refine ⟨s ++ (w ++ s'), ?_, .last hspaces hspells hspaces'⟩
            rw [List.append_assoc, List.append_assoc, ← hs', ← hw, ← hs]

end OperatorNames.Toml
