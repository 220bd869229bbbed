import OperatorNames.Proofs.Document.Header
import OperatorNames.Proofs.Token.Leftmost

/-!
# The first token of a whole document

A token never reaches over the end of a line: what closes a token candidate on its line is no line
end, and the carriage return that is taken off is no part of one.  So it makes no difference whether
the leftmost token is looked for in a whole document or on its lines, one after the other
(`first?_eq_head?_operators`).
-/

namespace OperatorNames

open Document

namespace Token

variable {mark : Char}

/-- A character that neither belongs to a token nor is a backtick ends every candidate. -/
theorem closed?_append_cons (hchar : isTokenChar mark = false) (hmark : mark ≠ '`')
    (line rest : Text) : closed? (line ++ mark :: rest) = closed? line := by
  have hiff : ∀ token, closed? (line ++ mark :: rest) = some token ↔ closed? line = some token := by
    intro token
    rw [closed?_eq_some_iff, closed?_eq_some_iff]
    constructor
    · rintro ⟨after, hsplit, hne, hchars⟩
      rcases List.append_eq_append_iff.mp hsplit with ⟨more, rfl, hpast⟩ | ⟨more, rfl, hwithin⟩
      · -- the token would reach up to the character or over it
        cases more with
        | nil => exact absurd (List.cons.inj hpast).1 hmark
        | cons c more =>
            obtain ⟨rfl, -⟩ := List.cons.inj hpast
            have hmem : isTokenChar mark = true :=
              hchars mark (List.mem_append_right _ List.mem_cons_self)
            rw [hchar] at hmem
            cases hmem
      · cases more with
        | nil => exact absurd (List.cons.inj hwithin).1.symm hmark
        | cons c more =>
            obtain ⟨rfl, -⟩ := List.cons.inj hwithin
            exact ⟨more, rfl, hne, hchars⟩
    · rintro ⟨after, rfl, htoken⟩
      exact ⟨after ++ mark :: rest, List.append_assoc _ _ _, htoken⟩
  exact Option.ext hiff

/-- What is found before such a character is found; if nothing is, what is found after it. -/
theorem first?_append_cons (hchar : isTokenChar mark = false) (hmark : mark ≠ '`')
    (line rest : Text) : first? (line ++ mark :: rest) = (first? line).or (first? rest) := by
  induction line with
  | nil =>
      rw [List.nil_append]
      exact if_neg hmark
  | cons c line ih =>
      rw [List.cons_append, first?, first?]
      split
      · rw [closed?_append_cons hchar hmark]
        cases closed? line with
        | some token => rfl
        | none => exact ih
      · exact ih

/-- The carriage return of a line end is no part of a token. -/
theorem first?_withoutReturnChar (t : Text) : first? (withoutReturnChar t) = first? t := by
  unfold withoutReturnChar
  split
  · next hlast =>
      obtain ⟨before, rfl⟩ := List.getLast?_eq_some_iff.mp hlast
      rw [List.dropLast_concat, first?_append_unterminated (by decide)]
  · rfl

/-- The leftmost token of a text is the leftmost one of the first line that has one. -/
theorem first?_eq_findSome?_textLines (t : Text) :
    first? t = (textLines t).findSome? first? := by
  induction t using marks_induction '\n' with
  | last t ht =>
      rw [textLines_open ht]
      by_cases hempty : t = []
      · subst hempty
        rfl
      · rw [if_neg hempty, List.findSome?_singleton]
  | line first rest hfirst ih =>
      rw [textLines_line hfirst, first?_append_cons (by decide) (by decide), List.findSome?_cons,
        first?_withoutReturnChar, ih]
      cases Token.first? first with
      | some token => rfl
      | none => rfl

end Token

namespace Scan

theorem lastItem_encode (t : Text) : lastItem (Text.Utf8.encode t) = [] :=
  lastItem_of_readable ((readable_iff _).mpr ⟨t, rfl⟩)

/-- The lines of a text are all read. -/
theorem textsOf_encode (t : Text) : textsOf (Text.Utf8.encode t) = textLines t := by
  unfold textsOf
  rw [octetLines_encode, readableTexts_map_encode]

theorem items_yield_encode (t : Text) : (yield (Text.Utf8.encode t) 0).items =
    (operatorsOf (textLines t)).map .ok := by
  rw [yield_eq, lastItem_encode, textsOf_encode, List.append_nil, List.drop_zero]

theorem operators_yield_encode (t : Text) :
    (yield (Text.Utf8.encode t) 0).operators = operatorsOf (textLines t) := by
  unfold Yield.operators
  rw [items_yield_encode, List.filterMap_map]
  exact List.filterMap_some

/-- **Cutting a document into lines loses no token.**  The leftmost token of a text is the token of
the first operator that a scan of the text delivers, and there is none exactly where the scan delivers
nothing. -/
theorem first?_eq_head?_operators (t : Text) :
    let y := yield (Text.Utf8.encode t) 0
    (∀ token, Token.first? t = some token ↔
      ∃ op rest, y.items = .ok op :: rest ∧ op.token = token) ∧
    ((∃ token, Token.first? t = some token) ↔ y.operators ≠ []) ∧
    (Token.first? t = none ↔ y.items = []) := by
  have hfirst : Token.first? t = (operatorsOf (textLines t)).head?.map (·.token) := by
    unfold operatorsOf
    rw [Token.first?_eq_findSome?_textLines, ← List.head?_filterMap, List.head?_map,
      Option.map_map]
    cases (List.filterMap Token.first? (textLines t)).head? <;> rfl
  dsimp only
  rw [items_yield_encode, operators_yield_encode, hfirst]
  cases operatorsOf (textLines t) with
  | nil =>
      exact ⟨fun token => ⟨nofun, nofun⟩, ⟨nofun, fun h => absurd rfl h⟩, fun _ => rfl, fun _ => rfl⟩
  | cons op rest =>
      refine ⟨fun token => ⟨?_, ?_⟩, ⟨fun _ => List.cons_ne_nil op rest, fun _ => ⟨_, rfl⟩⟩,
        ⟨nofun, nofun⟩⟩
      · intro htoken
        exact ⟨op, _, rfl, Option.some.inj htoken⟩
      · rintro ⟨op', rest', hitems, rfl⟩
        cases hitems
        rfl

/-- A backtick left open on a line, and a carriage return in the middle of one. -/
example : (yield (Text.Utf8.encode "`a\r\n`b c\r`d.e`".toList) 0).operators =
    [.ofToken "d.e".toList] := by rfl

end Scan

end OperatorNames
