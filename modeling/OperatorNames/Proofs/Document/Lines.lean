import OperatorNames.Proofs.Document.Whole
import OperatorNames.Proofs.Text.Utf8

/-!
# The lines of octets

`Whole` says what the lines of a document in pieces are.  This module is about a document that comes
in one piece: its lines (`octetLines`) are read off from the front, a line at a time
(`octetLines_line`, `octetLines_open`), and so facts about them are proved by an induction over the
lines (`octets_induction`).  A document that ends its lines can be followed by another one without
the two running into each other (`octetLines_append`), and the lines of a text's UTF-8 form are the
UTF-8 forms of the text's lines (`octetLines_encode`).
-/

namespace OperatorNames.Document

/-- The lines of octets that come in one piece. -/
def octetLines (b : Bytes) : List Bytes :=
  wholeLines [.octets b]

/-- No line is left open at the end. -/
def EndsLines (b : Bytes) : Prop :=
  b = [] ∨ b.getLast? = some 0x0A

instance (b : Bytes) : Decidable (EndsLines b) :=
  inferInstanceAs (Decidable (_ ∨ _))

/-! ## One line after the other -/

/-- What the octets are up to a mark and after it, for as long as there is a mark. -/
theorem marks_induction {α : Type} [DecidableEq α] (mark : α) {motive : List α → Prop}
    (last : ∀ open_, mark ∉ open_ → motive open_)
    (line : ∀ first rest, mark ∉ first → motive rest → motive (first ++ mark :: rest))
    (whole : List α) : motive whole := by
  by_cases hmark : mark ∈ whole
  · obtain ⟨first, rest, rfl, hfirst⟩ := List.eq_append_cons_of_mem hmark
    exact line first rest hfirst (marks_induction mark last line rest)
  · exact last whole hmark
termination_by whole.length
decreasing_by
  subst_vars
  simp only [List.length_append, List.length_cons]
  omega

theorem octetLines_eq (b : Bytes) : octetLines b =
    completeLines b ++ if openPart b = [] then [] else [openPart b] := by
  have harrived : arrived [.octets b] = b := List.append_nil b
  show wholeLines [.octets b] = _
  unfold wholeLines
  rw [harrived]
  by_cases hopen : openPart b = []
  · simp [hopen]
  · rw [if_pos ⟨hopen, rfl⟩, if_neg hopen]

/-- Octets without a line feed are one line, unless there are none. -/
theorem octetLines_open {b : Bytes} (hb : 0x0A ∉ b) :
    octetLines b = if b = [] then [] else [b] := by
  have hsplit : b.splitOn 0x0A = [b] := List.splitOn_eq_singleton hb
  have hcomplete : completeLines b = [] := by
    unfold completeLines
    rw [hsplit]
    rfl
  have hopen : openPart b = b := by
    unfold openPart
    rw [hsplit]
    rfl
  rw [octetLines_eq, hcomplete, hopen, List.nil_append]

/-- The first line feed ends the first line. -/
theorem octetLines_line {b : Bytes} (hb : 0x0A ∉ b) (rest : Bytes) :
    octetLines (b ++ 0x0A :: rest) = withoutReturn b :: octetLines rest := by
  have hsplit : (b ++ 0x0A :: rest).splitOn 0x0A = b :: rest.splitOn 0x0A :=
    List.splitOn_append_cons_self_of_not_mem hb rest
  obtain ⟨first, more, hmore⟩ := List.exists_cons_of_ne_nil (List.splitOn_ne_nil 0x0A rest)
  have hcomplete : completeLines (b ++ 0x0A :: rest) = withoutReturn b :: completeLines rest := by
    unfold completeLines
    rw [hsplit, hmore]
    rfl
  have hopen : openPart (b ++ 0x0A :: rest) = openPart rest := by
    unfold openPart
    rw [hsplit, hmore]
    rfl
  rw [octetLines_eq, octetLines_eq, hcomplete, hopen, List.cons_append]

/-! ## Octets that end their lines -/

theorem EndsLines.of_line {first rest : Bytes} (h : EndsLines (first ++ 0x0A :: rest)) :
    EndsLines rest := by
  obtain hempty | hlast := h
  · exact absurd hempty (List.append_ne_nil_of_right_ne_nil _ (List.cons_ne_nil _ _))
  · cases rest with
    | nil => exact .inl rfl
    | cons octet more =>
        right
        rw [List.getLast?_append, List.getLast?_cons_cons] at hlast
        cases hmore : (octet :: more).getLast? with
        | none => exact nomatch List.getLast?_eq_none_iff.mp hmore
        | some final => rwa [hmore] at hlast

/-- Octets that end their lines have no line but those with a line feed. -/
theorem EndsLines.eq_nil {b : Bytes} (h : EndsLines b) (hb : 0x0A ∉ b) : b = [] := by
  obtain hempty | hlast := h
  · exact hempty
  · exact absurd (List.mem_of_getLast? hlast) hb

/-- A document after one that ends its lines has its own lines. -/
theorem octetLines_append {d : Bytes} (hended : EndsLines d) (more : Bytes) :
    octetLines (d ++ more) = octetLines d ++ octetLines more := by
  induction d using marks_induction (0x0A : UInt8) with
  | last b hb =>
      obtain rfl := hended.eq_nil hb
      rfl
  | line first rest hfirst ih =>
      rw [List.append_assoc, List.cons_append, octetLines_line hfirst, octetLines_line hfirst,
        ih hended.of_line, List.cons_append]

/-- Octets that end their lines have as many lines as line feeds. -/
theorem length_octetLines {d : Bytes} (hended : EndsLines d) :
    (octetLines d).length = d.count 0x0A := by
  induction d using marks_induction (0x0A : UInt8) with
  | last b hb =>
      obtain rfl := hended.eq_nil hb
      rfl
  | line first rest hfirst ih =>
      rw [octetLines_line hfirst, List.length_cons, ih hended.of_line, List.count_append,
        List.count_eq_zero_of_not_mem hfirst, List.count_cons_self, Nat.zero_add]

/-! ## Texts -/

/-- A text without the carriage return at its end. -/
def withoutReturnChar (t : Text) : Text :=
  if t.getLast? = some '\r' then t.dropLast else t

/-- The lines of a text. -/
def textLines (t : Text) : List Text :=
  let pieces := t.splitOn '\n'
  pieces.dropLast.map withoutReturnChar ++
    if pieces.getLastD [] = [] then [] else [pieces.getLastD []]

theorem textLines_open {t : Text} (ht : '\n' ∉ t) : textLines t = if t = [] then [] else [t] := by
  have hsplit : t.splitOn '\n' = [t] := List.splitOn_eq_singleton ht
  unfold textLines
  rw [hsplit]
  rfl

theorem textLines_line {t : Text} (ht : '\n' ∉ t) (rest : Text) :
    textLines (t ++ '\n' :: rest) = withoutReturnChar t :: textLines rest := by
  have hsplit : (t ++ '\n' :: rest).splitOn '\n' = t :: rest.splitOn '\n' :=
    List.splitOn_append_cons_self_of_not_mem ht rest
  obtain ⟨first, more, hmore⟩ := List.exists_cons_of_ne_nil (List.splitOn_ne_nil '\n' rest)
  unfold textLines
  rw [hsplit, hmore]
  rfl

theorem not_mem_encode {octet : UInt8} {t : Text} (hascii : octet.toNat < 0x80)
    (ht : Char.ofNat octet.toNat ∉ t) : octet ∉ Text.Utf8.encode t := by
  rw [← List.count_eq_zero, Text.Utf8.count_encode hascii, List.count_eq_zero]
  exact ht

theorem encode_cons (c : Char) (t : Text) :
    Text.Utf8.encode (c :: t) = Text.Utf8.encodeChar c ++ Text.Utf8.encode t :=
  List.flatMap_cons

theorem encode_eq_nil {t : Text} (h : Text.Utf8.encode t = []) : t = [] := by
  have hdecode := Text.Utf8.decode_encode t
  rw [h] at hdecode
  exact (Option.some.inj hdecode).symm

theorem encode_line (first rest : Text) : Text.Utf8.encode (first ++ '\n' :: rest) =
    Text.Utf8.encode first ++ 0x0A :: Text.Utf8.encode rest := by
  rw [Text.Utf8.encode_append, encode_cons]
  rfl

/-- The carriage return of a line end is the same octet as it is a character. -/
theorem withoutReturn_encode (t : Text) :
    withoutReturn (Text.Utf8.encode t) = Text.Utf8.encode (withoutReturnChar t) := by
  unfold withoutReturn withoutReturnChar
  cases hlast : t.getLast? with
  | none =>
      obtain rfl := List.getLast?_eq_none_iff.mp hlast
      rfl
  | some c =>
      obtain ⟨before, rfl⟩ := List.getLast?_eq_some_iff.mp hlast
      rw [Text.Utf8.encode_append, List.getLast?_append, List.dropLast_concat]
      by_cases hc : c = '\r'
      · subst hc
        rw [if_pos rfl]
        exact (if_pos rfl).trans List.dropLast_concat
      · have hother : ¬ some c = some '\r' := fun hsame => hc (Option.some.inj hsame)
        rw [if_neg hother, Text.Utf8.encode_append, if_neg]
        intro hoctet
        -- the last octet is one of the last character, which is no carriage return
        cases hchar : (Text.Utf8.encode [c]).getLast? with
        | none => exact nomatch encode_eq_nil (List.getLast?_eq_none_iff.mp hchar)
        | some octet =>
            rw [hchar] at hoctet
            obtain rfl : octet = 0x0D := Option.some.inj hoctet
            exact not_mem_encode (by decide) (by simpa using Ne.symm hc)
              (List.mem_of_getLast? hchar)

/-- The lines of a text as octets are the lines of the octets of the text. -/
theorem octetLines_encode (t : Text) :
    octetLines (Text.Utf8.encode t) = (textLines t).map Text.Utf8.encode := by
  induction t using marks_induction '\n' with
  | last t ht =>
      rw [octetLines_open (not_mem_encode (by decide) ht), textLines_open ht]
      by_cases hempty : t = []
      · subst hempty
        rfl
      · rw [if_neg (mt encode_eq_nil hempty), if_neg hempty]
        rfl
  | line first rest hfirst ih =>
      rw [encode_line, octetLines_line (not_mem_encode (by decide) hfirst), textLines_line hfirst,
        withoutReturn_encode, ih, List.map_cons]

/-- Octets are UTF-8 if each of their lines is. -/
theorem exists_eq_encode {b : Bytes}
    (hlines : ∀ line ∈ octetLines b, ∃ t, line = Text.Utf8.encode t) :
    ∃ t, b = Text.Utf8.encode t := by
  induction b using marks_induction (0x0A : UInt8) with
  | last b hb =>
      rw [octetLines_open hb] at hlines
      by_cases hempty : b = []
      · exact ⟨[], hempty⟩
      · rw [if_neg hempty] at hlines
        exact hlines b List.mem_cons_self
  | line first rest hfirst ih =>
      rw [octetLines_line hfirst] at hlines
      obtain ⟨after, rfl⟩ := ih fun line hline => hlines line (List.mem_cons_of_mem _ hline)
      obtain ⟨text, htext⟩ := hlines _ List.mem_cons_self
      have hfirst : ∃ t, first = Text.Utf8.encode t := by
        unfold withoutReturn at htext
        split at htext
        · next hlast =>
            -- the carriage return that was taken off is a character too
            obtain ⟨before, rfl⟩ := List.getLast?_eq_some_iff.mp hlast
            rw [List.dropLast_concat] at htext
            refine ⟨text ++ ['\r'], ?_⟩
            rw [htext, Text.Utf8.encode_append]
            rfl
        · exact ⟨text, htext⟩
      obtain ⟨t, rfl⟩ := hfirst
      exact ⟨t ++ '\n' :: after, (encode_line t after).symm⟩

end OperatorNames.Document
