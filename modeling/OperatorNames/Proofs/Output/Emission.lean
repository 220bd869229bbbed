import OperatorNames.Output
import OperatorNames.Proofs.Document.WholeScan
import OperatorNames.Proofs.Operator.Names
import OperatorNames.Proofs.Text.Utf8
import OperatorNames.Proofs.Token.Leftmost

/-!
# Lines of output

What has been written once every item is an operator that was written: one line for each, and no
line feed but the one that ends it (`count_flatMap_line`), since neither a token nor its name can
have one.
-/

namespace OperatorNames

open Text

/-! ## No line feed within a line -/

/-- An ASCII character of a name that is no capital letter is one of the token. -/
theorem mem_token_of_mem_name {token : Text} {c : Char} (hc : c ∈ nameOfToken token)
    (hascii : ¬ IsUpperTarget c.toNat) : c ∈ token := by
  obtain ⟨d, hd, -, rfl | hupper⟩ := exists_of_mem_name hc
  · exact hd
  · rw [eq_of_mem_upper hupper hascii]
    exact hd

/-- A token that is found has token characters only. -/
theorem Token.isTokenChar_of_first? {t token : Text} {c : Char}
    (htoken : Token.first? t = some token) (hc : c ∈ token) : Token.isTokenChar c = true := by
  obtain ⟨before, after, hleftmost⟩ := Token.first?_eq_some_iff.mp htoken
  exact Token.isTokenChar_iff.mpr (hleftmost.chars c hc)

/-- An operator whose token has token characters only. -/
def Operator.IsScanned (op : Operator) : Prop :=
  op.name = nameOfToken op.token ∧ ∀ c ∈ op.token, Token.isTokenChar c = true

theorem Scan.isScanned_of_mem_operatorsOf {texts : List Text} {op : Operator}
    (hop : op ∈ Scan.operatorsOf texts) : op.IsScanned := by
  obtain ⟨token, htoken, rfl⟩ := List.mem_map.mp hop
  obtain ⟨text, -, hfirst⟩ := List.mem_filterMap.mp htoken
  exact ⟨rfl, fun c hc => Token.isTokenChar_of_first? hfirst hc⟩

theorem lineFeed_not_mem_render {op : Operator} (hop : op.IsScanned) (style : Style) :
    '\n' ∉ style.render op := by
  obtain ⟨hname, hchars⟩ := hop
  have htoken : '\n' ∉ op.token := by
    intro hmem
    have := hchars '\n' hmem
    revert this
    decide
  have hname : '\n' ∉ op.name := by
    rw [hname]
    intro hmem
    exact htoken (mem_token_of_mem_name hmem (by decide))
  cases style with
  | listEntry => simp [Style.render, hname]
  | pair => simp [Style.render, hname, htoken]

theorem count_line {op : Operator} (hop : op.IsScanned) (style : Style) :
    (style.line op).count 0x0A = 1 := by
  unfold Style.line
  rw [Utf8.count_encode (by decide), List.count_append]
  show (style.render op).count '\n' + [('\n' : Char)].count '\n' = 1
  rw [List.count_eq_zero_of_not_mem (lineFeed_not_mem_render hop style)]
  rfl

/-- The lines of operators have as many line feeds as there are operators. -/
theorem count_flatMap_line {ops : List Operator} (hops : ∀ op ∈ ops, op.IsScanned) (style : Style) :
    (ops.flatMap style.line).count 0x0A = ops.length := by
  induction ops with
  | nil => rfl
  | cons op rest ih =>
      rw [List.flatMap_cons, List.count_append, count_line (hops op List.mem_cons_self),
        ih fun other hother => hops other (List.mem_cons_of_mem op hother), List.length_cons]
      omega

/-! ## What is written -/

theorem Writer.taken_of_write_ok {w w' : Writer} {b : Bytes} (hwrite : w.write b = (.ok (), w')) :
    w'.taken = w.taken ++ b := by
  unfold Writer.write at hwrite
  split at hwrite
  · cases hwrite
    rfl
  · split at hwrite
    · cases hwrite
      rfl
    · cases hwrite

theorem Writer.taken_flush (w : Writer) : w.flush.2.taken = w.taken := by
  unfold Writer.flush
  dsimp only
  split <;> rfl

/-- Where nothing fails, every item is an operator and the line of each has been written. -/
theorem emitFrom_ok {style : Style} {w : Writer} {count n : Nat} {items : List Item}
    (hok : (emitFrom style w count items).result = .ok n) :
    ∃ ops : List Operator, items = ops.map .ok ∧ n = count + ops.length ∧
      (emitFrom style w count items).writer.taken = w.taken ++ ops.flatMap style.line := by
  induction items generalizing w count with
  | nil =>
      cases hok
      exact ⟨[], rfl, rfl, (List.append_nil _).symm⟩
  | cons item rest ih =>
      cases item with
      | error problem => cases hok
      | ok op =>
          rw [emitFrom] at hok ⊢
          cases hwrite : w.write (style.line op) with
          | mk outcome written =>
              rw [hwrite] at hok
              cases outcome with
              | error fault => cases hok
              | ok =>
                  dsimp only at hok ⊢
                  have hflushed := Writer.taken_flush written
                  cases hflush : written.flush with
                  | mk outcome flushed =>
                      rw [hflush] at hok hflushed
                      cases outcome with
                      | error fault => cases hok
                      | ok =>
                          dsimp only at hok hflushed ⊢
                          -- the line was taken whole and flushed; the rest follows it
                          obtain ⟨ops, hops, hn, htaken⟩ := ih hok
                          refine ⟨op :: ops, ?_, ?_, ?_⟩
                          · rw [hops, List.map_cons]
                          · rw [hn, List.length_cons]
                            omega
                          · rw [htaken, hflushed, Writer.taken_of_write_ok hwrite,
                              List.flatMap_cons, List.append_assoc]

end OperatorNames
