import VoiceEdit.Buffer.Editor
import VoiceEdit.Proofs.Text.Lines

/-!
# Places in a row of lines

A place lies in a row if it names a line of it and a column up to the line's
end. Its offset counts the characters before it in the joined text, where every
line that ends before the place brings its line feed along.

* `InRow.take_offset`, `InRow.drop_offset`: the offset cuts the joined text where
  the place cuts the row.
* `textBefore_append_textBetween`: the text between two places lies between their
  offsets, which stand in the order of the places (`offset_le_of_precedes`).
* `InRow.offset_inj`: two places of a row with one offset are one place.
-/
namespace VoiceEdit

open Text

namespace Position

/-- The place names a line of the row and a column up to its end. -/
def InRow (p : Position) (ls : List Text) : Prop := ∃ l, ls[p.line]? = some l ∧ p.column ≤ l.length

/-- The number of characters before a place in the joined lines. -/
def offset (p : Position) (ls : List Text) : Nat :=
  ((ls.take p.line).map fun l => l.length + 1).sum + p.column

/-- The joined lines up to a place. -/
def textBefore (p : Position) (ls : List Text) : Text :=
  joinLines (ls.take p.line ++ [(ls[p.line]?.getD []).take p.column])

/-- The joined lines from a place on. -/
def textAfter (p : Position) (ls : List Text) : Text :=
  joinLines ((ls[p.line]?.getD []).drop p.column :: ls.drop (p.line + 1))

/-! ## A place cuts a row -/

/-- A row is cut at a place into the lines before, the two parts of the line and
the lines behind. -/
theorem InRow.cut {p : Position} {ls : List Text} (h : p.InRow ls) :
    ∃ front l m back, ls = front ++ (l ++ m) :: back ∧ p = ⟨front.length, l.length⟩ := by
  obtain ⟨k, hk, hcol⟩ := h
  obtain ⟨hlt, rfl⟩ := List.getElem?_eq_some_iff.1 hk
  refine ⟨ls.take p.line, ls[p.line].take p.column, ls[p.line].drop p.column, ls.drop (p.line + 1),
    ?_, ?_⟩
  · rw [List.take_append_drop, ← List.drop_eq_getElem_cons hlt, List.take_append_drop]
  · rw [List.length_take_of_le (Nat.le_of_lt hlt), List.length_take_of_le hcol]

section
variable (front back : List Text) (l m : Text)

theorem inRow_cut : InRow ⟨front.length, l.length⟩ (front ++ (l ++ m) :: back) :=
  ⟨l ++ m, by simp, by simp⟩

theorem textBefore_cut :
    textBefore ⟨front.length, l.length⟩ (front ++ (l ++ m) :: back) = joinLines (front ++ [l]) := by
  simp [textBefore]

theorem textAfter_cut :
    textAfter ⟨front.length, l.length⟩ (front ++ (l ++ m) :: back) = joinLines (m :: back) := by
  simp [textAfter]

end

variable {p q : Position} {ls : List Text}

theorem InRow.line_lt (h : p.InRow ls) : p.line < ls.length := by
  obtain ⟨l, hl, -⟩ := h
  exact (List.getElem?_eq_some_iff.1 hl).1

theorem InRow.column_le (h : p.InRow ls) : p.column ≤ (ls[p.line]?.getD []).length := by
  obtain ⟨l, hl, hcol⟩ := h
  rw [hl]
  exact hcol

theorem InRow.textBefore_append_textAfter (h : p.InRow ls) :
    p.textBefore ls ++ p.textAfter ls = joinLines ls := by
  obtain ⟨front, l, m, back, rfl, rfl⟩ := h.cut
  rw [textBefore_cut, textAfter_cut, joinLines_append_cons]

theorem InRow.length_textBefore (h : p.InRow ls) : (p.textBefore ls).length = p.offset ls := by
  obtain ⟨l, hl, hcol⟩ := h
  rw [textBefore, length_joinLines_append, offset, hl, Option.getD_some, List.length_take_of_le hcol]

/-- The offset of a place cuts the text where the place cuts the row. -/
theorem InRow.take_offset (h : p.InRow ls) : (joinLines ls).take (p.offset ls) = p.textBefore ls := by
  rw [← h.textBefore_append_textAfter, ← h.length_textBefore, List.take_left]

theorem InRow.drop_offset (h : p.InRow ls) : (joinLines ls).drop (p.offset ls) = p.textAfter ls := by
  rw [← h.textBefore_append_textAfter, ← h.length_textBefore, List.drop_left]

theorem InRow.offset_le (h : p.InRow ls) : p.offset ls ≤ (joinLines ls).length := by
  rw [← h.textBefore_append_textAfter, ← h.length_textBefore, List.length_append]
  exact Nat.le_add_right _ _

/-- The first place of a row. -/
theorem inRow_origin (h : IsRow ls) : origin.InRow ls := by
  obtain ⟨l, ms, rfl⟩ := List.exists_cons_of_ne_nil h.1
  exact ⟨l, rfl, Nat.zero_le _⟩

/-! ## Order -/

theorem precedes_iff : p.precedes q = true ↔ p.line < q.line ∨ p.line = q.line ∧ p.column ≤ q.column := by
  simp [precedes]

/-- A line that ends before a place counts with its line feed. -/
theorem InRow.offset_lt (h : p.InRow ls) (hline : p.line < q.line) : p.offset ls < q.offset ls := by
  obtain ⟨front, l, m, back, rfl, rfl⟩ := h.cut
  obtain ⟨n, hn⟩ : ∃ n, q.line = front.length + (n + 1) := ⟨q.line - front.length - 1, by
    simp only at hline; omega⟩
  simp only [offset, hn, List.take_left, List.take_length_add_append, List.take_succ_cons,
    List.map_append, List.map_cons, List.sum_append, List.sum_cons, List.length_append]
  omega

theorem InRow.offset_inj (hp : p.InRow ls) (hq : q.InRow ls) (h : p.offset ls = q.offset ls) :
    p = q := by
  obtain ⟨n, c⟩ := p
  obtain ⟨m, d⟩ := q
  -- on different lines the later place would count the whole earlier line
  have hforth : ¬ n < m := fun hlt => by
    have := hp.offset_lt (q := ⟨m, d⟩) hlt
    omega
  have hback : ¬ m < n := fun hlt => by
    have := hq.offset_lt (q := ⟨n, c⟩) hlt
    omega
  obtain rfl : n = m := by omega
  have hcolumn : c = d := Nat.add_left_cancel h
  rw [hcolumn]

theorem precedes_total (h : ¬ p.precedes q = true) : q.precedes p = true := by
  rw [precedes_iff] at h ⊢
  omega

end Position

open Position

namespace Buffer

variable {b : Buffer} {p q : Position}

/-- The text up to the later of two places goes on, after the earlier, with what
is between them. -/
theorem textBefore_append_textBetween (hp : p.InRow b.lines) (hq : q.InRow b.lines)
    (hpq : p.precedes q = true) :
    p.textBefore b.lines ++ b.textBetween p q = q.textBefore b.lines := by
  obtain ⟨l, hl, hcol⟩ := hp
  obtain ⟨m, hm, -⟩ := hq
  unfold textBefore textBetween line
  rw [precedes_iff] at hpq
  by_cases hline : p.line = q.line
  · have hle : p.column ≤ q.column := by omega
    rw [if_pos hline, ← hline, hl, Option.getD_some, ← joinLines_append_singleton]
    have htake : l.take p.column = (l.take q.column).take p.column := by
      rw [List.take_take, Nat.min_eq_left hle]
    rw [htake, List.take_append_drop]
  · have hlt : p.line < q.line := by omega
    obtain ⟨hpl, rfl⟩ := List.getElem?_eq_some_iff.1 hl
    have hrow : b.lines.take q.line = b.lines.take p.line ++
        (b.lines[p.line].take p.column ++ b.lines[p.line].drop p.column) ::
          (b.lines.take q.line).drop (p.line + 1) := by
      have hp' : p.line < (b.lines.take q.line).length := by
        rw [List.length_take]; omega
      have hsplit := List.take_append_drop p.line (b.lines.take q.line)
      rw [List.drop_eq_getElem_cons hp', List.getElem_take, List.take_take,
        Nat.min_eq_left (Nat.le_of_lt hlt)] at hsplit
      rw [List.take_append_drop]
      exact hsplit.symm
    rw [if_neg hline, hl, Option.getD_some, ← joinLines_append_cons, ← List.cons_append,
      ← List.append_assoc, ← hrow]

/-- Offsets stand in the order of the places. -/
theorem offset_le_of_precedes (hp : p.InRow b.lines) (hq : q.InRow b.lines)
    (hpq : p.precedes q = true) : p.offset b.lines ≤ q.offset b.lines := by
  rw [← hp.length_textBefore, ← hq.length_textBefore, ← textBefore_append_textBetween hp hq hpq,
    List.length_append]
  exact Nat.le_add_right _ _

/-- The text between two places is what their offsets enclose. -/
theorem textBetween_eq (hp : p.InRow b.lines) (hq : q.InRow b.lines) (hpq : p.precedes q = true) :
    b.textBetween p q = (b.text.take (q.offset b.lines)).drop (p.offset b.lines) := by
  rw [text, hq.take_offset, ← textBefore_append_textBetween hp hq hpq, ← hp.length_textBefore,
    List.drop_left]

end Buffer

end VoiceEdit
