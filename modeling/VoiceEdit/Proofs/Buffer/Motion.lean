import VoiceEdit.Proofs.Buffer.Place

/-!
# Where the cursor can go

Every place that a motion computes lies in the row of lines, whatever count or
destination it is given.

* `inRow_walk`: repeated steps stay in the row.
* `inRow_targetPosition`: so does every destination.
* `offset_stepLeft`, `offset_stepRight`: one step is one character, up to the ends
  of the text.
-/
namespace VoiceEdit.Buffer

open Text Position

variable {b : Buffer} {p : Position}

/-! ## Lines -/

theorem getElem?_line {n : Nat} (h : n < b.lines.length) : b.lines[n]? = some (b.line n) := by
  rw [line, List.getElem?_eq_getElem h, Option.getD_some]

theorem lastLine_lt (h : IsRow b.lines) : b.lastLine < b.lines.length := by
  have := List.length_pos_iff.2 h.1
  unfold lastLine; omega

theorem inRow_of_le {n c : Nat} (hn : n < b.lines.length) (hc : c ≤ b.lineLength n) :
    InRow ⟨n, c⟩ b.lines :=
  ⟨b.line n, getElem?_line hn, hc⟩

theorem inRow_lineStart {n : Nat} (hn : n < b.lines.length) : InRow ⟨n, 0⟩ b.lines :=
  inRow_of_le hn (Nat.zero_le _)

theorem inRow_clampTo {n : Nat} (hn : n < b.lines.length) (c : Nat) :
    (b.clampTo n c).InRow b.lines :=
  inRow_of_le hn (Nat.min_le_right _ _)

theorem inRow_endOfText (h : IsRow b.lines) : b.endOfText.InRow b.lines :=
  inRow_of_le (lastLine_lt h) (Nat.le_refl _)

/-! ## Steps -/

theorem inRow_stepLeft (h : p.InRow b.lines) : (b.stepLeft p).InRow b.lines := by
  have hline := h.line_lt
  have hcol : p.column ≤ b.lineLength p.line := h.column_le
  unfold stepLeft
  split
  · exact inRow_of_le hline (by omega)
  · split
    · exact inRow_of_le (by omega) (Nat.le_refl _)
    · exact h

theorem inRow_stepRight (h : p.InRow b.lines) : (b.stepRight p).InRow b.lines := by
  have hline := h.line_lt
  unfold stepRight
  split
  · exact inRow_of_le hline (by omega)
  · split
    · rename_i hlast
      unfold lastLine at hlast
      exact inRow_lineStart (by omega)
    · exact h

theorem precedes_stepRight : p.precedes (b.stepRight p) = true := by
  rw [precedes_iff]
  unfold stepRight
  split
  · exact .inr ⟨rfl, Nat.le_succ _⟩
  · split
    · exact .inl (Nat.lt_succ_self _)
    · exact .inr ⟨rfl, Nat.le_refl _⟩

/-- The start of a line is one character behind the end of the line before it. -/
theorem offset_nextLine {n : Nat} (h : n < b.lines.length) :
    offset ⟨n + 1, 0⟩ b.lines = offset ⟨n, b.lineLength n⟩ b.lines + 1 := by
  simp only [offset, lineLength, List.take_add_one, getElem?_line h, Option.toList_some,
    List.map_append, List.sum_append, List.map_cons, List.map_nil, List.sum_cons, List.sum_nil]
  omega

/-- One step to the left is one character; at the start of the text it is none. -/
theorem offset_stepLeft (h : p.InRow b.lines) :
    (b.stepLeft p).offset b.lines = p.offset b.lines - 1 := by
  have hlines := h.line_lt
  obtain ⟨n, c⟩ := p
  cases c with
  | succ c =>
    simp only [stepLeft, offset, Nat.succ_pos, if_true]
    omega
  | zero =>
    cases n with
    | zero => simp [stepLeft, offset]
    | succ n =>
      have hbefore : n < b.lines.length := by
        simp only at hlines
        omega
      rw [offset_nextLine hbefore]
      simp [stepLeft]

/-- One step to the right is one character; at the end of the text it is none. -/
theorem offset_stepRight (h : p.InRow b.lines) :
    (b.stepRight p).offset b.lines = min (p.offset b.lines + 1) b.text.length := by
  have hle := (inRow_stepRight h).offset_le
  have hlines := h.line_lt
  have hcolumn : p.column ≤ b.lineLength p.line := h.column_le
  unfold stepRight lastLine at *
  split
  · rename_i hcol
    rw [if_pos hcol] at hle
    simp only [offset] at hle ⊢
    unfold text; omega
  · rename_i hcol
    have hend : p = ⟨p.line, b.lineLength p.line⟩ := by
      rw [← Nat.le_antisymm hcolumn (Nat.not_lt.1 hcol)]
    split
    · rename_i hlast
      rw [if_neg hcol, if_pos hlast, offset_nextLine hlines, ← hend] at hle
      rw [offset_nextLine hlines, ← hend]
      unfold text; omega
    · rename_i hlast
      have hall : b.lines.drop (p.line + 1) = [] := List.drop_eq_nil_of_le (by omega)
      have hafter : p.textAfter b.lines = [] := by
        rw [textAfter, hall, joinLines_singleton]
        exact List.drop_eq_nil_of_le (Nat.not_lt.1 hcol)
      have hbefore := h.textBefore_append_textAfter
      rw [hafter, List.append_nil] at hbefore
      rw [text, ← hbefore, h.length_textBefore]
      omega

theorem inRow_walk {step : Position → Position} {ls : List Text}
    (hstep : ∀ p, p.InRow ls → (step p).InRow ls) (count : Nat) (h : p.InRow ls) :
    (walk step count p).InRow ls := by
  induction count generalizing p with
  | zero => exact h
  | succ count ih =>
    unfold walk
    split
    · exact h
    · exact ih (hstep p h)

/-! ## Destinations -/

theorem length_indentation_le (t : Text) : (indentation t).length ≤ t.length := by
  have h : indentation t <+: t := List.takeWhile_prefix _
  exact h.length_le

theorem isPrefix_trimEnd (t : Text) : trimEnd t <+: t := by
  have h : t.reverse.dropWhile isBlank <:+ t.reverse := List.dropWhile_suffix _
  rw [← List.reverse_prefix, List.reverse_reverse] at h
  exact h

theorem blankLineBefore_lt {n : Nat} (hn : n < b.lines.length) :
    b.blankLineBefore n < b.lines.length := by
  unfold blankLineBefore
  cases hfind : (List.range n).reverse.find? b.isBlankLine with
  | none => simp only [Option.getD_none]; omega
  | some m =>
    have := List.mem_of_find?_eq_some hfind
    simp only [List.mem_reverse, List.mem_range] at this
    simp only [Option.getD_some]; omega

theorem blankLineAfter_lt (h : IsRow b.lines) (n : Nat) : b.blankLineAfter n < b.lines.length := by
  unfold blankLineAfter
  cases hfind : (List.range b.lines.length).find? fun m => n < m && b.isBlankLine m with
  | none => exact lastLine_lt h
  | some m => exact List.mem_range.1 (List.mem_of_find?_eq_some hfind)

theorem inRow_targetPosition (h : IsRow b.lines) (hactive : b.selection.active.InRow b.lines)
    (target : Target) : (b.targetPosition target).InRow b.lines := by
  have hline := hactive.line_lt
  have hlast := lastLine_lt h
  cases target with
  | lineStart => exact inRow_lineStart hline
  | lineEnd => exact inRow_of_le hline (Nat.le_refl _)
  | lineFirstNonBlank => exact inRow_of_le hline (length_indentation_le _)
  | lineLastNonBlank => exact inRow_of_le hline (isPrefix_trimEnd _).length_le
  | fileStart => exact inRow_origin h
  | fileEnd => exact inRow_endOfText h
  | viewPortTop => exact inRow_lineStart (by omega)
  | viewPortBottom => exact inRow_lineStart (by omega)
  | previousBlankLine => exact inRow_lineStart (blankLineBefore_lt hline)
  | nextBlankLine => exact inRow_lineStart (blankLineAfter_lt h _)

end VoiceEdit.Buffer
