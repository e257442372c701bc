import VoiceEdit.Proofs.Buffer.Motion

/-!
# What an edit does to the text

Taking out and putting in are described twice: by the row of lines, which stays
a row, and by the joined text, in which they take out or put in one stretch.

* `text_deleteBetween`: the text up to the first place and from the second on.
* `text_insertAt`: the text put in at its place.
* `textBefore_placeAfter`: the place after a text put in.
-/
namespace VoiceEdit.Buffer

open Text Position

variable {b : Buffer} {p q : Position}

theorem not_mem_line (h : IsRow b.lines) (n : Nat) : '\n' ∉ b.line n := by
  unfold line
  cases hn : b.lines[n]? with
  | none => simp
  | some l => exact h.2 l (List.mem_of_getElem? hn)

/-! ## Taking out -/

theorem isRow_deleteBetween (h : IsRow b.lines) (p q : Position) :
    IsRow (b.deleteBetween p q).lines := by
  refine ⟨by simp [deleteBetween], fun l hl => ?_⟩
  simp only [deleteBetween, List.mem_append, List.mem_cons] at hl
  rcases hl with hl | rfl | hl
  · exact h.2 l (List.mem_of_mem_take hl)
  · intro hlf
    rcases List.mem_append.1 hlf with hlf | hlf
    · exact not_mem_line h _ (List.mem_of_mem_take hlf)
    · exact not_mem_line h _ (List.mem_of_mem_drop hlf)
  · exact h.2 l (List.mem_of_mem_drop hl)

/-- What is left of the text when the stretch between two places is taken out. -/
theorem text_deleteBetween (b : Buffer) (p q : Position) :
    (b.deleteBetween p q).text = p.textBefore b.lines ++ q.textAfter b.lines :=
  joinLines_append_cons _ _ _ _

/-- The first of the two places cuts the new row where it cut the old one. -/
theorem cut_deleteBetween (h : p.InRow b.lines) (q : Position) :
    ∃ front l m back, (b.deleteBetween p q).lines = front ++ (l ++ m) :: back ∧
      p = ⟨front.length, l.length⟩ ∧ joinLines (front ++ [l]) = p.textBefore b.lines := by
  obtain ⟨front, l, m, back, hb, rfl⟩ := h.cut
  refine ⟨front, l, (b.line q.line).drop q.column, b.lines.drop (q.line + 1), ?_, rfl, ?_⟩
  · simp [deleteBetween, line, hb]
  · rw [hb, textBefore_cut]

theorem inRow_deleteBetween (h : p.InRow b.lines) (q : Position) :
    p.InRow (b.deleteBetween p q).lines := by
  obtain ⟨front, l, m, back, hb, rfl, -⟩ := cut_deleteBetween h q
  rw [hb]
  exact inRow_cut front back l m

theorem textBefore_deleteBetween (h : p.InRow b.lines) (q : Position) :
    p.textBefore (b.deleteBetween p q).lines = p.textBefore b.lines := by
  obtain ⟨front, l, m, back, hb, hp, htext⟩ := cut_deleteBetween h q
  rw [hb, ← htext, hp, textBefore_cut]

theorem textAfter_deleteBetween (h : p.InRow b.lines) (q : Position) :
    p.textAfter (b.deleteBetween p q).lines = q.textAfter b.lines := by
  have htext := (inRow_deleteBetween h q).textBefore_append_textAfter
  rw [textBefore_deleteBetween h q] at htext
  exact List.append_cancel_left (htext.trans (text_deleteBetween b p q))

/-! ## Putting in -/

/-- The place after a text put in is as many lines further as the text has line
feeds, and behind the last line put in. -/
theorem placeAfter_eq (p : Position) (t : Text) :
    placeAfter p t = ⟨p.line + ((splitLines t).length - 1),
      (if (splitLines t).length = 1 then p.column else 0) +
        ((splitLines t).getLast?.getD []).length⟩ := by
  have hne := (isRow_splitLines t).1
  unfold placeAfter
  generalize splitLines t = ps at hne ⊢
  match ps, hne with
  | [l], _ => simp
  | [_, l], _ => simp
  | _ :: _ :: m :: rest, _ => simp [List.getLast?_cons, Nat.add_assoc]

/-- With a text put in where a place cuts the row, the place after the text cuts
the new row before the same rest. -/
theorem cut_insertAt {front back : List Text} {l m : Text} (hb : b.lines = front ++ (l ++ m) :: back)
    (t : Text) : ∃ front' l', (b.insertAt ⟨front.length, l.length⟩ t).lines = front' ++ (l' ++ m) :: back ∧
      placeAfter ⟨front.length, l.length⟩ t = ⟨front'.length, l'.length⟩ ∧
      joinLines (front' ++ [l']) = joinLines (front ++ [l]) ++ t := by
  have hne := (isRow_splitLines t).1
  obtain ⟨ls, k, hlen, hk, hs⟩ := surround_eq_append l hne
  refine ⟨front ++ ls, k, ?_, ?_, ?_⟩
  · simp [insertAt, line, hb, hs]
  · rw [placeAfter_eq, hk, List.length_append, List.length_append]
    split <;> simp <;> omega
  · have hjoin := joinLines_surround l [] hne front []
    rw [hs] at hjoin
    simpa [joinLines_splitLines] using hjoin

theorem isRow_insertAt (h : IsRow b.lines) (p : Position) (t : Text) :
    IsRow (b.insertAt p t).lines := by
  have hne := (isRow_splitLines t).1
  obtain ⟨ls, k, -, -, hs⟩ :=
    surround_eq_append ((b.line p.line).take p.column) hne
  refine ⟨by simp [insertAt, hs], fun l hl => ?_⟩
  simp only [insertAt, List.mem_append] at hl
  rcases hl with (hl | hl) | hl
  · exact h.2 l (List.mem_of_mem_take hl)
  · exact not_mem_surround (fun hm => not_mem_line h _ (List.mem_of_mem_take hm))
      (fun hm => not_mem_line h _ (List.mem_of_mem_drop hm)) (isRow_splitLines t).2 l hl
  · exact h.2 l (List.mem_of_mem_drop hl)

theorem inRow_placeAfter (h : p.InRow b.lines) (t : Text) :
    (placeAfter p t).InRow (b.insertAt p t).lines := by
  obtain ⟨front, l, m, back, hb, rfl⟩ := h.cut
  obtain ⟨front', l', hlines, hplace, -⟩ := cut_insertAt hb t
  rw [hlines, hplace]
  exact inRow_cut front' back l' m

/-- The text before the place after a text put in ends with that text. -/
theorem textBefore_placeAfter (h : p.InRow b.lines) (t : Text) :
    (placeAfter p t).textBefore (b.insertAt p t).lines = p.textBefore b.lines ++ t := by
  obtain ⟨front, l, m, back, hb, rfl⟩ := h.cut
  obtain ⟨front', l', hlines, hplace, htext⟩ := cut_insertAt hb t
  rw [hlines, hplace, textBefore_cut, htext, hb, textBefore_cut]

/-- The text with a text put in at a place. -/
theorem text_insertAt (b : Buffer) (p : Position) (t : Text) :
    (b.insertAt p t).text = p.textBefore b.lines ++ t ++ p.textAfter b.lines := by
  have hne := (isRow_splitLines t).1
  rw [text, insertAt, joinLines_surround _ _ hne, joinLines_splitLines]
  rfl

end VoiceEdit.Buffer
