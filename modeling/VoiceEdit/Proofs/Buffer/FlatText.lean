import VoiceEdit.Proofs.Buffer.WellFormed

/-!
# A buffer as one piece of text

Seen from outside, a buffer of lines is a single text in which the ends of the
selection are offsets. Every edit of the buffer is the plain edit of that text.

* `FlatText.replace`, `FlatText.insert`, `FlatText.cut`, `FlatText.delete`: the
  plain edits.
* `flat_replaceSelection`, `flat_insert`, `flat_cut`, `flat_delete`: the edits of
  a buffer of lines are these.
* `Reachable.edits_flat`: what a focused buffer answers to a request for an edit
  after any run of calls.
-/
namespace VoiceEdit

open Text Position

/-- A text in one piece, with the offsets of the ends of a selection. -/
structure FlatText where
  text : Text
  anchor : Nat
  active : Nat
  clipboard : Text
  deriving DecidableEq, Repr

namespace FlatText

variable (f : FlatText)

/-- The offset of the earlier end. -/
def start : Nat := min f.anchor f.active

/-- The offset of the later end. -/
def finish : Nat := max f.anchor f.active

/-- The text between the ends. -/
def selected : Text := (f.text.take f.finish).drop f.start

/-- A text in the place of the selection, with the caret behind it. -/
def replace (x : Text) : FlatText :=
  { f with
    text := f.text.take f.start ++ x ++ f.text.drop f.finish
    anchor := f.start + x.length
    active := f.start + x.length }

/-- A text at the active end, with the caret behind it. -/
def insert (x : Text) : FlatText :=
  { f with
    text := f.text.take f.active ++ x ++ f.text.drop f.active
    anchor := f.active + x.length
    active := f.active + x.length }

/-- The selection in the clipboard instead of the text. -/
def cut : FlatText :=
  { text := f.text.take f.start ++ f.text.drop f.finish
    anchor := f.start
    active := f.start
    clipboard := f.selected }

/-- The text without the selection or, where that is empty, without the character
at its place; at the end of the text there is none. -/
def delete : FlatText :=
  { f with
    text := f.text.take f.start ++ f.text.drop (if f.start = f.finish then f.start + 1 else f.finish)
    anchor := f.start
    active := f.start }

theorem start_le_finish : f.start ≤ f.finish := by
  unfold start finish; omega

/-- What was cut out and is put back restores the text. -/
theorem text_replace_cut (h : f.start ≤ f.text.length) :
    (f.cut.replace f.cut.clipboard).text = f.text := by
  have hle := f.start_le_finish
  have hlength : (f.text.take f.start).length = f.start := List.length_take_of_le h
  have hstart : f.cut.start = f.start := Nat.min_self _
  have hfinish : f.cut.finish = f.start := Nat.max_self _
  have hbefore : f.cut.text.take f.start = f.text.take f.start := List.take_left' hlength
  have hafter : f.cut.text.drop f.start = f.text.drop f.finish := List.drop_left' hlength
  have hselected : f.text.take f.start ++ f.selected = f.text.take f.finish := by
    have htake : f.text.take f.start = (f.text.take f.finish).take f.start := by
      rw [List.take_take, Nat.min_eq_left hle]
    rw [selected, htake, List.take_append_drop]
  calc (f.cut.replace f.cut.clipboard).text
      = f.cut.text.take f.cut.start ++ f.selected ++ f.cut.text.drop f.cut.finish := rfl
    _ = f.text.take f.finish ++ f.text.drop f.finish := by
        rw [hstart, hfinish, hbefore, hafter, hselected]
    _ = f.text := List.take_append_drop _ _

end FlatText

namespace Buffer

variable {b : Buffer} {p : Position}

/-- A buffer as one piece of text. -/
def flat (b : Buffer) : FlatText where
  text := b.text
  anchor := b.selection.anchor.offset b.lines
  active := b.selection.active.offset b.lines
  clipboard := b.clipboard

/-! ## The selection -/

/-- The earlier end of the selection is the smaller offset. -/
theorem WellFormed.offset_start (h : b.WellFormed) :
    b.selection.start.offset b.lines = b.flat.start := by
  unfold Selection.start earlier FlatText.start flat
  split
  · rename_i hpre
    have := offset_le_of_precedes h.anchor h.active hpre
    simp only; omega
  · rename_i hpre
    have := offset_le_of_precedes h.active h.anchor (precedes_total hpre)
    simp only; omega

/-- The later end of the selection is the greater offset. -/
theorem WellFormed.offset_finish (h : b.WellFormed) :
    b.selection.finish.offset b.lines = b.flat.finish := by
  unfold Selection.finish later FlatText.finish flat
  split
  · rename_i hpre
    have := offset_le_of_precedes h.anchor h.active hpre
    simp only; omega
  · rename_i hpre
    have := offset_le_of_precedes h.active h.anchor (precedes_total hpre)
    simp only; omega

theorem flat_selectedText (h : b.WellFormed) : b.selectedText = b.flat.selected := by
  rw [selectedText, textBetween_eq h.start h.finish b.selection.start_precedes_finish,
    h.offset_start, h.offset_finish]
  rfl

theorem WellFormed.textBefore_start (h : b.WellFormed) :
    b.selection.start.textBefore b.lines = b.text.take b.flat.start := by
  rw [← h.start.take_offset, h.offset_start, text]

theorem WellFormed.textAfter_finish (h : b.WellFormed) :
    b.selection.finish.textAfter b.lines = b.text.drop b.flat.finish := by
  rw [← h.finish.drop_offset, h.offset_finish, text]

/-- Whether something is selected can be told from the offsets. -/
theorem WellFormed.isEmpty_iff (h : b.WellFormed) :
    b.selection.isEmpty = true ↔ b.flat.start = b.flat.finish := by
  unfold Selection.isEmpty FlatText.start FlatText.finish flat
  rw [beq_iff_eq]
  constructor
  · intro heq
    rw [heq]
    simp
  · intro heq
    exact h.anchor.offset_inj h.active (by simp only at heq; omega)

/-! ## Edits -/

theorem text_placeCaret (b : Buffer) (p : Position) : (b.placeCaret p).text = b.text := by
  rw [text, placeCaret_lines, text]

/-- A buffer with a caret put at a place. -/
theorem flat_placeCaret (b : Buffer) (p : Position) :
    (b.placeCaret p).flat = ⟨b.text, p.offset b.lines, p.offset b.lines, b.clipboard⟩ := by
  simp [flat, text_placeCaret, Selection.caret]

/-- The place after a text put in is as many characters further as the text has. -/
theorem offset_placeAfter (h : p.InRow b.lines) (x : Text) :
    (placeAfter p x).offset (b.insertAt p x).lines = p.offset b.lines + x.length := by
  rw [← (inRow_placeAfter h x).length_textBefore, textBefore_placeAfter h, List.length_append,
    h.length_textBefore]

theorem flat_insert (h : b.WellFormed) (x : Text) : (b.insert x).flat = b.flat.insert x := by
  have hactive : b.selection.active.InRow b.checkpoint.lines := h.active
  rw [Buffer.insert, flat_placeCaret, offset_placeAfter hactive, text_insertAt,
    ← hactive.take_offset, ← hactive.drop_offset]
  rfl

theorem offset_deleteBetween (h : p.InRow b.lines) (q : Position) :
    p.offset (b.deleteBetween p q).lines = p.offset b.lines := by
  rw [← (inRow_deleteBetween h q).length_textBefore, textBefore_deleteBetween h,
    h.length_textBefore]

theorem flat_replaceSelection (h : b.WellFormed) (x : Text) :
    (b.replaceSelection x).flat = b.flat.replace x := by
  have hstart : b.selection.start.InRow b.checkpoint.lines := h.start
  have hemptied := inRow_deleteBetween hstart b.selection.finish
  rw [Buffer.replaceSelection, flat_placeCaret, offset_placeAfter hemptied, text_insertAt,
    offset_deleteBetween hstart, textBefore_deleteBetween hstart, textAfter_deleteBetween hstart]
  have hbefore : b.selection.start.textBefore b.checkpoint.lines = b.text.take b.flat.start :=
    h.textBefore_start
  have hafter : b.selection.finish.textAfter b.checkpoint.lines = b.text.drop b.flat.finish :=
    h.textAfter_finish
  have hoffset : b.selection.start.offset b.checkpoint.lines = b.flat.start := h.offset_start
  rw [hbefore, hafter, hoffset]
  rfl

/-- A stretch taken out, with a caret in its place. -/
theorem flat_deleteBetween (h : p.InRow b.lines) (q : Position) :
    ((b.deleteBetween p q).placeCaret p).flat =
      ⟨p.textBefore b.lines ++ q.textAfter b.lines, p.offset b.lines, p.offset b.lines,
        b.clipboard⟩ := by
  rw [flat_placeCaret, text_deleteBetween, offset_deleteBetween h]
  rfl

theorem flat_cut (h : b.WellFormed) : b.cut.flat = b.flat.cut := by
  have hcut := flat_deleteBetween (b := { b with clipboard := b.selectedText }.checkpoint)
    h.start b.selection.finish
  calc b.cut.flat
      = ⟨b.selection.start.textBefore b.lines ++ b.selection.finish.textAfter b.lines,
          b.selection.start.offset b.lines, b.selection.start.offset b.lines, b.selectedText⟩ := hcut
    _ = b.flat.cut := by
        rw [h.textBefore_start, h.textAfter_finish, h.offset_start, flat_selectedText h]
        rfl

/-- What follows the place up to which a deletion goes. -/
theorem WellFormed.textAfter_delete (h : b.WellFormed) :
    (if b.selection.isEmpty then b.stepRight b.selection.start
      else b.selection.finish).textAfter b.lines =
        b.text.drop (if b.flat.start = b.flat.finish then b.flat.start + 1 else b.flat.finish) := by
  by_cases hempty : b.selection.isEmpty = true
  · rw [if_pos hempty, if_pos (h.isEmpty_iff.1 hempty), ← (inRow_stepRight h.start).drop_offset,
      offset_stepRight h.start, h.offset_start, ← text]
    rcases Nat.le_total (b.flat.start + 1) b.text.length with hle | hle
    · rw [Nat.min_eq_left hle]
    · rw [Nat.min_eq_right hle, List.drop_length, List.drop_eq_nil_of_le hle]
  · rw [if_neg hempty, if_neg (fun heq => hempty (h.isEmpty_iff.2 heq)), h.textAfter_finish]

theorem flat_delete (h : b.WellFormed) : b.delete.flat = b.flat.delete := by
  have hafter := h.textAfter_delete
  unfold Buffer.delete
  simp only
  generalize (if b.selection.isEmpty = true then b.stepRight b.selection.start
    else b.selection.finish) = finish at hafter ⊢
  -- no state is remembered where nothing is deleted, but the text is the same sum
  by_cases hend : b.selection.start = finish
  · have htext : b.text = b.text.take b.flat.start ++
        b.text.drop (if b.flat.start = b.flat.finish then b.flat.start + 1 else b.flat.finish) := by
      rw [← hafter, ← hend, ← h.textBefore_start, h.start.textBefore_append_textAfter, text]
    rw [if_pos hend, flat_placeCaret, h.offset_start, htext]
    rfl
  · have hdelete := flat_deleteBetween (b := b.checkpoint) h.start finish
    rw [if_neg hend]
    calc ((b.checkpoint.deleteBetween b.selection.start finish).placeCaret b.selection.start).flat
        = ⟨b.selection.start.textBefore b.lines ++ finish.textAfter b.lines,
            b.selection.start.offset b.lines, b.selection.start.offset b.lines, b.clipboard⟩ := hdelete
      _ = b.flat.delete := by
          rw [h.textBefore_start, hafter, h.offset_start]
          rfl

/-! ## Requests -/

/-- A granted request that leaves a caret in a text. -/
def LeavesCaret (granted : Except EditorError Unit × Buffer) (f : FlatText) : Prop :=
  granted.1 = .ok () ∧ granted.2.flat = f ∧ granted.2.selection.isEmpty = true

theorem isEmpty_placeCaret (b : Buffer) (p : Position) :
    (b.placeCaret p).selection.isEmpty = true := by
  rw [placeCaret_selection, Selection.isEmpty, Selection.caret, beq_iff_eq]

theorem WellFormed.finish_le (h : b.WellFormed) : b.flat.finish ≤ b.text.length := by
  rw [← h.offset_finish]
  exact h.finish.offset_le

theorem placeCaret_ran (b : Buffer) (ran : List EditorCommand) (p : Position) :
    { b with ran }.placeCaret p = { b.placeCaret p with ran } := by
  simp only [placeCaret, reveal]
  split
  · rfl
  · split <;> rfl

/-- The list of commands has no part in an edit. -/
theorem replaceSelection_ran (b : Buffer) (ran : List EditorCommand) (x : Text) :
    { b with ran }.replaceSelection x = { b.replaceSelection x with ran } :=
  placeCaret_ran ((b.checkpoint.deleteBetween b.selection.start b.selection.finish).insertAt
    b.selection.start x) ran _

theorem editor_focused (hfocus : b.focused = true) (q : Editor.Request) :
    editor q b = answer q b := if_pos hfocus

/-- **One piece of text.** After any run of calls a focused buffer edits its lines
as if they were one piece of text. -/
theorem Reachable.edits_flat (h : Reachable b) (hfocus : b.focused = true) :
    b.flat.finish ≤ b.text.length ∧ b.selectedText = b.flat.selected ∧
      (∀ x, LeavesCaret (editor (.replace x) b) (b.flat.replace x)) ∧
      (∀ x, LeavesCaret (editor (.insert x) b) (b.flat.insert x)) ∧
      LeavesCaret (editor (.run .cut) b) b.flat.cut ∧
      LeavesCaret (editor (.run .delete) b) b.flat.delete ∧
      LeavesCaret (editor (.run .paste) b) (b.flat.replace b.clipboard) ∧
      (editor (.run .paste) b).2 =
        { (editor (.replace b.clipboard) b).2 with ran := b.ran ++ [.paste] } ∧
      (editor (.run .paste) (editor (.run .cut) b).2).2.text = b.text := by
  have hwell := h.wellFormed
  have hcut : LeavesCaret (editor (.run .cut) b) b.flat.cut := by
    rw [editor_focused hfocus]
    exact ⟨rfl, flat_cut (hwell.noted _), isEmpty_placeCaret _ _⟩
  have hfocused : (editor (.run .cut) b).2.focused = true := by
    rw [editor_focused hfocus]
    exact (placeCaret_focused _ _).trans hfocus
  have hpaste : ∀ {b : Buffer}, b.WellFormed → b.focused = true →
      LeavesCaret (editor (.run .paste) b) (b.flat.replace b.clipboard) := by
    intro b hwell hfocus
    rw [editor_focused hfocus]
    exact ⟨rfl, flat_replaceSelection (hwell.noted _) b.clipboard, isEmpty_placeCaret _ _⟩
  refine ⟨hwell.finish_le, flat_selectedText hwell, fun x => ?_, fun x => ?_, hcut, ?_,
    hpaste hwell hfocus, ?_, ?_⟩
  · rw [editor_focused hfocus]
    exact ⟨rfl, flat_replaceSelection hwell x, isEmpty_placeCaret _ _⟩
  · rw [editor_focused hfocus]
    exact ⟨rfl, flat_insert hwell x, isEmpty_placeCaret _ _⟩
  · rw [editor_focused hfocus]
    exact ⟨rfl, flat_delete (hwell.noted _), isEmpty_placeCaret _ _⟩
  · rw [editor_focused hfocus, editor_focused hfocus]
    exact replaceSelection_ran b _ _
  · have hstart : b.flat.start ≤ b.text.length := Nat.le_trans b.flat.start_le_finish hwell.finish_le
    have htext := congrArg FlatText.text (hpaste (h.call (.run .cut)).wellFormed hfocused).2.1
    have hclipboard : (editor (.run .cut) b).2.clipboard = b.flat.cut.clipboard :=
      congrArg FlatText.clipboard hcut.2.1
    rw [hcut.2.1, hclipboard, FlatText.text_replace_cut b.flat hstart] at htext
    exact htext

/-- A selection from a line back into the line before it, cut out. -/
theorem edits_flat_twoLines :
    ∃ b, Reachable b ∧ b.flat = ⟨"ab\ncd".toList, 4, 1, []⟩ ∧
      LeavesCaret (editor (.run .cut) b) ⟨"ad".toList, 1, 1, "b\nc".toList⟩ ∧
      (editor (.run .paste) (editor (.run .cut) b).2).2.text = "ab\ncd".toList := by
  have h := (Reachable.new "ab\ncd").call (.select ⟨1, 1⟩ ⟨0, 1⟩)
  have hedits := h.edits_flat (by decide +kernel)
  obtain ⟨-, -, -, -, hcut, -, -, -, hrestored⟩ := hedits
  exact ⟨_, h, by decide +kernel, hcut, hrestored⟩

end Buffer

end VoiceEdit
