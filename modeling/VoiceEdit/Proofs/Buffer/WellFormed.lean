import VoiceEdit.Proofs.Buffer.Edit

/-!
# Buffers that make sense

A buffer makes sense if its lines are a row, both ends of its selection lie in
that row, and the same holds of every state that can be gone back to or restored.

* `wellFormed_answer`: one call keeps this, whatever it asks for.
* `Reachable`: the buffers that calls lead to, with the focus and the bound file
  changing in between.
* `Reachable.wellFormed`: all of them make sense.
-/
namespace VoiceEdit

open Text

/-- The lines are a row and the selection lies in it. -/
structure Snapshot.WellFormed (s : Snapshot) : Prop where
  row : IsRow s.lines
  anchor : s.selection.anchor.InRow s.lines
  active : s.selection.active.InRow s.lines

/-- The present state and all remembered ones make sense. -/
structure Buffer.WellFormed (b : Buffer) : Prop where
  present : b.snapshot.WellFormed
  past : ∀ s ∈ b.undo, s.WellFormed
  future : ∀ s ∈ b.redo, s.WellFormed

/-! ## The ends of a selection -/

theorem Position.earlier_eq (p q : Position) : p.earlier q = p ∨ p.earlier q = q := by
  unfold earlier; split
  · exact .inl rfl
  · exact .inr rfl

theorem Position.later_eq (p q : Position) : p.later q = p ∨ p.later q = q := by
  unfold later; split
  · exact .inr rfl
  · exact .inl rfl

theorem Selection.start_precedes_finish (s : Selection) : s.start.precedes s.finish = true := by
  unfold start finish Position.earlier Position.later
  split
  · assumption
  · exact Position.precedes_total ‹_›

theorem Snapshot.WellFormed.start {s : Snapshot} (h : s.WellFormed) : s.selection.start.InRow s.lines := by
  rcases Position.earlier_eq s.selection.anchor s.selection.active with e | e <;>
    rw [Selection.start, e]
  · exact h.anchor
  · exact h.active

theorem Snapshot.WellFormed.finish {s : Snapshot} (h : s.WellFormed) :
    s.selection.finish.InRow s.lines := by
  rcases Position.later_eq s.selection.anchor s.selection.active with e | e <;>
    rw [Selection.finish, e]
  · exact h.anchor
  · exact h.active

namespace Buffer

variable {b : Buffer} {p : Position}

/-! ## Scrolling and placing the caret -/

/-- Scrolling to a line changes the first line in view only. -/
theorem reveal_eq (b : Buffer) (n : Nat) : b.reveal n = { b with viewTop := (b.reveal n).viewTop } := by
  unfold reveal
  split
  · rfl
  · split <;> rfl

@[simp] theorem reveal_lines (b : Buffer) (n : Nat) : (b.reveal n).lines = b.lines := by rw [reveal_eq]

@[simp] theorem reveal_selection (b : Buffer) (n : Nat) : (b.reveal n).selection = b.selection := by
  rw [reveal_eq]

@[simp] theorem reveal_clipboard (b : Buffer) (n : Nat) : (b.reveal n).clipboard = b.clipboard := by
  rw [reveal_eq]

@[simp] theorem reveal_undo (b : Buffer) (n : Nat) : (b.reveal n).undo = b.undo := by rw [reveal_eq]

@[simp] theorem reveal_redo (b : Buffer) (n : Nat) : (b.reveal n).redo = b.redo := by rw [reveal_eq]

@[simp] theorem placeCaret_lines (b : Buffer) (p : Position) : (b.placeCaret p).lines = b.lines := by
  simp [placeCaret]

@[simp] theorem placeCaret_selection (b : Buffer) (p : Position) :
    (b.placeCaret p).selection = .caret p := by
  simp [placeCaret]

@[simp] theorem placeCaret_clipboard (b : Buffer) (p : Position) :
    (b.placeCaret p).clipboard = b.clipboard := by
  simp [placeCaret]

@[simp] theorem placeCaret_undo (b : Buffer) (p : Position) : (b.placeCaret p).undo = b.undo := by
  simp [placeCaret]

@[simp] theorem placeCaret_redo (b : Buffer) (p : Position) : (b.placeCaret p).redo = b.redo := by
  simp [placeCaret]

@[simp] theorem placeCaret_focused (b : Buffer) (p : Position) : (b.placeCaret p).focused = b.focused := by
  rw [placeCaret, reveal_eq]

/-! ## One call -/

theorem WellFormed.row (h : b.WellFormed) : IsRow b.lines := h.present.row

theorem WellFormed.anchor (h : b.WellFormed) : b.selection.anchor.InRow b.lines := h.present.anchor

theorem WellFormed.active (h : b.WellFormed) : b.selection.active.InRow b.lines := h.present.active

theorem WellFormed.start (h : b.WellFormed) : b.selection.start.InRow b.lines := h.present.start

theorem WellFormed.finish (h : b.WellFormed) : b.selection.finish.InRow b.lines := h.present.finish

theorem WellFormed.line_lt (h : b.WellFormed) : b.selection.active.line < b.lines.length :=
  h.active.line_lt

/-- A caret in the row makes sense, also where the selection before it did not. -/
theorem wellFormed_placeCaret (row : IsRow b.lines) (hp : p.InRow b.lines)
    (past : ∀ s ∈ b.undo, s.WellFormed) (future : ∀ s ∈ b.redo, s.WellFormed) :
    (b.placeCaret p).WellFormed := by
  refine ⟨⟨?_, ?_, ?_⟩, ?_, ?_⟩
  · simpa [snapshot] using row
  · simpa [snapshot, Selection.caret] using hp
  · simpa [snapshot, Selection.caret] using hp
  · simpa using past
  · simpa using future

theorem WellFormed.placeCaret (h : b.WellFormed) (hp : p.InRow b.lines) : (b.placeCaret p).WellFormed :=
  wellFormed_placeCaret h.row hp h.past h.future

/-- Selecting between two places of the row. -/
theorem WellFormed.selected (h : b.WellFormed) {anchor active : Position}
    (ha : anchor.InRow b.lines) (hc : active.InRow b.lines) :
    WellFormed { b with selection := ⟨anchor, active⟩ } :=
  ⟨⟨h.row, ha, hc⟩, h.past, h.future⟩

/-- The list of commands has no part in it. -/
theorem WellFormed.noted (h : b.WellFormed) (ran : List EditorCommand) : WellFormed { b with ran } :=
  ⟨h.present, h.past, h.future⟩

/-- The states that a checkpoint remembers. -/
theorem WellFormed.checkpoint_undo (h : b.WellFormed) : ∀ s ∈ b.checkpoint.undo, s.WellFormed := by
  intro s hs
  rcases List.mem_cons.1 hs with rfl | hs
  · exact h.present
  · exact h.past s hs

theorem checkpoint_redo (b : Buffer) : ∀ s ∈ b.checkpoint.redo, s.WellFormed := by
  intro s hs
  exact absurd hs List.not_mem_nil

theorem inRow_of_check {e : Unit} (h : b.check p = .ok e) : p.InRow b.lines := by
  unfold check at h
  split at h
  · rename_i hp
    exact inRow_of_le hp.1 hp.2
  · cases h

/-- A selection is granted between places of the text only, as asked and in view. -/
theorem select_ok {anchor active : Position} {b' : Buffer} (hb : b.select anchor active = .ok b') :
    anchor.InRow b.lines ∧ active.InRow b.lines ∧
      b' = { b with selection := ⟨anchor, active⟩ }.reveal active.line := by
  unfold Buffer.select at hb
  cases ha : b.check anchor with
  | error e => simp [ha, bind, Except.bind] at hb
  | ok u =>
    cases hc : b.check active with
    | error e => simp [ha, hc, bind, Except.bind] at hb
    | ok u' =>
      simp only [ha, hc, bind, Except.bind, pure, Except.pure, Except.ok.injEq] at hb
      exact ⟨inRow_of_check ha, inRow_of_check hc, hb.symm⟩

theorem WellFormed.select (h : b.WellFormed) {anchor active : Position} {b' : Buffer}
    (hb : b.select anchor active = .ok b') : b'.WellFormed := by
  obtain ⟨hanchor, hactive, rfl⟩ := select_ok hb
  have hs := h.selected hanchor hactive
  rw [reveal_eq]
  exact ⟨hs.present, hs.past, hs.future⟩

theorem WellFormed.moveBy (h : b.WellFormed) {direction : Direction} {count : Nat} {b' : Buffer}
    (hb : b.moveBy direction count = .ok b') : b'.WellFormed := by
  have hactive := h.active
  have hline := h.line_lt
  have hlast := lastLine_lt h.row
  cases direction <;> simp only [Buffer.moveBy, Except.ok.injEq, reduceCtorEq] at hb <;> subst hb
  · exact h.placeCaret (inRow_clampTo (by omega) _)
  · exact h.placeCaret (inRow_clampTo (by omega) _)
  · exact h.placeCaret (inRow_walk (fun _ => inRow_stepLeft) count hactive)
  · exact h.placeCaret (inRow_walk (fun _ => inRow_stepRight) count hactive)

/-! ## Edits -/

theorem WellFormed.insert (h : b.WellFormed) (t : Text) : (b.insert t).WellFormed :=
  wellFormed_placeCaret (isRow_insertAt (b := b.checkpoint) h.row _ t)
    (inRow_placeAfter (b := b.checkpoint) h.active t) h.checkpoint_undo (checkpoint_redo b)

theorem WellFormed.replaceSelection (h : b.WellFormed) (t : Text) :
    (b.replaceSelection t).WellFormed := by
  have hrow := isRow_deleteBetween (b := b.checkpoint) h.row b.selection.start b.selection.finish
  have hstart := inRow_deleteBetween (b := b.checkpoint) h.start b.selection.finish
  exact wellFormed_placeCaret (isRow_insertAt hrow _ t) (inRow_placeAfter hstart t)
    h.checkpoint_undo (checkpoint_redo b)

theorem WellFormed.cut (h : b.WellFormed) : b.cut.WellFormed :=
  wellFormed_placeCaret (isRow_deleteBetween (b := b.checkpoint) h.row _ _)
    (inRow_deleteBetween (b := b.checkpoint) h.start _) h.checkpoint_undo (checkpoint_redo b)

theorem WellFormed.delete (h : b.WellFormed) : b.delete.WellFormed := by
  unfold Buffer.delete
  simp only
  generalize (if b.selection.isEmpty = true then b.stepRight b.selection.start
    else b.selection.finish) = finish
  split
  · exact h.placeCaret h.start
  · exact wellFormed_placeCaret (isRow_deleteBetween (b := b.checkpoint) h.row _ _)
      (inRow_deleteBetween (b := b.checkpoint) h.start _) h.checkpoint_undo (checkpoint_redo b)

theorem isRow_map_trimEnd {ls : List Text} (h : IsRow ls) : IsRow (ls.map trimEnd) := by
  refine ⟨by simpa using h.1, fun l hl => ?_⟩
  obtain ⟨k, hk, rfl⟩ := List.mem_map.1 hl
  exact fun hlf => h.2 k hk ((isPrefix_trimEnd k).subset hlf)

theorem WellFormed.stripLineEnds (h : b.WellFormed) : b.stripLineEnds.WellFormed := by
  refine wellFormed_placeCaret (isRow_map_trimEnd h.row) (inRow_clampTo ?_ _)
    h.checkpoint_undo (checkpoint_redo b)
  simpa using h.line_lt

theorem WellFormed.undoEdit (h : b.WellFormed) : b.undoEdit.WellFormed := by
  unfold Buffer.undoEdit
  split
  · exact h
  · rename_i s rest hu
    refine ⟨h.past s (hu ▸ List.mem_cons_self), fun r hr => ?_, fun r hr => ?_⟩
    · exact h.past r (hu ▸ List.mem_cons_of_mem s hr)
    · rcases List.mem_cons.1 hr with rfl | hr
      · exact h.present
      · exact h.future r hr

theorem WellFormed.redoEdit (h : b.WellFormed) : b.redoEdit.WellFormed := by
  unfold Buffer.redoEdit
  split
  · exact h
  · rename_i s rest hu
    refine ⟨h.future s (hu ▸ List.mem_cons_self), fun r hr => ?_, fun r hr => ?_⟩
    · rcases List.mem_cons.1 hr with rfl | hr
      · exact h.present
      · exact h.past r hr
    · exact h.future r (hu ▸ List.mem_cons_of_mem s hr)

theorem WellFormed.selectAll (h : b.WellFormed) : b.selectAll.WellFormed :=
  h.selected (Position.inRow_origin h.row) (inRow_endOfText h.row)

theorem WellFormed.expandSelection (h : b.WellFormed) : b.expandSelection.WellFormed := by
  have hline := h.line_lt
  unfold Buffer.expandSelection
  simp only
  split
  · exact h.selected (inRow_lineStart hline) (inRow_of_le hline (Nat.le_refl _))
  · exact h.selectAll

theorem WellFormed.save (h : b.WellFormed) {b' : Buffer} (hb : b.save = .ok b') : b'.WellFormed := by
  unfold Buffer.save at hb
  split at hb
  · cases hb; exact h
  · split at hb
    · cases hb
    · cases hb; exact ⟨h.present, h.past, h.future⟩

/-- A command that succeeds. -/
theorem WellFormed.command (h : b.WellFormed) {c : EditorCommand} {b' : Buffer}
    (hb : b.command c = .ok b') : b'.WellFormed := by
  have hline := h.line_lt
  have hlast := lastLine_lt h.row
  cases c with
  | scrollPageUp =>
    cases hb
    exact wellFormed_placeCaret h.row (inRow_lineStart (by simp only; omega)) h.past h.future
  | scrollPageDown =>
    cases hb
    exact wellFormed_placeCaret h.row (inRow_lineStart (by simp only; omega)) h.past h.future
  | selectAll => cases hb; exact h.selectAll
  | expandSelection => cases hb; exact h.expandSelection
  | shrinkSelection => cases hb; exact h.selected h.active h.active
  | copy => cases hb; exact ⟨h.present, h.past, h.future⟩
  | cut => cases hb; exact h.cut
  | paste => cases hb; exact h.replaceSelection b.clipboard
  | delete => cases hb; exact h.delete
  | undo => cases hb; exact h.undoEdit
  | redo => cases hb; exact h.redoEdit
  | format => cases hb; exact h.stripLineEnds
  | saveFile => exact h.save hb
  | saveFileAs => exact h.save hb
  | _ => cases hb; exact h

/-- **One call.** Whatever it asks for, the buffer makes sense afterwards. -/
theorem wellFormed_answer (h : b.WellFormed) (q : Editor.Request) : (answer q b).2.WellFormed := by
  have hact : ∀ {r : Except EditorError Buffer}, (∀ b', r = .ok b' → b'.WellFormed) →
      (b.act r).2.WellFormed := by
    intro r hr
    cases r with
    | ok b' => exact hr b' rfl
    | error e => exact h
  cases q with
  | lineCount => exact h
  | lineText n => exact h
  | selection => exact h
  | moveToLine n =>
    refine hact fun b' hb => ?_
    unfold moveToLine at hb
    split at hb
    · rename_i hn
      cases hb
      exact h.placeCaret (inRow_lineStart hn)
    · cases hb
  | moveBy direction count => exact hact fun b' hb => h.moveBy hb
  | moveTo target => exact h.placeCaret (inRow_targetPosition h.row h.active target)
  | select anchor active => exact hact fun b' hb => h.select hb
  | insert t => exact h.insert t
  | replace t => exact h.replaceSelection t
  | run c =>
    have hnoted := h.noted (b.ran ++ [c])
    simp only [answer, Buffer.run]
    split
    · rename_i b' hb; exact hnoted.command hb
    · exact hnoted

theorem wellFormed_editor (h : b.WellFormed) (q : Editor.Request) : (editor q b).2.WellFormed := by
  unfold editor
  split
  · exact wellFormed_answer h q
  · exact h

/-- A new buffer makes sense. -/
theorem wellFormed_ofText (t : Text) : (ofText t).WellFormed := by
  have hrow := isRow_splitLines t
  refine ⟨⟨hrow, Position.inRow_origin hrow, Position.inRow_origin hrow⟩, fun s hs => ?_, fun s hs => ?_⟩
  · exact absurd hs List.not_mem_nil
  · exact absurd hs List.not_mem_nil

/-! ## Every run of calls -/

/-- The buffers that calls lead to from a new buffer. Between calls the focus may
come and go, and the buffer may be bound to another file. -/
inductive Reachable : Buffer → Prop where
  | new (t : Text) : Reachable (ofText t)
  | call {b : Buffer} (h : Reachable b) (q : Editor.Request) : Reachable (editor q b).2
  | focus {b : Buffer} (h : Reachable b) (focused : Bool) : Reachable { b with focused }
  | bind {b : Buffer} (h : Reachable b) (file : Option BoundFile) : Reachable { b with file }

theorem Reachable.wellFormed (h : Reachable b) : b.WellFormed := by
  induction h with
  | new t => exact wellFormed_ofText t
  | call _ q ih => exact wellFormed_editor ih q
  | focus _ focused ih => exact ⟨ih.present, ih.past, ih.future⟩
  | bind _ file ih => exact ⟨ih.present, ih.past, ih.future⟩

end Buffer

end VoiceEdit
