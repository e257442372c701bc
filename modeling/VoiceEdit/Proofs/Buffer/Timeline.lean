import VoiceEdit.Proofs.Buffer.FlatText

/-!
# The past and the future of a buffer

The states that a buffer remembers are one line of texts with a mark at the present
one. Going back and forth moves the mark and changes no text on the line.

* `timeline`, `moment`: the line of texts, and the mark.
* `Kept`, `Edited`: the two things that any other request may do to them.
* `kept_editor`, `edited_editor`: which request does which.
* `times_redo_undo`: going back and forth again is all undone.
* `Reachable.history_linear`: the same after any run of calls.
-/
namespace VoiceEdit

open Text Position

/-- The text of a remembered state. -/
def Snapshot.text (s : Snapshot) : Text := joinLines s.lines

namespace Buffer

variable {b b' : Buffer} {p : Position}

/-! ## The line of texts -/

/-- The texts that were, the present one and those that were undone. -/
def timeline (b : Buffer) : List Text :=
  (b.undo.map Snapshot.text).reverse ++ b.text :: b.redo.map Snapshot.text

/-- The place of the present text on the line. -/
def moment (b : Buffer) : Nat := b.undo.length

theorem timeline_moment (b : Buffer) : b.timeline[b.moment]? = some b.text := by
  unfold timeline moment
  rw [List.getElem?_append_right (by simp)]
  simp

theorem length_timeline (b : Buffer) : b.timeline.length = b.moment + 1 + b.redo.length := by
  simp only [timeline, moment, List.length_append, List.length_reverse, List.length_map,
    List.length_cons]
  omega

theorem take_timeline (b : Buffer) :
    b.timeline.take (b.moment + 1) = (b.undo.map Snapshot.text).reverse ++ [b.text] := by
  have hlength : ((b.undo.map Snapshot.text).reverse ++ [b.text]).length = b.moment + 1 := by
    simp [moment]
  have hsplit : b.timeline =
      ((b.undo.map Snapshot.text).reverse ++ [b.text]) ++ b.redo.map Snapshot.text := by
    simp [timeline]
  rw [hsplit, List.take_left' hlength]

/-! ## Two kinds of requests -/

/-- The text is as it was, and so are the states around it. -/
structure Kept (b b' : Buffer) : Prop where
  lines : b'.lines = b.lines
  undo : b'.undo = b.undo
  redo : b'.redo = b.redo
  focused : b'.focused = b.focused

/-- The state before is remembered, and the states after it are forgotten. -/
structure Edited (b b' : Buffer) : Prop where
  undo : b'.undo = b.snapshot :: b.undo
  redo : b'.redo = []
  focused : b'.focused = b.focused

theorem Kept.text (h : Kept b b') : b'.text = b.text := by rw [Buffer.text, h.lines, Buffer.text]

theorem Kept.timeline (h : Kept b b') : b'.timeline = b.timeline := by
  rw [Buffer.timeline, h.undo, h.redo, h.text, Buffer.timeline]

theorem Kept.moment (h : Kept b b') : b'.moment = b.moment := by
  rw [Buffer.moment, h.undo, Buffer.moment]

/-- An edit cuts the line behind the present text and adds the new one. -/
theorem Edited.timeline (h : Edited b b') :
    b'.timeline = b.timeline.take (b.moment + 1) ++ [b'.text] := by
  rw [take_timeline, Buffer.timeline, h.undo, h.redo, List.map_cons, List.reverse_cons, List.map_nil]
  rfl

theorem Edited.moment (h : Edited b b') : b'.moment = b.moment + 1 := by
  rw [Buffer.moment, h.undo, List.length_cons, Buffer.moment]

theorem Kept.refl (b : Buffer) : Kept b b := ⟨rfl, rfl, rfl, rfl⟩

theorem Kept.trans {b'' : Buffer} (h : Kept b b') (h' : Kept b' b'') : Kept b b'' :=
  ⟨h'.lines.trans h.lines, h'.undo.trans h.undo, h'.redo.trans h.redo, h'.focused.trans h.focused⟩

theorem kept_placeCaret (b : Buffer) (p : Position) : Kept b (b.placeCaret p) :=
  ⟨placeCaret_lines b p, placeCaret_undo b p, placeCaret_redo b p, placeCaret_focused b p⟩

theorem Edited.placeCaret (h : Edited b b') (p : Position) : Edited b (b'.placeCaret p) :=
  ⟨by rw [placeCaret_undo, h.undo], by rw [placeCaret_redo, h.redo],
    by rw [placeCaret_focused, h.focused]⟩

/-- A change of the text after a checkpoint. -/
theorem edited_checkpoint (b : Buffer) (lines : List Text) :
    Edited b { b.checkpoint with lines } := ⟨rfl, rfl, rfl⟩

/-! ## Nothing to delete -/

/-- Only the end of the text is its own neighbour. -/
theorem stepRight_eq_iff (h : p.InRow b.lines) : b.stepRight p = p ↔ p = b.endOfText := by
  have hline := h.line_lt
  have hcolumn : p.column ≤ b.lineLength p.line := h.column_le
  obtain ⟨line, column⟩ := p
  unfold stepRight endOfText lastLine
  simp only at hline hcolumn ⊢
  by_cases hlt : column < b.lineLength line
  · rw [if_pos hlt, Position.mk.injEq, Position.mk.injEq]
    constructor
    · rintro ⟨-, hsame⟩
      omega
    · rintro ⟨rfl, rfl⟩
      omega
  · rw [if_neg hlt]
    by_cases hlast : line < b.lines.length - 1
    · rw [if_pos hlast, Position.mk.injEq, Position.mk.injEq]
      constructor
      · rintro ⟨hsame, -⟩
        omega
      · rintro ⟨rfl, -⟩
        omega
    · obtain rfl : line = b.lines.length - 1 := by omega
      rw [if_neg hlast, Position.mk.injEq, Position.mk.injEq]
      exact ⟨fun _ => ⟨rfl, by omega⟩, fun _ => ⟨rfl, rfl⟩⟩

/-- Whether there is something to delete: a selection, or a character after the
cursor. -/
def canDelete (b : Buffer) : Bool := !(b.selection.isEmpty && b.selection.active == b.endOfText)

theorem WellFormed.delete_nothing_iff (h : b.WellFormed) :
    b.selection.start = (if b.selection.isEmpty then b.stepRight b.selection.start
      else b.selection.finish) ↔ b.canDelete = false := by
  have hempty : b.selection.isEmpty = true ↔ b.selection.anchor = b.selection.active := beq_iff_eq
  unfold canDelete
  by_cases hselection : b.selection.isEmpty = true
  · have hstart : b.selection.start = b.selection.active := by
      rw [Selection.start, hempty.1 hselection]
      exact (earlier_eq _ _).elim id id
    rw [if_pos hselection, hselection, Bool.true_and, Bool.not_eq_false', beq_iff_eq, hstart,
      ← stepRight_eq_iff h.active]
    exact eq_comm
  · have hfalse : b.selection.isEmpty = false := by simpa using hselection
    rw [if_neg hselection, hfalse, Bool.false_and, Bool.not_false]
    refine iff_of_false (fun hends => ?_) (by decide)
    refine hselection (hempty.2 ?_)
    unfold Selection.start Selection.finish earlier later at hends
    split at hends
    · exact hends
    · exact hends.symm

/-! ## Every request -/

/-- Whether a request is an edit. -/
def isEdit (b : Buffer) : Editor.Request → Bool
  | .insert _ | .replace _ | .run .cut | .run .paste | .run .format => true
  | .run .delete => b.canDelete
  | _ => false

theorem edited_insert (b : Buffer) (t : Text) : Edited b (b.insert t) :=
  (edited_checkpoint b (b.checkpoint.insertAt b.selection.active t).lines).placeCaret _

theorem edited_replaceSelection (b : Buffer) (t : Text) : Edited b (b.replaceSelection t) := by
  let emptied := b.checkpoint.deleteBetween b.selection.start b.selection.finish
  exact (edited_checkpoint b (emptied.insertAt b.selection.start t).lines).placeCaret _

theorem edited_deleteBetween (b : Buffer) (p q : Position) :
    Edited b (b.checkpoint.deleteBetween p q) :=
  edited_checkpoint b (b.checkpoint.deleteBetween p q).lines

theorem edited_cut (b : Buffer) : Edited b b.cut := by
  let copied := { b with clipboard := b.selectedText }
  have h : Edited b (copied.checkpoint.deleteBetween b.selection.start b.selection.finish) :=
    ⟨rfl, rfl, rfl⟩
  exact h.placeCaret b.selection.start

theorem edited_stripLineEnds (b : Buffer) : Edited b b.stripLineEnds :=
  (edited_checkpoint b (b.lines.map trimEnd)).placeCaret _

theorem WellFormed.edited_delete (h : b.WellFormed) (hcan : b.canDelete = true) :
    Edited b b.delete := by
  unfold Buffer.delete
  simp only
  rw [if_neg (fun hends => by rw [h.delete_nothing_iff.1 hends] at hcan; cases hcan)]
  exact (edited_deleteBetween b _ _).placeCaret _

theorem WellFormed.kept_delete (h : b.WellFormed) (hcan : b.canDelete = false) : Kept b b.delete := by
  unfold Buffer.delete
  simp only
  rw [if_pos (h.delete_nothing_iff.2 hcan)]
  exact kept_placeCaret b _

/-- Scrolling changes the first line in view only. -/
theorem kept_scrolled (b : Buffer) (viewTop : Nat) : Kept b { b with viewTop } :=
  ⟨rfl, rfl, rfl, rfl⟩

theorem kept_reveal (b : Buffer) (n : Nat) : Kept b (b.reveal n) := by
  rw [reveal_eq]
  exact kept_scrolled b _

/-- Selecting changes the selection only. -/
theorem kept_selection (b : Buffer) (selection : Selection) : Kept b { b with selection } :=
  ⟨rfl, rfl, rfl, rfl⟩

theorem kept_expandSelection (b : Buffer) : Kept b b.expandSelection := by
  unfold expandSelection
  simp only
  split
  · exact kept_selection b _
  · exact kept_selection b _

theorem kept_save {r : Buffer} (h : b.save = .ok r) : Kept b r := by
  unfold save at h
  split at h
  · cases h
    exact .refl b
  · split at h
    · cases h
    · cases h
      exact ⟨rfl, rfl, rfl, rfl⟩

/-- A command that neither edits nor moves through time. -/
theorem WellFormed.kept_command (h : b.WellFormed) {c : EditorCommand} (hc : b.isEdit (.run c) = false)
    (hundo : c ≠ .undo) (hredo : c ≠ .redo) {r : Buffer} (hr : b.command c = .ok r) : Kept b r := by
  cases c with
  | cut | paste | format => cases hc
  | undo => exact absurd rfl hundo
  | redo => exact absurd rfl hredo
  | delete => cases hr; exact h.kept_delete hc
  | scrollPageUp => cases hr; exact (kept_scrolled b _).trans (kept_placeCaret _ _)
  | scrollPageDown => cases hr; exact (kept_scrolled b _).trans (kept_placeCaret _ _)
  | selectAll => cases hr; exact kept_selection b _
  | expandSelection => cases hr; exact kept_expandSelection b
  | shrinkSelection => cases hr; exact kept_selection b _
  | copy => cases hr; exact ⟨rfl, rfl, rfl, rfl⟩
  | saveFile => exact kept_save hr
  | saveFileAs => exact kept_save hr
  | _ => cases hr; exact .refl b

theorem kept_moveBy {direction : Direction} {count : Nat} {r : Buffer}
    (h : b.moveBy direction count = .ok r) : Kept b r := by
  cases direction <;> simp only [moveBy, Except.ok.injEq, reduceCtorEq] at h <;> subst h <;>
    exact kept_placeCaret b _

theorem kept_select {anchor active : Position} {r : Buffer} (h : b.select anchor active = .ok r) :
    Kept b r := by
  obtain ⟨-, -, rfl⟩ := select_ok h
  exact (kept_selection b _).trans (kept_reveal _ _)

theorem kept_act {r : Except EditorError Buffer} (h : ∀ b', r = .ok b' → Kept b b') :
    Kept b (b.act r).2 := by
  cases r with
  | ok b' => exact h b' rfl
  | error e => exact .refl b

/-- The list of commands is no part of the line. -/
theorem kept_noted (b : Buffer) (ran : List EditorCommand) : Kept b { b with ran } :=
  ⟨rfl, rfl, rfl, rfl⟩

/-- A request that is no edit and does not move through time keeps text and line. -/
theorem kept_editor (h : b.WellFormed) {q : Editor.Request} (hq : b.isEdit q = false)
    (hundo : q ≠ .run .undo) (hredo : q ≠ .run .redo) : Kept b (editor q b).2 := by
  unfold editor
  split
  · cases q with
    | lineCount | lineText n | selection => exact .refl b
    | insert t => cases hq
    | replace t => cases hq
    | moveToLine n =>
      refine kept_act fun b' hb => ?_
      unfold moveToLine at hb
      split at hb
      · cases hb
        exact kept_placeCaret b _
      · cases hb
    | moveBy direction count => exact kept_act fun b' hb => kept_moveBy hb
    | moveTo target => exact kept_placeCaret b _
    | select anchor active => exact kept_act fun b' hb => kept_select hb
    | run c =>
      have hnoted := kept_noted b (b.ran ++ [c])
      simp only [answer, Buffer.run]
      split
      · rename_i b' hb
        have hwell := h.noted (b.ran ++ [c])
        exact hnoted.trans (hwell.kept_command hq (fun hc => hundo (by rw [hc]))
          (fun hc => hredo (by rw [hc])) hb)
      · exact hnoted
  · exact .refl b

/-- An edit of a buffer with the focus is granted. -/
theorem edited_editor (h : b.WellFormed) (hfocus : b.focused = true) {q : Editor.Request}
    (hq : b.isEdit q = true) : Edited b (editor q b).2 := by
  rw [editor_focused hfocus]
  cases q with
  | insert t => exact edited_insert b t
  | replace t => exact edited_replaceSelection b t
  | run c =>
    cases c with
    | cut =>
      have := edited_cut { b with ran := b.ran ++ [.cut] }
      exact ⟨this.undo, this.redo, this.focused⟩
    | paste =>
      have := edited_replaceSelection { b with ran := b.ran ++ [.paste] } b.clipboard
      exact ⟨this.undo, this.redo, this.focused⟩
    | format =>
      have := edited_stripLineEnds { b with ran := b.ran ++ [.format] }
      exact ⟨this.undo, this.redo, this.focused⟩
    | delete =>
      have := (h.noted (b.ran ++ [.delete])).edited_delete hq
      exact ⟨this.undo, this.redo, this.focused⟩
    | _ => cases hq
  | _ => cases hq

/-! ## Back and forth -/

theorem undoEdit_nothing (h : b.undo = []) : b.undoEdit = b := by
  unfold undoEdit
  rw [h]

theorem redoEdit_nothing (h : b.redo = []) : b.redoEdit = b := by
  unfold redoEdit
  rw [h]

theorem undoEdit_something {s : Snapshot} {rest : List Snapshot} (h : b.undo = s :: rest) :
    b.undoEdit =
      { b with
        lines := s.lines, selection := s.selection, undo := rest, redo := b.snapshot :: b.redo } := by
  unfold undoEdit
  rw [h]

theorem redoEdit_something {s : Snapshot} {rest : List Snapshot} (h : b.redo = s :: rest) :
    b.redoEdit =
      { b with
        lines := s.lines, selection := s.selection, redo := rest, undo := b.snapshot :: b.undo } := by
  unfold redoEdit
  rw [h]

theorem editor_undo (hfocus : b.focused = true) :
    (editor (.run .undo) b).2 = undoEdit { b with ran := b.ran ++ [.undo] } := by
  rw [editor_focused hfocus]
  rfl

theorem editor_redo (hfocus : b.focused = true) :
    (editor (.run .redo) b).2 = redoEdit { b with ran := b.ran ++ [.redo] } := by
  rw [editor_focused hfocus]
  rfl

/-- At the first text there is no way back. -/
theorem undo_nothing (hfocus : b.focused = true) (h : b.undo = []) :
    (editor (.run .undo) b).2 = { b with ran := b.ran ++ [.undo] } :=
  (editor_undo hfocus).trans (undoEdit_nothing h)

/-- At the last text there is no way forth. -/
theorem redo_nothing (hfocus : b.focused = true) (h : b.redo = []) :
    (editor (.run .redo) b).2 = { b with ran := b.ran ++ [.redo] } :=
  (editor_redo hfocus).trans (redoEdit_nothing h)

theorem undo_something (hfocus : b.focused = true) {s : Snapshot} {rest : List Snapshot}
    (h : b.undo = s :: rest) : (editor (.run .undo) b).2 =
      { b with
        lines := s.lines
        selection := s.selection
        undo := rest
        redo := b.snapshot :: b.redo
        ran := b.ran ++ [.undo] } :=
  (editor_undo hfocus).trans (undoEdit_something h)

theorem redo_something (hfocus : b.focused = true) {s : Snapshot} {rest : List Snapshot}
    (h : b.redo = s :: rest) : (editor (.run .redo) b).2 =
      { b with
        lines := s.lines
        selection := s.selection
        undo := b.snapshot :: b.undo
        redo := rest
        ran := b.ran ++ [.redo] } :=
  (editor_redo hfocus).trans (redoEdit_something h)

/-- Whatever a buffer is asked, it keeps the focus or goes on without it. -/
theorem WellFormed.focused_editor (h : b.WellFormed) (q : Editor.Request) :
    (editor q b).2.focused = b.focused := by
  by_cases hfocus : b.focused = true
  · by_cases hundo : q = .run .undo
    · subst hundo
      cases hpast : b.undo with
      | nil => rw [undo_nothing hfocus hpast]
      | cons s rest => rw [undo_something hfocus hpast]
    · by_cases hredo : q = .run .redo
      · subst hredo
        cases hfuture : b.redo with
        | nil => rw [redo_nothing hfocus hfuture]
        | cons s rest => rw [redo_something hfocus hfuture]
      · cases hedit : b.isEdit q with
        | false => exact (kept_editor h hedit hundo hredo).focused
        | true => exact (edited_editor h hfocus hedit).focused
  · rw [editor, if_neg hfocus]

/-- Going back moves the mark by one, if it can be moved. -/
theorem timeline_undo (hfocus : b.focused = true) :
    (editor (.run .undo) b).2.timeline = b.timeline ∧
      (editor (.run .undo) b).2.moment = b.moment - 1 := by
  cases hundo : b.undo with
  | nil =>
    rw [undo_nothing hfocus hundo]
    refine ⟨rfl, ?_⟩
    simp [moment, hundo]
  | cons s rest =>
    rw [undo_something hfocus hundo]
    refine ⟨?_, ?_⟩
    · simp [timeline, hundo, Snapshot.text, Buffer.text, snapshot]
    · simp [moment, hundo]

/-- Going forth moves it by one the other way. -/
theorem timeline_redo (hfocus : b.focused = true) :
    (editor (.run .redo) b).2.timeline = b.timeline ∧
      (editor (.run .redo) b).2.moment = min (b.moment + 1) (b.timeline.length - 1) := by
  have hlength := b.length_timeline
  cases hredo : b.redo with
  | nil =>
    rw [hredo, List.length_nil] at hlength
    rw [redo_nothing hfocus hredo]
    refine ⟨rfl, ?_⟩
    show b.moment = _
    omega
  | cons s rest =>
    rw [hredo, List.length_cons] at hlength
    rw [redo_something hfocus hredo]
    refine ⟨?_, ?_⟩
    · simp [timeline, hredo, Snapshot.text, Buffer.text, snapshot]
    · show b.moment + 1 = _
      omega

/-- What was edited is restored by going back once. -/
theorem Edited.undo_restores (h : Edited b b') (hfocus : b.focused = true) :
    (editor (.run .undo) b').2.lines = b.lines ∧
      (editor (.run .undo) b').2.selection = b.selection := by
  rw [undo_something (h.focused.trans hfocus) h.undo]
  exact ⟨rfl, rfl⟩

/-- A command run a number of times. -/
def times (c : EditorCommand) : Nat → Buffer → Buffer
  | 0, b => b
  | k + 1, b => times c k (editor (.run c) b).2

theorem times_succ (c : EditorCommand) (k : Nat) (b : Buffer) :
    times c (k + 1) b = (editor (.run c) (times c k b)).2 := by
  induction k generalizing b with
  | zero => rfl
  | succ k ih => exact ih _

/-- A step forth after a step back restores everything, whatever was noted in
between. -/
theorem redo_undo (hfocus : b.focused = true) (hundo : b.undo ≠ []) (ran : List EditorCommand) :
    (editor (.run .redo) { (editor (.run .undo) b).2 with ran }).2 =
      { b with ran := ran ++ [.redo] } := by
  obtain ⟨s, rest, hcons⟩ := List.exists_cons_of_ne_nil hundo
  have hback := undo_something hfocus hcons
  have hfocused : Buffer.focused { (editor (.run .undo) b).2 with ran } = true := by
    rw [hback]
    exact hfocus
  have hredo : Buffer.redo { (editor (.run .undo) b).2 with ran } = b.snapshot :: b.redo := by
    rw [hback]
  rw [redo_something hfocused hredo, hback]
  cases b
  cases hcons
  rfl

/-- As many steps forth as were made back lead to where they began. -/
theorem times_redo_undo (hfocus : b.focused = true) {k : Nat} (hk : k ≤ b.moment) :
    times .redo k (times .undo k b) =
      { b with ran := b.ran ++ List.replicate k .undo ++ List.replicate k .redo } := by
  induction k generalizing b with
  | zero => simp [times]
  | succ k ih =>
    have hne : b.undo ≠ [] := by
      intro hnil
      rw [moment, hnil, List.length_nil] at hk
      omega
    obtain ⟨hfocused, hran⟩ : (editor (.run .undo) b).2.focused = true ∧
        (editor (.run .undo) b).2.ran = b.ran ++ [.undo] := by
      obtain ⟨s, rest, hcons⟩ := List.exists_cons_of_ne_nil hne
      rw [undo_something hfocus hcons]
      exact ⟨hfocus, rfl⟩
    have hmoment := (timeline_undo hfocus).2
    have hforth := ih hfocused (by omega)
    -- the last step forth undoes the first step back
    rw [times_succ, times, hforth, redo_undo hfocus hne, hran]
    rw [List.replicate_succ, List.replicate_succ']
    simp

/-! ## Every run of calls -/

/-- **The past and the future are one line.** After any run of calls, for a buffer
with the focus: going back and forth moves along the line of texts, where there is
a next one; an edit cuts the line behind the present text and adds the new one, and
going back once restores what was edited; any other request keeps line and text;
and as many steps forth as were made back restore everything. -/
theorem Reachable.history_linear (h : Reachable b) (hfocus : b.focused = true) :
    b.timeline[b.moment]? = some b.text ∧
      (let back := (editor (.run .undo) b).2;
        back.timeline = b.timeline ∧ back.moment = b.moment - 1 ∧
          (b.moment = 0 → back = { b with ran := b.ran ++ [.undo] })) ∧
      (let forth := (editor (.run .redo) b).2;
        forth.timeline = b.timeline ∧ forth.moment = min (b.moment + 1) (b.timeline.length - 1) ∧
          (b.moment + 1 = b.timeline.length → forth = { b with ran := b.ran ++ [.redo] })) ∧
      (∀ q, b.isEdit q = false → q ≠ .run .undo → q ≠ .run .redo →
        let after := (editor q b).2
        after.timeline = b.timeline ∧ after.moment = b.moment ∧ after.text = b.text) ∧
      (∀ q, b.isEdit q = true →
        let after := (editor q b).2
        let back := (editor (.run .undo) after).2
        after.timeline = b.timeline.take (b.moment + 1) ++ [after.text] ∧
          after.moment = b.moment + 1 ∧ back.lines = b.lines ∧ back.selection = b.selection) ∧
      ∀ k ≤ b.moment, times .redo k (times .undo k b) =
        { b with ran := b.ran ++ List.replicate k .undo ++ List.replicate k .redo } := by
  have hwell := h.wellFormed
  have hlength := b.length_timeline
  obtain ⟨hback, hbefore⟩ := timeline_undo hfocus
  obtain ⟨hforth, hafter⟩ := timeline_redo hfocus
  refine ⟨timeline_moment b, ⟨hback, hbefore, ?_⟩, ⟨hforth, hafter, ?_⟩, ?_, ?_, ?_⟩
  · intro hfirst
    exact undo_nothing hfocus (List.length_eq_zero_iff.1 hfirst)
  · intro hlast
    exact redo_nothing hfocus (List.length_eq_zero_iff.1 (by omega))
  · intro q hq hundo hredo
    have hkept := kept_editor hwell hq hundo hredo
    exact ⟨hkept.timeline, hkept.moment, hkept.text⟩
  · intro q hq
    have hedited := edited_editor hwell hfocus hq
    exact ⟨hedited.timeline, hedited.moment, hedited.undo_restores hfocus⟩
  · exact fun k hk => times_redo_undo hfocus hk

/-- An edit after a step back, which is then taken back in turn. -/
theorem history_linear_branch :
    ∃ b, Reachable b ∧ b.timeline = ["ab".toList, "xab".toList] ∧ b.moment = 0 ∧
      (editor (.insert "y") b).2.timeline = ["ab".toList, "yab".toList] ∧
      (editor (.run .undo) (editor (.insert "y") b).2).2.lines = ["ab".toList] ∧
      (editor (.run .undo) b).2 = { b with ran := b.ran ++ [.undo] } := by
  have h := ((Reachable.new "ab").call (.insert "x")).call (.run .undo)
  obtain ⟨-, ⟨-, -, hend⟩, -, -, hedit, -⟩ := h.history_linear (by decide +kernel)
  obtain ⟨htimeline, -, hlines, -⟩ := hedit (.insert "y") (by decide +kernel)
  exact ⟨_, h, by decide +kernel, by decide +kernel, htimeline.trans (by decide +kernel),
    hlines.trans (by decide +kernel), hend (by decide +kernel)⟩

end Buffer

end VoiceEdit
