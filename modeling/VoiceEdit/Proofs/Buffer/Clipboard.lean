import VoiceEdit.Proofs.Buffer.WellFormed

/-!
# The clipboard of a buffer

* `Request.keepsClipboard`: the requests that put nothing on the clipboard.
* `Buffer.clipboard_editor`: whatever the answer, they leave it as it was.
-/
namespace VoiceEdit

open Editor

/-- Whether a request leaves the clipboard alone. -/
def Editor.Request.keepsClipboard : Request → Bool
  | .run .copy | .run .cut => false
  | _ => true

namespace Buffer

variable {b : Buffer}

theorem clipboard_act {r : Except EditorError Buffer}
    (h : ∀ b', r = .ok b' → b'.clipboard = b.clipboard) : (b.act r).2.clipboard = b.clipboard := by
  cases r with
  | ok b' => exact h b' rfl
  | error e => rfl

theorem clipboard_moveBy {direction : Direction} {count : Nat} {r : Buffer}
    (h : b.moveBy direction count = .ok r) : r.clipboard = b.clipboard := by
  cases direction <;> simp only [moveBy, Except.ok.injEq, reduceCtorEq] at h <;> subst h <;> simp

theorem clipboard_select {anchor active : Position} {r : Buffer}
    (h : b.select anchor active = .ok r) : r.clipboard = b.clipboard := by
  obtain ⟨-, -, rfl⟩ := select_ok h
  rw [reveal_clipboard]

theorem clipboard_save {r : Buffer} (h : b.save = .ok r) : r.clipboard = b.clipboard := by
  unfold save at h
  split at h
  · cases h
    rfl
  · split at h
    · cases h
    · cases h
      rfl

theorem clipboard_delete (b : Buffer) : b.delete.clipboard = b.clipboard := by
  unfold delete
  simp only [placeCaret_clipboard]
  generalize (if b.selection.isEmpty then b.stepRight b.selection.start else b.selection.finish) = finish
  split <;> rfl

/-- Only copying and cutting put something on the clipboard. -/
theorem clipboard_command {c : EditorCommand} (h : (Request.run c).keepsClipboard = true) {r : Buffer}
    (hr : b.command c = .ok r) : r.clipboard = b.clipboard := by
  cases c with
  | copy | cut => cases h
  | saveFile | saveFileAs => exact clipboard_save hr
  | undo => cases hr; unfold undoEdit; split <;> rfl
  | redo => cases hr; unfold redoEdit; split <;> rfl
  | delete => cases hr; exact clipboard_delete b
  | expandSelection => cases hr; simp only [expandSelection]; split <;> rfl
  | scrollPageUp => cases hr; simp [scrollPageUp]
  | scrollPageDown => cases hr; simp [scrollPageDown]
  | format => cases hr; simp [stripLineEnds, checkpoint]
  | paste => cases hr; simp [replaceSelection, insertAt, deleteBetween, checkpoint]
  | _ => cases hr; rfl

theorem clipboard_editor {q : Request} (h : q.keepsClipboard = true) :
    (editor q b).2.clipboard = b.clipboard := by
  unfold editor
  split
  · cases q with
    | lineCount | lineText n | selection => rfl
    | insert t => simp [answer, act, insert, insertAt, checkpoint]
    | replace t => simp [answer, act, replaceSelection, insertAt, deleteBetween, checkpoint]
    | moveToLine n =>
      refine clipboard_act fun b' hb => ?_
      unfold moveToLine at hb
      split at hb
      · cases hb
        simp
      · cases hb
    | moveBy direction count => exact clipboard_act fun b' hb => clipboard_moveBy hb
    | moveTo target => simp [answer, act, moveTo]
    | select anchor active => exact clipboard_act fun b' hb => clipboard_select hb
    | run c =>
      simp only [answer, Buffer.run]
      cases hb : ({ b with ran := b.ran ++ [c] } : Buffer).command c with
      | ok b' => exact clipboard_command (b := { b with ran := b.ran ++ [c] }) h hb
      | error e => rfl
  · rfl

end Buffer

end VoiceEdit
