import VoiceEdit.Buffer.Edit

/-!
# A buffer as an editor

* `Buffer.command`: what a command does to a buffer; a command of the workbench
  leaves it as it is.
* `Buffer.editor`: a buffer answering requests; without the focus it refuses all
  of them.
-/
namespace VoiceEdit.Buffer

open Text

/-- Go back to the state before the last edit, if there is one. -/
def undoEdit (b : Buffer) : Buffer :=
  match b.undo with
  | [] => b
  | s :: rest =>
    { b with lines := s.lines, selection := s.selection, undo := rest, redo := b.snapshot :: b.redo }

/-- Restore the state that was undone last, if there is one. -/
def redoEdit (b : Buffer) : Buffer :=
  match b.redo with
  | [] => b
  | s :: rest =>
    { b with lines := s.lines, selection := s.selection, redo := rest, undo := b.snapshot :: b.undo }

/-- Scroll up by one view and take the cursor along. -/
def scrollPageUp (b : Buffer) : Buffer :=
  { b with viewTop := b.viewTop - viewHeight }.placeCaret ⟨b.selection.active.line - viewHeight, 0⟩

/-- Scroll down by one view and take the cursor along. -/
def scrollPageDown (b : Buffer) : Buffer :=
  { b with viewTop := min (b.viewTop + viewHeight) b.lastLine }.placeCaret
    ⟨min (b.selection.active.line + viewHeight) b.lastLine, 0⟩

/-- Select everything. -/
def selectAll (b : Buffer) : Buffer := { b with selection := ⟨.origin, b.endOfText⟩ }

/-- Select the line of the cursor, or everything if something is selected or the
line is empty. -/
def expandSelection (b : Buffer) : Buffer :=
  let n := b.selection.active.line
  if b.selection.isEmpty && 0 < b.lineLength n then
    { b with selection := ⟨⟨n, 0⟩, ⟨n, b.lineLength n⟩⟩ }
  else b.selectAll

/-- Reduce the selection to the cursor. -/
def shrinkSelection (b : Buffer) : Buffer :=
  { b with selection := .caret b.selection.active }

/-- Write the text to the bound file, if there is one. -/
def save (b : Buffer) : Except EditorError Buffer :=
  match b.file with
  | none => .ok b
  | some file =>
    match file.refusal with
    | some reason => .error (.rejected (file.name ++ ": " ++ reason))
    | none => .ok { b with file := some { file with saved := some b.text } }

/-- What a command does to a buffer. -/
def command (b : Buffer) : EditorCommand → Except EditorError Buffer
  | .scrollPageUp => .ok b.scrollPageUp
  | .scrollPageDown => .ok b.scrollPageDown
  | .selectAll => .ok b.selectAll
  | .expandSelection => .ok b.expandSelection
  | .shrinkSelection => .ok b.shrinkSelection
  | .copy => .ok { b with clipboard := b.selectedText }
  | .cut => .ok b.cut
  | .paste => .ok (b.replaceSelection b.clipboard)
  | .delete => .ok b.delete
  | .undo => .ok b.undoEdit
  | .redo => .ok b.redoEdit
  | .format => .ok b.stripLineEnds
  | .saveFile | .saveFileAs => b.save
  | _ => .ok b

/-- Run a command; that it was run is remembered even if it fails. -/
def run (b : Buffer) (c : EditorCommand) : Except EditorError Unit × Buffer :=
  let noted := { b with ran := b.ran ++ [c] }
  match noted.command c with
  | .ok after => (.ok (), after)
  | .error e => (.error e, noted)

/-- The answer and the buffer after an act that may be refused; a refused act
changes nothing. -/
def act (b : Buffer) : Except EditorError Buffer → Except EditorError Unit × Buffer
  | .ok after => (.ok (), after)
  | .error e => (.error e, b)

/-- A focused buffer's answer to a request. -/
def answer : Handler Editor.interface Buffer
  | .lineCount, b => (.ok b.lines.length, b)
  | .lineText n, b => (b.lineText n, b)
  | .selection, b => (.ok b.selection, b)
  | .moveToLine n, b => b.act (b.moveToLine n)
  | .moveBy direction count, b => b.act (b.moveBy direction count)
  | .moveTo target, b => b.act (.ok (b.moveTo target))
  | .select anchor active, b => b.act (b.select anchor active)
  | .insert t, b => b.act (.ok (b.insert t))
  | .replace t, b => b.act (.ok (b.replaceSelection t))
  | .run c, b => b.run c

/-- A buffer as an editor. -/
def editor : Handler Editor.interface Buffer := fun q b =>
  if b.focused then answer q b else (.error .noActiveEditor, b)

end VoiceEdit.Buffer
