import VoiceEdit.Editor.Basic
import VoiceEdit.Text.Blank

/-!
# Text buffers

A buffer holds a text by lines, one selection, a clipboard, a viewport of fixed
height and the states before and after the present one.

* `Buffer.text`, `Buffer.selectedText`: the text as one piece, and the selected
  part of it.
* `Buffer.check`: the places that a selection may name.
* `Buffer.reveal`: scrolling as little as shows a line.
-/
namespace VoiceEdit

open Text

/-- The lines and the selection at one moment. -/
structure Snapshot where
  lines : List Text
  selection : Selection
  deriving DecidableEq, Repr

/-- The file that a buffer is saved to. -/
structure BoundFile where
  name : Text
  /-- Why the file cannot be written, if it cannot. -/
  refusal : Option Text
  /-- What the last save wrote, if there was one. -/
  saved : Option Text
  deriving DecidableEq, Repr

/-- A text with a selection, a clipboard, a viewport and a history. -/
structure Buffer where
  lines : List Text
  selection : Selection
  focused : Bool
  file : Option BoundFile
  clipboard : Text
  /-- The first line in view. -/
  viewTop : Nat
  /-- Earlier states, the latest first. -/
  undo : List Snapshot
  /-- States that were undone, the next to restore first. -/
  redo : List Snapshot
  /-- The commands that were run, in order. -/
  ran : List EditorCommand
  deriving DecidableEq, Repr

namespace Buffer

/-- The number of lines in view. -/
def viewHeight : Nat := 30

/-- A focused buffer of a text, with the cursor at its start. -/
def ofText (text : Text) : Buffer where
  lines := splitLines text
  selection := .caret .origin
  focused := true
  file := none
  clipboard := []
  viewTop := 0
  undo := []
  redo := []
  ran := []

/-! ## Views -/

/-- The whole text. -/
def text (b : Buffer) : Text := joinLines b.lines

/-- A line; beyond the last line, nothing. -/
def line (b : Buffer) (n : Nat) : Text := (b.lines[n]?).getD []

/-- The length of a line in characters. -/
def lineLength (b : Buffer) (n : Nat) : Nat := (b.line n).length

/-- The last line. -/
def lastLine (b : Buffer) : Nat := b.lines.length - 1

/-- The place after the last character. -/
def endOfText (b : Buffer) : Position := ⟨b.lastLine, b.lineLength b.lastLine⟩

/-- The text between two places, the earlier first. -/
def textBetween (b : Buffer) (start finish : Position) : Text :=
  if start.line = finish.line then
    ((b.line start.line).take finish.column).drop start.column
  else
    let middle := (b.lines.take finish.line).drop (start.line + 1)
    joinLines ((b.line start.line).drop start.column ::
      (middle ++ [(b.line finish.line).take finish.column]))

/-- The selected text. -/
def selectedText (b : Buffer) : Text := b.textBetween b.selection.start b.selection.finish

/-- The text of a line that exists. -/
def lineText (b : Buffer) (n : Nat) : Except EditorError Text :=
  match b.lines[n]? with
  | some t => .ok t
  | none => .error (.outOfRange ("line " ++ ofNat (n + 1)))

/-- The lines and the selection as they are. -/
def snapshot (b : Buffer) : Snapshot := ⟨b.lines, b.selection⟩

/-! ## The selection and the viewport -/

/-- Whether a place is in the text. -/
def check (b : Buffer) (p : Position) : Except EditorError Unit :=
  if p.line < b.lines.length ∧ p.column ≤ b.lineLength p.line then .ok ()
  else .error (.outOfRange p.shown)

/-- Scroll as little as brings a line into view. -/
def reveal (b : Buffer) (n : Nat) : Buffer :=
  if n < b.viewTop then { b with viewTop := n }
  else if b.viewTop + viewHeight ≤ n then { b with viewTop := n + 1 - viewHeight }
  else b

/-- Put an empty selection at a place and bring it into view. -/
def placeCaret (b : Buffer) (p : Position) : Buffer :=
  { b with selection := .caret p }.reveal p.line

/-- Select from an anchor to an active end, both in the text. -/
def select (b : Buffer) (anchor active : Position) : Except EditorError Buffer := do
  b.check anchor
  b.check active
  return { b with selection := ⟨anchor, active⟩ }.reveal active.line

/-- Remember the present state as the one before an edit. -/
def checkpoint (b : Buffer) : Buffer := { b with undo := b.snapshot :: b.undo, redo := [] }

end Buffer

end VoiceEdit
