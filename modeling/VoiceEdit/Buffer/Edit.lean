import VoiceEdit.Buffer.Motion

/-!
# Changing the text of a buffer

* `Buffer.deleteBetween`: the text between two places is taken out and the lines
  of its ends are joined.
* `Buffer.insertAt`: a text is put in at a place; line feeds in it begin lines.
* `Buffer.insert`, `Buffer.replaceSelection`, `Buffer.cut`, `Buffer.delete`,
  `Buffer.stripLineEnds`: the edits, each of which can be undone in one step.
-/
namespace VoiceEdit.Buffer

open Text

/-! ## Cutting out and putting in -/

/-- Take out the text between two places, the earlier first. -/
def deleteBetween (b : Buffer) (start finish : Position) : Buffer :=
  let joined := (b.line start.line).take start.column ++ (b.line finish.line).drop finish.column
  { b with lines := b.lines.take start.line ++ joined :: b.lines.drop (finish.line + 1) }

/-- Lines with text in front of the first and after the last. -/
def surround (head tail : Text) : List Text → List Text
  | [] => [head ++ tail]
  | [l] => [head ++ l ++ tail]
  | l :: m :: rest => (head ++ l) :: surround [] tail (m :: rest)

/-- Put a text in at a place. -/
def insertAt (b : Buffer) (p : Position) (t : Text) : Buffer :=
  let head := (b.line p.line).take p.column
  let tail := (b.line p.line).drop p.column
  { b with
    lines := b.lines.take p.line ++ surround head tail (splitLines t) ++ b.lines.drop (p.line + 1) }

/-- The place after a text that is put in at a place. -/
def placeAfter (p : Position) (t : Text) : Position :=
  match splitLines t with
  | [] => p
  | [l] => ⟨p.line, p.column + l.length⟩
  | _ :: l :: rest => ⟨p.line + rest.length + 1, (rest.getLast?.getD l).length⟩

/-! ## Edits -/

/-- Insert a text at the cursor and leave the cursor after it. -/
def insert (b : Buffer) (t : Text) : Buffer :=
  let p := b.selection.active
  (b.checkpoint.insertAt p t).placeCaret (placeAfter p t)

/-- Put a text in the place of the selection and leave the cursor after it. -/
def replaceSelection (b : Buffer) (t : Text) : Buffer :=
  let start := b.selection.start
  ((b.checkpoint.deleteBetween start b.selection.finish).insertAt start t).placeCaret
    (placeAfter start t)

/-- Move the selected text to the clipboard. -/
def cut (b : Buffer) : Buffer :=
  let start := b.selection.start
  ({ b with clipboard := b.selectedText }.checkpoint.deleteBetween start
    b.selection.finish).placeCaret start

/-- Delete the selection, or the character after the cursor; where there is
nothing to delete, no state is remembered. -/
def delete (b : Buffer) : Buffer :=
  let start := b.selection.start
  let finish := if b.selection.isEmpty then b.stepRight start else b.selection.finish
  (if start = finish then b else b.checkpoint.deleteBetween start finish).placeCaret start

/-- Take the white space off the end of every line. -/
def stripLineEnds (b : Buffer) : Buffer :=
  let stripped := { b.checkpoint with lines := b.lines.map trimEnd }
  let p := b.selection.active
  stripped.placeCaret (stripped.clampTo p.line p.column)

end VoiceEdit.Buffer
