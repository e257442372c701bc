import VoiceEdit.Buffer.Basic

/-!
# Moving the cursor of a buffer

* `Buffer.moveToLine`, `Buffer.moveBy`, `Buffer.moveTo`: a caret at a line, at a
  distance or at a destination.
* `Buffer.stepLeft`, `Buffer.stepRight`: the neighbours of a place, across line
  ends; at the ends of the text a place is its own neighbour.
-/
namespace VoiceEdit.Buffer

open Text

/-- The place one character before a place. -/
def stepLeft (b : Buffer) (p : Position) : Position :=
  if 0 < p.column then ⟨p.line, p.column - 1⟩
  else if 0 < p.line then ⟨p.line - 1, b.lineLength (p.line - 1)⟩
  else p

/-- The place one character after a place. -/
def stepRight (b : Buffer) (p : Position) : Position :=
  if p.column < b.lineLength p.line then ⟨p.line, p.column + 1⟩
  else if p.line < b.lastLine then ⟨p.line + 1, 0⟩
  else p

/-- Repeat a step, stopping early where it leads nowhere. -/
def walk (step : Position → Position) : Nat → Position → Position
  | 0, p => p
  | count + 1, p => if step p = p then p else walk step count (step p)

/-- A place in a line, no further than its end. -/
def clampTo (b : Buffer) (line column : Nat) : Position := ⟨line, min column (b.lineLength line)⟩

/-- A caret at the start of a line that exists. -/
def moveToLine (b : Buffer) (n : Nat) : Except EditorError Buffer :=
  if n < b.lines.length then .ok (b.placeCaret ⟨n, 0⟩)
  else .error (.outOfRange ("line " ++ ofNat (n + 1) ++ " of " ++ ofNat b.lines.length))

/-- A caret at a count of lines or characters from the cursor. -/
def moveBy (b : Buffer) (direction : Direction) (count : Nat) : Except EditorError Buffer :=
  let p := b.selection.active
  match direction with
  | .up => .ok (b.placeCaret (b.clampTo (p.line - count) p.column))
  | .down => .ok (b.placeCaret (b.clampTo (min (p.line + count) b.lastLine) p.column))
  | .left => .ok (b.placeCaret (walk b.stepLeft count p))
  | .right => .ok (b.placeCaret (walk b.stepRight count p))
  | _ => .error (.rejected (code direction ++ " is not a relative direction"))

/-- Whether a line holds nothing but white space. -/
def isBlankLine (b : Buffer) (n : Nat) : Bool := (b.line n).all isBlank

/-- The nearest blank line before a line, or the first line. -/
def blankLineBefore (b : Buffer) (n : Nat) : Nat :=
  ((List.range n).reverse.find? b.isBlankLine).getD 0

/-- The nearest blank line after a line, or the last line. -/
def blankLineAfter (b : Buffer) (n : Nat) : Nat :=
  ((List.range b.lines.length).find? fun m => n < m && b.isBlankLine m).getD b.lastLine

/-- The place of a destination. -/
def targetPosition (b : Buffer) : Target → Position
  | .lineStart => ⟨b.selection.active.line, 0⟩
  | .lineEnd => ⟨b.selection.active.line, b.lineLength b.selection.active.line⟩
  | .lineFirstNonBlank =>
    ⟨b.selection.active.line, (indentation (b.line b.selection.active.line)).length⟩
  | .lineLastNonBlank =>
    ⟨b.selection.active.line, (trimEnd (b.line b.selection.active.line)).length⟩
  | .fileStart => .origin
  | .fileEnd => b.endOfText
  | .viewPortTop => ⟨min b.viewTop b.lastLine, 0⟩
  | .viewPortBottom => ⟨min (b.viewTop + viewHeight - 1) b.lastLine, 0⟩
  | .previousBlankLine => ⟨b.blankLineBefore b.selection.active.line, 0⟩
  | .nextBlankLine => ⟨b.blankLineAfter b.selection.active.line, 0⟩

/-- A caret at a destination. -/
def moveTo (b : Buffer) (target : Target) : Buffer := b.placeCaret (b.targetPosition target)

end VoiceEdit.Buffer
