import VoiceEdit.Code
import VoiceEdit.Outcome
import VoiceEdit.Program

/-!
# Editors

An editor answers a fixed set of requests: it tells lines and the selection,
moves the cursor, changes text and runs commands. Lines and columns are counted
from 0, columns in characters.

* `Editor.Request`: what an editor may be asked; `isMutating` tells the requests
  that act from those that only read.
* `EditorAction`: a program of requests that stops at the first refusal.
-/
namespace VoiceEdit

/-- A place in a text. -/
structure Position where
  line : Nat
  column : Nat
  deriving DecidableEq, Repr, Inhabited

namespace Position

/-- The first place of a text. -/
def origin : Position := ⟨0, 0⟩

/-- A place is not after another. -/
def precedes (a b : Position) : Bool := a.line < b.line || (a.line == b.line && a.column ≤ b.column)

/-- The earlier of two places. -/
def earlier (a b : Position) : Position := if a.precedes b then a else b

/-- The later of two places. -/
def later (a b : Position) : Position := if a.precedes b then b else a

/-- A place as messages show it, counted from 1. -/
def shown (p : Position) : Text := Text.ofNat (p.line + 1) ++ ":" ++ Text.ofNat (p.column + 1)

end Position

/-- A stretch of text between an anchor and an active end, which is the cursor. -/
structure Selection where
  anchor : Position
  active : Position
  deriving DecidableEq, Repr, Inhabited

namespace Selection

/-- The empty selection at a place. -/
def caret (at_ : Position) : Selection := ⟨at_, at_⟩

/-- Whether nothing is selected. -/
def isEmpty (s : Selection) : Bool := s.anchor == s.active

/-- The earlier end. -/
def start (s : Selection) : Position := s.anchor.earlier s.active

/-- The later end. -/
def finish (s : Selection) : Position := s.anchor.later s.active

end Selection

/-- Cursor destinations that an object names. -/
inductive Target where
  | lineStart | lineEnd | lineFirstNonBlank | lineLastNonBlank
  | fileStart | fileEnd | viewPortTop | viewPortBottom
  | previousBlankLine | nextBlankLine
  deriving DecidableEq, Repr

/-- Commands of the editor and its workbench that need no place. -/
inductive EditorCommand where
  | navigateBack | navigateForward | nextTab | previousTab | scrollPageUp | scrollPageDown
  | revealDefinition | selectAll | expandSelection | shrinkSelection
  | saveFile | saveFileAs | newFile | newWindow | closeTab | closeWindow | openFile
  | copy | cut | paste | undo | redo | format | toggleBreakpoint | openSettings
  /-- Delete the selection, or the character after the cursor. -/
  | delete
  | showSuggestions | acceptSuggestion
  | terminal (action : TerminalAction)
  deriving DecidableEq, Repr

namespace Editor

/-- What an editor may be asked. -/
inductive Request where
  | lineCount
  /-- The text of a line, without its line feed. -/
  | lineText (line : Nat)
  | selection
  /-- Put a caret at the start of a line. -/
  | moveToLine (line : Nat)
  /-- Move the cursor relative to where it is. -/
  | moveBy (direction : Direction) (count : Nat)
  | moveTo (target : Target)
  | select (anchor active : Position)
  /-- Insert at the cursor and leave the cursor after the text. -/
  | insert (text : Text)
  /-- Replace the selection, or insert where it is empty. -/
  | replace (text : Text)
  | run (command : EditorCommand)
  deriving DecidableEq, Repr

/-- What a granted request is answered with. -/
def Request.Result : Request → Type
  | lineCount => Nat
  | lineText _ => Text
  | selection => Selection
  | _ => Unit

/-- Whether a request acts on the editor. -/
def Request.isMutating : Request → Bool
  | lineCount | lineText _ | selection => false
  | _ => true

/-- Every request may be refused. -/
abbrev interface : Interface := ⟨Request, fun q => Except EditorError q.Result⟩

end Editor

/-- A program of editor requests. -/
abbrev EditorProgram (α : Type) : Type := Program Editor.interface α

/-- A program of editor requests that stops at the first refusal. -/
abbrev EditorAction (α : Type) : Type := ExceptT EditorError (Program Editor.interface) α

namespace Editor

/-- Ask for one request to be granted. -/
def call (q : Request) : EditorAction q.Result := ExceptT.mk (Program.request (I := interface) q)

/-- The number of lines. -/
def lineCount : EditorAction Nat := call .lineCount

/-- The text of a line. -/
def lineText (line : Nat) : EditorAction Text := call (.lineText line)

/-- The selection. -/
def selection : EditorAction Selection := call .selection

/-- The cursor. -/
def cursor : EditorAction Position := return (← selection).active

/-- Put a caret at the start of a line. -/
def moveToLine (line : Nat) : EditorAction Unit := call (.moveToLine line)

/-- Move the cursor by a count of lines or characters. -/
def moveBy (direction : Direction) (count : Nat) : EditorAction Unit := call (.moveBy direction count)

/-- Move the cursor to a destination. -/
def moveTo (target : Target) : EditorAction Unit := call (.moveTo target)

/-- Select from an anchor to an active end. -/
def select (anchor active : Position) : EditorAction Unit := call (.select anchor active)

/-- Insert text at the cursor. -/
def insert (text : Text) : EditorAction Unit := call (.insert text)

/-- Replace the selection. -/
def replace (text : Text) : EditorAction Unit := call (.replace text)

/-- Run a command. -/
def run (command : EditorCommand) : EditorAction Unit := call (.run command)

/-- The character to the left of the cursor, if the cursor is not at the start
of its line. -/
def charBeforeCursor : EditorAction (Option Char) := do
  let at_ ← cursor
  match at_.column with
  | 0 => return none
  | column + 1 => return (← lineText at_.line)[column]?

end Editor

end VoiceEdit
