import VoiceEdit.Command.Basic

/-!
# Moving the cursor

| combination                 | effect                                        |
|-----------------------------|-----------------------------------------------|
| Number                      | jump to a line, counted from 1                |
| Direction                   | one step, the ends of the line, or navigation |
| ObjectNoun                  | `DEFINITION` only                             |
| Number·Direction            | move by a count                               |
| Number·ObjectNoun           | `LINE` only: jump to a line                   |
| ObjectNoun·Direction        | an end of an object, or a step by it          |
| Number·ObjectNoun·Direction | a counted step by an object                   |

A count does not apply to an absolute direction, nor a large one to an object
that is stepped over singly; such a combination is declined.
-/
namespace VoiceEdit.Movement

open Editor

/-- Counts from here on do not apply to pages, blank lines and tabs. -/
def singleStepLimit : Nat := 9

/-- A caret at the start of a line counted from 1. -/
def jumpToLine : Nat → EditorProgram Step
  | 0 => Step.invalid
  | line + 1 => Step.ofAction (moveToLine line)

/-- What a direction alone does. -/
def oneStep : Direction → EditorAction Unit
  | .start => moveTo .lineStart
  | .finish => moveTo .lineEnd
  | .next => run .navigateForward
  | .previous => run .navigateBack
  | direction => moveBy direction 1

/-- What an object with a direction does, if anything. -/
def objectStep : EditorObject → Direction → Option (EditorAction Unit)
  | .line, .start => moveTo .lineFirstNonBlank
  | .line, .finish => moveTo .lineLastNonBlank
  | .line, .up | .line, .previous => moveBy .up 1
  | .line, .down | .line, .next => moveBy .down 1
  | .file, .start => moveTo .fileStart
  | .file, .finish => moveTo .fileEnd
  | .viewPort, .start => moveTo .viewPortTop
  | .viewPort, .finish => moveTo .viewPortBottom
  | .page, .up | .page, .previous => run .scrollPageUp
  | .page, .down | .page, .next => run .scrollPageDown
  | .blankLine, .up | .blankLine, .previous => moveTo .previousBlankLine
  | .blankLine, .down | .blankLine, .next => moveTo .nextBlankLine
  | .tab, .right | .tab, .next => run .nextTab
  | .tab, .left | .tab, .previous => run .previousTab
  | _, _ => none

/-- An object with a direction as a step. -/
def stepByObject (object : EditorObject) (direction : Direction) : EditorProgram Step :=
  match objectStep object direction with
  | some action => Step.ofAction action
  | none => Step.invalid

/-! ## Actions -/

/-- `Number`. -/
def goToLine : TokenAction
  | [line] =>
    match line.number? with
    | some line => jumpToLine line
    | none => Step.invalid
  | _ => Step.invalid

/-- `Direction`. -/
def goDirection : TokenAction
  | [direction] =>
    match direction.coded? Direction with
    | some direction => Step.ofAction (oneStep direction)
    | none => Step.invalid
  | _ => Step.invalid

/-- `ObjectNoun`. -/
def goObject : TokenAction
  | [object] =>
    match object.coded? EditorObject with
    | some .definition => Step.ofAction (run .revealDefinition)
    | _ => Step.invalid
  | _ => Step.invalid

/-- `Number·Direction`. -/
def goCount : TokenAction
  | [count, direction] =>
    match count.number?, direction.coded? Direction with
    | some count, some direction =>
      if direction.isAbsolute then .done .declined else Step.ofAction (moveBy direction count)
    | _, _ => Step.invalid
  | _ => Step.invalid

/-- `Number·ObjectNoun`. -/
def goNumberedObject : TokenAction
  | [number, object] =>
    match number.number?, object.coded? EditorObject with
    | some line, some .line => jumpToLine line
    | _, _ => Step.invalid
  | _ => Step.invalid

/-- `ObjectNoun·Direction`. -/
def goObjectDirection : TokenAction
  | [object, direction] =>
    match object.coded? EditorObject, direction.coded? Direction with
    | some object, some direction => stepByObject object direction
    | _, _ => Step.invalid
  | _ => Step.invalid

/-- A counted step by an object. -/
def countedStep (count : Nat) (object : EditorObject) (direction : Direction) :
    EditorProgram Step :=
  if direction.isAbsolute then .done .declined
  else
    match object, direction with
    | .line, .up => Step.ofAction (moveBy .up count)
    | .line, .down => Step.ofAction (moveBy .down count)
    | .page, _ | .blankLine, _ | .tab, _ =>
      if count < singleStepLimit then stepByObject object direction else .done .declined
    | _, _ => Step.invalid

/-- `Number·ObjectNoun·Direction`. -/
def goCountedObject : TokenAction
  | [count, object, direction] =>
    match count.number?, object.coded? EditorObject, direction.coded? Direction with
    | some count, some object, some direction => countedStep count object direction
    | _, _, _ => Step.invalid
  | _ => Step.invalid

/-- The combinations of cursor movement. -/
def table : RuleTable TokenAction :=
  (RuleTable.empty "GO" [.number, .objectNoun, .direction])
    |>.bind [.number] goToLine
    |>.bind [.direction] goDirection
    |>.bind [.objectNoun] goObject
    |>.bind [.number, .direction] goCount
    |>.bind [.number, .objectNoun] goNumberedObject
    |>.bind [.objectNoun, .direction] goObjectDirection
    |>.bind [.number, .objectNoun, .direction] goCountedObject

/-- Move the cursor as some tokens say. -/
def go (tokens : List Token) : EditorProgram Outcome :=
  (table.carryOut tokens).bind fun r => .done r.outcome

end VoiceEdit.Movement
