import VoiceEdit.Command.Movement

/-!
# Selecting

Without arguments the selection grows. With the delimiters `FROM` and `TO` each
run of tokens moves the cursor, and the places reached bound the selection.
Everything else goes through the rules of selection.
-/
namespace VoiceEdit.Selecting

open Editor

/-! ## Ranges -/

/-- The range delimiter that a token is, if any. -/
def delimiter? (t : Token) : Option Selector :=
  if t.kind = .selector then
    match t.coded? Selector with
    | some .rangeFrom => some .rangeFrom
    | some .rangeTo => some .rangeTo
    | _ => none
  else none

/-- Whether a token delimits a range. -/
def isDelimiter (t : Token) : Bool := (delimiter? t).isSome

/-- The runs of tokens before and after the first `TO`, without a `FROM` at the
start of the first run. -/
def rangeRuns (tokens : List Token) : List Token × List Token :=
  let isTo := fun t => delimiter? t == some .rangeTo
  let fromRun := tokens.takeWhile fun t => !isTo t
  let toRun := (tokens.dropWhile fun t => !isTo t).drop 1
  match fromRun with
  | first :: rest => if delimiter? first == some .rangeFrom then (rest, toRun) else (fromRun, toRun)
  | [] => ([], toRun)

/-- The cursor after a run of movement tokens; an empty run stays at `fallback`. -/
def cursorAfter (tokens : List Token) (fallback : Position) :
    EditorProgram (Except Outcome Position) :=
  if tokens.isEmpty then .done (.ok fallback)
  else
    (Movement.go tokens).bind fun outcome =>
      if outcome.isSuccess then
        Program.bind cursor.run fun
          | .ok at_ => .done (.ok at_)
          | .error e => .done (.error (.ofEditorError e))
      else .done (.error outcome)

/-- Select from where the first run leads to where the second run leads from
there. -/
def selectRange (tokens : List Token) : EditorProgram Outcome :=
  let (fromRun, toRun) := rangeRuns tokens
  if fromRun.any isDelimiter || toRun.any isDelimiter then .done .invalidArgument
  else
    Program.bind selection.run fun
      | .error e => .done (.ofEditorError e)
      | .ok previous =>
        (cursorAfter fromRun previous.active).bind fun
          | .error outcome => .done outcome
          | .ok start =>
            (cursorAfter toRun previous.finish).bind fun
              | .error outcome => .done outcome
              | .ok finish => Outcome.ofAction (select start finish)

/-! ## Lines and extensions -/

/-- Select a line, from its indentation on if asked. -/
def selectLine (line : Nat) (fromIndentation : Bool) : EditorAction Unit := do
  let text ← lineText line
  let start := if fromIndentation then (Text.indentation text).length else 0
  select ⟨line, start⟩ ⟨line, text.length⟩

/-- Select the line of the cursor. -/
def selectCursorLine (fromIndentation : Bool) : EditorAction Unit := do
  selectLine (← cursor).line fromIndentation

/-- Keep the anchor and let a motion move the active end. -/
def extend (motion : EditorAction Unit) : EditorAction Unit := do
  let anchor := (← selection).anchor
  motion
  select anchor (← cursor)

/-- Select a line counted from 1. -/
def selectNumberedLine : Nat → EditorProgram Step
  | 0 => Step.invalid
  | line + 1 => Step.ofAction (selectLine line false)

/-! ## Actions -/

/-- `Number`. -/
def selectNumber : TokenAction
  | [number] =>
    match number.number? with
    | some line => selectNumberedLine line
    | none => Step.invalid
  | _ => Step.invalid

/-- `Selector`. -/
def selectBySelector : TokenAction
  | [selector] =>
    match selector.coded? Selector with
    | some .all => Step.ofAction (run .selectAll)
    | some .more => Step.ofAction (run .expandSelection)
    | some .less => Step.ofAction (run .shrinkSelection)
    | some .toStart => Step.ofAction (extend (moveTo .lineStart))
    | some .toEnd => Step.ofAction (extend (moveTo .lineEnd))
    | _ => Step.invalid
  | _ => Step.invalid

/-- `ObjectNoun`. -/
def selectObject : TokenAction
  | [object] =>
    match object.coded? EditorObject with
    | some .line => Step.ofAction (selectCursorLine false)
    | some .file => Step.ofAction (run .selectAll)
    | _ => Step.invalid
  | _ => Step.invalid

/-- `Direction`. -/
def extendByDirection : TokenAction
  | [direction] =>
    match direction.coded? Direction with
    | some .start => Step.ofAction (extend (moveTo .lineStart))
    | some .finish => Step.ofAction (extend (moveTo .lineEnd))
    | some direction =>
      if direction.isAbsolute then Step.invalid
      else Step.ofAction (extend (moveBy direction 1))
    | none => Step.invalid
  | _ => Step.invalid

/-- `Number·ObjectNoun`. -/
def selectNumberedObject : TokenAction
  | [number, object] =>
    match number.number?, object.coded? EditorObject with
    | some line, some .line => selectNumberedLine line
    | _, _ => Step.invalid
  | _ => Step.invalid

/-- `Number·Direction`. -/
def extendByCount : TokenAction
  | [count, direction] =>
    match count.number?, direction.coded? Direction with
    | some count, some direction =>
      if direction.isAbsolute then .done .declined
      else Step.ofAction (extend (moveBy direction count))
    | _, _ => Step.invalid
  | _ => Step.invalid

/-- `Selector·ObjectNoun`. -/
def selectQualifiedObject : TokenAction
  | [selector, object] =>
    match selector.coded? Selector, object.coded? EditorObject with
    | some .all, some .line => Step.ofAction (selectCursorLine true)
    | some .all, some .file => Step.ofAction (run .selectAll)
    | some .toStart, some .line => Step.ofAction (extend (moveTo .lineStart))
    | some .toEnd, some .line => Step.ofAction (extend (moveTo .lineEnd))
    | some .toStart, some .file => Step.ofAction (extend (moveTo .fileStart))
    | some .toEnd, some .file => Step.ofAction (extend (moveTo .fileEnd))
    | _, _ => Step.invalid
  | _ => Step.invalid

/-- Keep the anchor and move the active end by an object. -/
def extendByObject (object : EditorObject) (direction : Direction) : EditorProgram Step :=
  Program.bind selection.run fun
    | .error e => .done (.failed (.ofEditorError e))
    | .ok before =>
      (Movement.stepByObject object direction).bind fun
        | .done => Step.ofAction do select before.anchor (← cursor)
        | other => .done other

/-- `ObjectNoun·Direction`. -/
def extendToObject : TokenAction
  | [object, direction] =>
    match object.coded? EditorObject, direction.coded? Direction with
    | some .page, some _ | some .tab, some _ => Step.invalid
    | some object, some direction => extendByObject object direction
    | _, _ => Step.invalid
  | _ => Step.invalid

/-- The combinations of selection. -/
def table : RuleTable TokenAction :=
  (RuleTable.empty "SELECT" [.number, .selector, .objectNoun, .direction])
    |>.bind [.number] selectNumber
    |>.bind [.selector] selectBySelector
    |>.bind [.objectNoun] selectObject
    |>.bind [.direction] extendByDirection
    |>.bind [.number, .objectNoun] selectNumberedObject
    |>.bind [.number, .direction] extendByCount
    |>.bind [.selector, .objectNoun] selectQualifiedObject
    |>.bind [.objectNoun, .direction] extendToObject

/-- Select as some tokens say. -/
def selectTokens (tokens : List Token) : EditorProgram Outcome :=
  if tokens.isEmpty then Outcome.ofAction (run .expandSelection)
  else if tokens.any isDelimiter then selectRange tokens
  else (table.carryOut tokens).bind fun r => .done r.outcome

end VoiceEdit.Selecting
