import VoiceEdit.Command.Selecting
import VoiceEdit.Proofs.Command.Candid

/-!
# Moving and selecting candidly

* `Movement.movesOnce_table`: every rule of cursor movement makes one request at most.
* `Movement.candid_go`: moving the cursor tells the first refusal and succeeds by
  requests only.
* `Selecting.candid_selectTokens`: so does selecting, also where both ends of a
  range are reached by movements.
-/
namespace VoiceEdit

open Editor Program

/-! ## Moving the cursor -/

/-- Whether a command moves the cursor, the view or between tabs. -/
def EditorCommand.moves : EditorCommand → Bool
  | .navigateBack | .navigateForward | .nextTab | .previousTab | .scrollPageUp | .scrollPageDown
  | .revealDefinition => true
  | _ => false

/-- Whether a request moves the cursor, the view or between tabs. -/
def Editor.Request.moves : Request → Bool
  | .moveToLine _ | .moveBy _ _ | .moveTo _ => true
  | .run c => c.moves
  | _ => false

namespace Movement

/-- A step that turns its tokens down unasked, or makes one request to move. -/
inductive MovesOnce : EditorProgram Step → Prop where
  | declined : MovesOnce (.done .declined)
  | invalid : MovesOnce Step.invalid
  | request (q : Request) (h : q.moves = true) : MovesOnce (Step.ofAction (call q))

theorem MovesOnce.candid {p : EditorProgram Step} (h : MovesOnce p) : CandidStep p := by
  cases h with
  | declined => exact candid_declined
  | invalid => exact candid_invalid
  | request q _ => exact candid_step (candid_call q)

theorem movesOnce_jumpToLine (n : Nat) : MovesOnce (jumpToLine n) := by
  cases n with
  | zero => exact .invalid
  | succ line => exact .request (.moveToLine line) rfl

theorem movesOnce_oneStep (direction : Direction) : MovesOnce (Step.ofAction (oneStep direction)) := by
  cases direction <;> exact .request _ rfl

theorem movesOnce_stepByObject (object : EditorObject) (direction : Direction) :
    MovesOnce (stepByObject object direction) := by
  unfold stepByObject
  split
  · rename_i action haction
    unfold objectStep at haction
    split at haction <;> cases haction <;> exact .request _ rfl
  · exact .invalid

theorem movesOnce_goToLine (tokens : List Token) : MovesOnce (goToLine tokens) := by
  unfold goToLine
  split
  · split
    · exact movesOnce_jumpToLine _
    · exact .invalid
  · exact .invalid

theorem movesOnce_goDirection (tokens : List Token) : MovesOnce (goDirection tokens) := by
  unfold goDirection
  split
  · split
    · exact movesOnce_oneStep _
    · exact .invalid
  · exact .invalid

theorem movesOnce_goObject (tokens : List Token) : MovesOnce (goObject tokens) := by
  unfold goObject
  split
  · split
    · exact .request (.run .revealDefinition) rfl
    · exact .invalid
  · exact .invalid

theorem movesOnce_goCount (tokens : List Token) : MovesOnce (goCount tokens) := by
  unfold goCount
  split
  · split
    · split
      · exact .declined
      · exact .request (.moveBy _ _) rfl
    · exact .invalid
  · exact .invalid

theorem movesOnce_goNumberedObject (tokens : List Token) : MovesOnce (goNumberedObject tokens) := by
  unfold goNumberedObject
  split
  · split
    · exact movesOnce_jumpToLine _
    · exact .invalid
  · exact .invalid

theorem movesOnce_goObjectDirection (tokens : List Token) :
    MovesOnce (goObjectDirection tokens) := by
  unfold goObjectDirection
  split
  · split
    · exact movesOnce_stepByObject _ _
    · exact .invalid
  · exact .invalid

theorem movesOnce_countedStep (count : Nat) (object : EditorObject) (direction : Direction) :
    MovesOnce (countedStep count object direction) := by
  have hsingle : MovesOnce (if count < singleStepLimit then stepByObject object direction
      else .done .declined) := by
    split
    · exact movesOnce_stepByObject object direction
    · exact .declined
  unfold countedStep
  split
  · exact .declined
  · split
    · exact .request (.moveBy .up count) rfl
    · exact .request (.moveBy .down count) rfl
    · exact hsingle
    · exact hsingle
    · exact hsingle
    · exact .invalid

theorem movesOnce_goCountedObject (tokens : List Token) : MovesOnce (goCountedObject tokens) := by
  unfold goCountedObject
  split
  · split
    · exact movesOnce_countedStep _ _ _
    · exact .invalid
  · exact .invalid

/-- Every rule of cursor movement moves at most once. -/
theorem movesOnce_table : table.All fun action => ∀ tokens, MovesOnce (action tokens) :=
  RuleTable.all_empty _ _
    |>.bind _ movesOnce_goToLine
    |>.bind _ movesOnce_goDirection
    |>.bind _ movesOnce_goObject
    |>.bind _ movesOnce_goCount
    |>.bind _ movesOnce_goNumberedObject
    |>.bind _ movesOnce_goObjectDirection
    |>.bind _ movesOnce_goCountedObject

theorem candid_go (tokens : List Token) : CandidOutcome (go tokens) :=
  RuleTable.candid_resolution (fun r hr tokens => (movesOnce_table r hr tokens).candid) tokens

end Movement

/-! ## Selecting -/

namespace Selecting

theorem candid_selectLine (line : Nat) (fromIndentation : Bool) :
    CandidAction (selectLine line fromIndentation) :=
  (candid_call (.lineText line)).bind fun _ => (candid_call (.select _ _)).stops

theorem candid_selectCursorLine (fromIndentation : Bool) :
    CandidAction (selectCursorLine fromIndentation) :=
  candid_cursor.bind fun place => (candid_selectLine place.line fromIndentation).stops

theorem candid_extend {motion : EditorAction Unit} (h : CandidAction motion) :
    CandidAction (extend motion) :=
  (candid_call .selection).bind fun _ => StrictAction.bind h.stops fun _ =>
    StrictAction.bind candid_cursor.stops fun _ => (candid_call (.select _ _)).stops

theorem candid_selectNumberedLine (n : Nat) : CandidStep (selectNumberedLine n) := by
  cases n with
  | zero => exact candid_invalid
  | succ line => exact candid_step (candid_selectLine line false)

theorem candid_selectNumber : CandidRule selectNumber := by
  intro tokens
  unfold selectNumber
  split
  · split
    · exact candid_selectNumberedLine _
    · exact candid_invalid
  · exact candid_invalid

theorem candid_selectBySelector : CandidRule selectBySelector := by
  intro tokens
  unfold selectBySelector
  split
  · split
    · exact candid_step (candid_call _)
    · exact candid_step (candid_call _)
    · exact candid_step (candid_call _)
    · exact candid_step (candid_extend (candid_call _))
    · exact candid_step (candid_extend (candid_call _))
    · exact candid_invalid
  · exact candid_invalid

theorem candid_selectObject : CandidRule selectObject := by
  intro tokens
  unfold selectObject
  split
  · split
    · exact candid_step (candid_selectCursorLine false)
    · exact candid_step (candid_call _)
    · exact candid_invalid
  · exact candid_invalid

theorem candid_extendByDirection : CandidRule extendByDirection := by
  intro tokens
  unfold extendByDirection
  split
  · split
    · exact candid_step (candid_extend (candid_call _))
    · exact candid_step (candid_extend (candid_call _))
    · split
      · exact candid_invalid
      · exact candid_step (candid_extend (candid_call _))
    · exact candid_invalid
  · exact candid_invalid

theorem candid_selectNumberedObject : CandidRule selectNumberedObject := by
  intro tokens
  unfold selectNumberedObject
  split
  · split
    · exact candid_selectNumberedLine _
    · exact candid_invalid
  · exact candid_invalid

theorem candid_extendByCount : CandidRule extendByCount := by
  intro tokens
  unfold extendByCount
  split
  · split
    · split
      · exact candid_declined
      · exact candid_step (candid_extend (candid_call _))
    · exact candid_invalid
  · exact candid_invalid

theorem candid_selectQualifiedObject : CandidRule selectQualifiedObject := by
  intro tokens
  unfold selectQualifiedObject
  split
  · split
    · exact candid_step (candid_selectCursorLine true)
    · exact candid_step (candid_call _)
    · exact candid_step (candid_extend (candid_call _))
    · exact candid_step (candid_extend (candid_call _))
    · exact candid_step (candid_extend (candid_call _))
    · exact candid_step (candid_extend (candid_call _))
    · exact candid_invalid
  · exact candid_invalid

theorem candid_extendByObject (object : EditorObject) (direction : Direction) :
    CandidStep (extendByObject object direction) := by
  refine Candid.bind (candid_call .selection) (passes fun _ => rfl) (fun r => ?_)
    fun r hr => absurd trivial hr
  cases r with
  | error e => trivial
  | ok before =>
    refine (Movement.movesOnce_stepByObject object direction).candid.stops.bind (passes fun _ => rfl)
      fun s => ?_
    cases s with
    | done =>
      have hselect : CandidAction (cursor >>= fun place => select before.anchor place) :=
        candid_cursor.bind fun place => (candid_call (.select before.anchor place)).stops
      exact (candid_step hselect).stops
    | declined => trivial
    | failed o => trivial

theorem candid_extendToObject : CandidRule extendToObject := by
  intro tokens
  unfold extendToObject
  split
  · split
    · exact candid_invalid
    · exact candid_invalid
    · exact candid_extendByObject _ _
    · exact candid_invalid
  · exact candid_invalid

theorem candid_table : table.All CandidRule :=
  RuleTable.all_empty _ _
    |>.bind _ candid_selectNumber
    |>.bind _ candid_selectBySelector
    |>.bind _ candid_selectObject
    |>.bind _ candid_extendByDirection
    |>.bind _ candid_selectNumberedObject
    |>.bind _ candid_extendByCount
    |>.bind _ candid_selectQualifiedObject
    |>.bind _ candid_extendToObject

/-! ### Ranges -/

/-- What a run of movements makes of a refusal. -/
theorem stopsAt_cursorAfter (tokens : List Token) (fallback : Position) :
    (cursorAfter tokens fallback).StopsAt Refuses fun e r => r = .error (.ofEditorError e) := by
  unfold cursorAfter
  split
  · trivial
  · refine (Movement.candid_go tokens).stops.bind (passes fun e => ?_) fun outcome => ?_
    · rw [isSuccess_ofEditorError, if_neg Bool.false_ne_true]
    · split
      · exact candid_cursor.stops.bind (passes fun _ => rfl) fun r => by cases r <;> trivial
      · trivial

theorem candid_selectRange (tokens : List Token) : CandidOutcome (selectRange tokens) := by
  unfold selectRange
  simp only
  split
  · exact candid_done (by decide)
  · refine Candid.bind (candid_call .selection) (passes fun _ => rfl) (fun r => ?_)
      fun r hr => absurd trivial hr
    cases r with
    | error e => trivial
    | ok previous =>
      refine (stopsAt_cursorAfter _ _).bind (passes fun _ => rfl) fun start => ?_
      cases start with
      | error o => trivial
      | ok start =>
        refine (stopsAt_cursorAfter _ _).bind (passes fun _ => rfl) fun finish => ?_
        cases finish with
        | error o => trivial
        | ok finish => exact (candid_outcome (candid_call _)).stops

theorem candid_selectTokens (tokens : List Token) : CandidOutcome (selectTokens tokens) := by
  unfold selectTokens
  split
  · exact candid_outcome (candid_call _)
  · split
    · exact candid_selectRange tokens
    · exact RuleTable.candid_resolution candid_table tokens

end Selecting

end VoiceEdit
