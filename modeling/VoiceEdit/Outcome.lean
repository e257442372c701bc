import VoiceEdit.Text.Basic

/-!
# Outcomes and editor errors

Expected failures are values: an editor call may be answered by an
`EditorError`, and every utterance ends in one `Outcome`.

* `Outcome.ofEditorError`: the outcome that an editor error stands for; it is
  never a success (`Outcome.ofEditorError_ne_success`).
-/
namespace VoiceEdit

/-- How one utterance, command or combination ended. -/
inductive Outcome where
  /-- The requested action ran. -/
  | success
  /-- No rule for the tokens, or a numeric target out of range. -/
  | invalidArgument
  /-- An action needed an editor and none is focused. -/
  | noActiveEditor
  /-- The editor rejected or failed the call. -/
  | executionFailed
  /-- No trigger phrase matched; a notice, not an error. -/
  | noCommandFound
  /-- A trigger matched, but its command name has no handler. -/
  | functionNotFound
  deriving DecidableEq, Repr

/-- Why an editor call failed. -/
inductive EditorError where
  | noActiveEditor
  | outOfRange (target : Text)
  | rejected (reason : Text)
  deriving DecidableEq, Repr

namespace Outcome

/-- Every outcome, in the order in which summaries list them. -/
def all : List Outcome :=
  [success, invalidArgument, noActiveEditor, executionFailed, noCommandFound, functionNotFound]

/-- The words for an outcome. -/
def shown : Outcome → Text
  | success => "success"
  | invalidArgument => "invalid argument"
  | noActiveEditor => "no active editor"
  | executionFailed => "execution failed"
  | noCommandFound => "no command found"
  | functionNotFound => "function not found"

/-- Whether the requested action ran. -/
def isSuccess (o : Outcome) : Bool := o == success

/-- Whether an outcome is told to the speaker as an error. -/
def isError : Outcome → Bool
  | success | noCommandFound => false
  | _ => true

/-- The outcome of a call that failed. -/
def ofEditorError : EditorError → Outcome
  | .noActiveEditor => noActiveEditor
  | .outOfRange _ => invalidArgument
  | .rejected _ => executionFailed

/-- The outcome of a call. -/
def ofCall {α : Type} : Except EditorError α → Outcome
  | .ok _ => success
  | .error e => ofEditorError e

theorem ofEditorError_ne_success (e : EditorError) : ofEditorError e ≠ success := by
  cases e <;> simp [ofEditorError]

end Outcome

/-- The message of an editor error. -/
def EditorError.message : EditorError → Text
  | .noActiveEditor => "no active editor"
  | .outOfRange target => "target out of range: " ++ target
  | .rejected reason => "editor rejected the call: " ++ reason

end VoiceEdit
