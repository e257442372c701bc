import VoiceEdit.Command.Execution
import VoiceEdit.Dictation.Format
import VoiceEdit.Dictation.StopPhrase

/-!
# Interpreting one utterance

* `Dictation.spelled`: the first letters of the words of a text.
* `Dictation.interpret`: an utterance interpreted under the current mode.
-/
namespace VoiceEdit.Dictation

open Text

/-- The first letter or number of every word that has one, in one case. -/
def spelled (uppercase : Bool) (text : Text) : Text :=
  let letters := (words text).filterMap fun w => w.find? isAlphanumeric
  if uppercase then upper letters else lower letters

/-- How one utterance was interpreted. -/
structure Interpretation where
  /-- The mode it was interpreted in. -/
  mode : Mode
  outcome : Outcome
  /-- The state after it. -/
  state : DictationState
  /-- Whether the session should end. -/
  stops : Bool
  deriving DecidableEq, Repr

/-- An interpretation that leaves the state as it is. -/
def Interpretation.staying (s : DictationState) (outcome : Outcome) : Interpretation :=
  ⟨s.mode, outcome, s, false⟩

/-- An interpretation that follows a transition, if there is one. -/
def Interpretation.following (s : DictationState) (outcome : Outcome) :
    Option Transition → Interpretation
  | none => .staying s outcome
  | some t => ⟨s.mode, outcome, s.apply t, t.endsSession⟩

/-- Replace the selection by the content of an utterance. -/
def write (s : DictationState) (content : Text) : EditorProgram Interpretation :=
  (Outcome.ofAction (Editor.replace content)).bind fun outcome => .done (.staying s outcome)

/-- Interpret an utterance that holds no stop phrase. -/
def interpretContent (v : Vocabulary) (s : DictationState) (text : Text) :
    EditorProgram Interpretation :=
  match s.mode with
  | .command =>
    (Command.dispatch v text).bind fun reply =>
      .done (.following s reply.outcome reply.transition)
  | .dictate => write s (if s.formatting then format v text else text)
  | .spell =>
    let letters := spelled s.uppercase text
    if letters.isEmpty then .done (.staying s .invalidArgument) else write s letters

/-- Interpret an utterance under a mode. -/
def interpret (v : Vocabulary) (isTolerant : Bool) (s : DictationState) (utterance : Text) :
    EditorProgram Interpretation :=
  let stop := if s.mode = .command then none else stopTransition? v isTolerant utterance
  match stop with
  | some t => .done (.following s .success (some t))
  | none =>
    let text := trim utterance
    if text.isEmpty then .done (.staying s .noCommandFound) else interpretContent v s text

end VoiceEdit.Dictation
