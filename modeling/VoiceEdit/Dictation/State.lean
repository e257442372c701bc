import VoiceEdit.Text.Basic

/-!
# Modes

An utterance is a command, dictated text or a row of words to be spelled.

* `DictationState.apply`: the state after a transition.
* `Transition.endsSession`: only `Transition.stop` ends the session.
-/
namespace VoiceEdit

/-- How an utterance is interpreted. -/
inductive Mode where
  /-- Utterances are commands. -/
  | command
  /-- Utterances are inserted as text. -/
  | dictate
  /-- Utterances are reduced to the first letters of their words. -/
  | spell
  deriving DecidableEq, Repr

/-- A change of mode that a command or a stop phrase asks for. -/
inductive Transition where
  | dictate (formatting : Bool)
  | spell (uppercase : Bool)
  /-- Back to commands. -/
  | stopDictating
  /-- Back to commands, and end the session. -/
  | stop
  deriving DecidableEq, Repr

/-- The mode and its flags. -/
structure DictationState where
  mode : Mode
  /-- Whether numbers and special characters are written out in dictation. -/
  formatting : Bool
  /-- Whether spelled letters are capitals. -/
  uppercase : Bool
  deriving DecidableEq, Repr

/-- Every mode, in the order in which summaries list them. -/
def Mode.all : List Mode := [command, dictate, spell]

/-- The name of a mode. -/
def Mode.shown : Mode → Text
  | command => "Command"
  | dictate => "Dictate"
  | spell => "Spell"

/-- Whether a transition ends the session. -/
def Transition.endsSession : Transition → Bool
  | stop => true
  | _ => false

namespace DictationState

/-- Commands, with formatting on for the next dictation. -/
def initial : DictationState := ⟨.command, true, false⟩

/-- The state after a transition. -/
def apply (_ : DictationState) : Transition → DictationState
  | .dictate formatting => { initial with mode := .dictate, formatting }
  | .spell uppercase => { initial with mode := .spell, uppercase }
  | .stopDictating | .stop => initial

/-- The words for a state. -/
def shown (s : DictationState) : Text :=
  match s.mode with
  | .command => "Command"
  | .dictate => if s.formatting then "Dictate" else "Dictate (plain)"
  | .spell => if s.uppercase then "Spell (uppercase)" else "Spell"

end DictationState

end VoiceEdit
