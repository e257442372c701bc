import VoiceEdit.Argument
import VoiceEdit.Combination
import VoiceEdit.Dictation.State
import VoiceEdit.Editor.Basic

/-!
# What commands have in common

* `ArgumentGrammar`: how a command reads the text after its trigger.
* `CommandReply`: what a command answers.
* `Step.ofAction`, `Outcome.ofAction`: the end of a chain of editor requests as a
  step of a resolution and as an outcome.
-/
namespace VoiceEdit

/-- How a command reads its argument text. -/
inductive ArgumentGrammar where
  | none
  | freeText
  /-- Tokens for a rule table. -/
  | tokenSequence (profile : Profile)
  /-- Tokens for a look-up of the command's own. -/
  | specializedLookup (profile : Profile)
  deriving DecidableEq, Repr

/-- How a command reads its argument text. -/
def CommandName.grammar : CommandName → ArgumentGrammar
  | go => .tokenSequence .movement
  | select => .tokenSequence .selection
  | new => .tokenSequence .creation
  | add => .tokenSequence .addition
  | suggestion => .specializedLookup .suggestion
  | terminal => .specializedLookup .terminal
  | snakeCase | camelCase => .freeText
  | _ => .none

/-- An outcome, and a change of mode if the command asks for one. -/
structure CommandReply where
  outcome : Outcome
  transition : Option Transition
  deriving DecidableEq, Repr

namespace CommandReply

/-- A reply without a change of mode. -/
def ofOutcome (outcome : Outcome) : CommandReply := ⟨outcome, none⟩

/-- A reply that changes the mode. -/
def ofTransition (t : Transition) : CommandReply := ⟨.success, some t⟩

end CommandReply

/-- The action of a rule of a command. -/
abbrev TokenAction : Type := List Token → EditorProgram Step

/-- A chain of editor requests as a step of a resolution. -/
def Step.ofAction {α : Type} (action : EditorAction α) : EditorProgram Step :=
  Program.bind action.run fun
    | .ok _ => .done .done
    | .error e => .done (.failed (.ofEditorError e))

/-- The step of a combination whose values have no action. -/
def Step.invalid : EditorProgram Step := .done (.failed .invalidArgument)

/-- A chain of editor requests as an outcome. -/
def Outcome.ofAction {α : Type} (action : EditorAction α) : EditorProgram Outcome :=
  Program.bind action.run fun r => .done (.ofCall r)

/-- Carry out the actions of a rule table on some tokens. -/
def RuleTable.carryOut (t : RuleTable TokenAction) (tokens : List Token) :
    EditorProgram Resolution :=
  (t.resolve tokens).via fun (invocation : Invocation TokenAction) =>
    invocation.action invocation.tokens

end VoiceEdit
