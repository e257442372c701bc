import VoiceEdit.Command.Addition
import VoiceEdit.Command.Creation
import VoiceEdit.Command.Selecting
import VoiceEdit.Command.Workbench
import VoiceEdit.Trigger

/-!
# Running commands

* `Command.execute`: runs a command on the argument text after its trigger.
* `Command.dispatch`: finds the command in a transcript and runs it.
-/
namespace VoiceEdit.Command

open Text

/-- The classified arguments of a command that reads tokens. -/
def arguments (v : Vocabulary) (name : CommandName) (raw : Text) : List Token :=
  match name.grammar with
  | .tokenSequence profile | .specializedLookup profile => Argument.tokens profile v raw
  | .none | .freeText => []

/-- Run a command that resolves its tokens by a rule table. -/
def runTokens (name : CommandName) (tokens : List Token) : EditorProgram Outcome :=
  match name with
  | .go => Movement.go tokens
  | .select => Selecting.selectTokens tokens
  | .new => Creation.create tokens
  | .add => Addition.add tokens
  | _ => .done .functionNotFound

/-- Run a command on its argument text. -/
def execute (v : Vocabulary) (name : CommandName) (raw : Text) : EditorProgram CommandReply :=
  let raw := trim raw
  match name.grammar with
  | .none =>
    if raw.isEmpty then Workbench.withoutArguments name else .done (.ofOutcome .invalidArgument)
  | .freeText => (Workbench.insertIdentifier name raw).bind fun o => .done (.ofOutcome o)
  | .tokenSequence profile =>
    (runTokens name (Argument.tokens profile v raw)).bind fun o => .done (.ofOutcome o)
  | .specializedLookup profile =>
    let outcome :=
      match name with
      | .suggestion => Workbench.suggest (Argument.tokens profile v raw)
      | .terminal => Workbench.controlTerminal (Argument.raws profile v raw)
      | _ => .done .functionNotFound
    outcome.bind fun o => .done (.ofOutcome o)

/-- Find the command in a transcript and run it. -/
def dispatch (v : Vocabulary) (transcript : Text) : EditorProgram CommandReply :=
  match Trigger.find? v transcript with
  | none => .done (.ofOutcome .noCommandFound)
  | some trigger =>
    match ofCode? trigger.command with
    | none => .done (.ofOutcome .functionNotFound)
    | some name => execute v name trigger.arguments

end VoiceEdit.Command
