import VoiceEdit.Command.Basic
import VoiceEdit.Identifier

/-!
# Commands without rule tables

* `withoutArguments`: editor commands and changes of mode.
* `suggest`, `controlTerminal`: one editor command for each argument, in order.
* `insertIdentifier`: spoken words joined into an identifier.
-/
namespace VoiceEdit.Workbench

open Editor

/-- The editor command that a command name stands for, if any. -/
def editorCommand? : CommandName → Option EditorCommand
  | .saveFile => some .saveFile
  | .saveFileAs => some .saveFileAs
  | .newFile => some .newFile
  | .newWindow => some .newWindow
  | .closeTab => some .closeTab
  | .closeWindow => some .closeWindow
  | .openFile => some .openFile
  | .copy => some .copy
  | .cut => some .cut
  | .paste => some .paste
  | .undo => some .undo
  | .redo => some .redo
  | .format => some .format
  | .breakpoint => some .toggleBreakpoint
  | .settings => some .openSettings
  | .delete => some .delete
  | _ => none

/-- The change of mode that a command name stands for, if any. -/
def transition? : CommandName → Option Transition
  | .dictate => some (.dictate true)
  | .dictatePlain => some (.dictate false)
  | .spell => some (.spell false)
  | .spellUppercase => some (.spell true)
  | .stopDictating => some .stopDictating
  | .stop => some .stop
  | _ => none

/-- Run a command that takes no arguments. -/
def withoutArguments (name : CommandName) : EditorProgram CommandReply :=
  match transition? name with
  | some t => .done (.ofTransition t)
  | none =>
    match editorCommand? name with
    | some command => (Outcome.ofAction (run command)).bind fun o => .done (.ofOutcome o)
    | none => .done (.ofOutcome .functionNotFound)

/-- Run editor commands in order until one fails; an argument that stands for
none is invalid. -/
def runEach : List (Option EditorCommand) → EditorProgram Outcome
  | [] => .done .success
  | none :: _ => .done .invalidArgument
  | some command :: rest =>
    (Outcome.ofAction (run command)).bind fun outcome =>
      if outcome.isSuccess then runEach rest else .done outcome

/-- The editor command of a suggestion qualifier. -/
def suggestionCommand? (t : Token) : Option EditorCommand :=
  if t.kind = .suggestionQualifier then
    (t.coded? SuggestionQualifier).map fun
      | .show => .showSuggestions
      | .accept => .acceptSuggestion
  else none

/-- Show suggestions, or follow each qualifier in order. -/
def suggest (tokens : List Token) : EditorProgram Outcome :=
  if tokens.isEmpty then Outcome.ofAction (run .showSuggestions)
  else runEach (tokens.map suggestionCommand?)

/-- Follow each terminal action in order; there must be one. -/
def controlTerminal (actions : List Text) : EditorProgram Outcome :=
  if actions.isEmpty then .done .invalidArgument
  else runEach (actions.map fun a => (ofCode? a).map EditorCommand.terminal)

/-- Insert spoken words joined in the style that a command names. -/
def insertIdentifier (name : CommandName) (words : Text) : EditorProgram Outcome :=
  if (Text.trim words).isEmpty then .done .invalidArgument
  else
    match name with
    | .snakeCase => Outcome.ofAction (insert (Identifier.snake words))
    | .camelCase => Outcome.ofAction (insert (Identifier.camel words))
    | _ => .done .functionNotFound

end VoiceEdit.Workbench
