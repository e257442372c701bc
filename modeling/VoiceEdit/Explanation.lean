import VoiceEdit.Command.Execution
import VoiceEdit.Text.Quoted

/-!
# Explanations

What would be done with a transcript, without doing it, and the lines that say
so.
-/
namespace VoiceEdit

open Text

/-- What would be done with a transcript. -/
structure Explanation where
  transcript : Text
  trigger : Option Trigger
  command : Option CommandName
  tokens : List Token

/-! ## Names in reports -/

/-- The name of a category in reports. -/
def Category.shown : Category → Text
  | directions => "Directions"
  | objectNouns => "ObjectNouns"
  | selectors => "Selectors"
  | suggestionQualifiers => "SuggestionQualifiers"
  | terminalActions => "TerminalActions"

/-- The name of an object filter in reports. -/
def ObjectFilter.shown : ObjectFilter → Text
  | all => "All"
  | editorOnly => "EditorOnly"
  | codeOnly => "CodeOnly"

/-- A profile in reports. -/
def Profile.shown (p : Profile) : Text :=
  "Profile \x7b categories: [" ++ List.intercalate ", ".toList (p.categories.map Category.shown) ++
    "], objects: " ++ p.objects.shown ++ " \x7d"

/-- An argument grammar in reports. -/
def ArgumentGrammar.shown : ArgumentGrammar → Text
  | none => "None"
  | freeText => "FreeText"
  | tokenSequence p => "TokenSequence(" ++ p.shown ++ ")"
  | specializedLookup p => "SpecializedLookup(" ++ p.shown ++ ")"

namespace Explanation

/-- What would be done with a transcript. -/
def of (v : Vocabulary) (transcript : Text) : Explanation :=
  let trigger := Trigger.find? v transcript
  let command := trigger.bind fun t => ofCode? t.command
  let tokens :=
    match trigger, command with
    | some t, some name => Command.arguments v name t.arguments
    | _, _ => []
  ⟨Transcript.normalize transcript, trigger, command, tokens⟩

/-- The lines of an explanation about its trigger. -/
def triggerLines (e : Explanation) (t : Trigger) : Text :=
  let tier : Text := if t.isExact then "exact" else "parameterized"
  let command : Text :=
    match e.command with
    | some name => code name ++ " (" ++ name.grammar.shown ++ ")"
    | none => t.command ++ " (" ++ Outcome.functionNotFound.shown ++ ")"
  let tokens : Text :=
    if e.tokens.isEmpty then [] else "tokens:     " ++ showTokens e.tokens ++ "\n"
  "trigger:    " ++ quoted t.phrase ++ " (" ++ tier ++ ")\n" ++
    "command:    " ++ command ++ "\n" ++
    "arguments:  " ++ quoted t.arguments ++ "\n" ++ tokens

/-- An explanation as text. -/
def shown (e : Explanation) : Text :=
  let rest : Text :=
    match e.trigger with
    | none => "command:    none (" ++ Outcome.noCommandFound.shown ++ ")\n"
    | some t => e.triggerLines t
  "transcript: " ++ quoted e.transcript ++ "\n" ++ rest

end Explanation

end VoiceEdit
