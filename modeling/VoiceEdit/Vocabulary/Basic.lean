import VoiceEdit.Vocabulary.Table

/-!
# Vocabularies

A vocabulary holds the phrases that stand for codes, numbers, characters and
commands, and the words that may be dropped in front of a name.

* `Vocabulary.merge`: one vocabulary laid over another, table by table; filler
  words are appended once.
-/
namespace VoiceEdit

/-- The kinds of phrases that stand for codes. -/
inductive Category where
  | directions | objectNouns | selectors | suggestionQualifiers | terminalActions
  deriving DecidableEq, Repr

/-- The phrases that the interpreter knows. -/
structure Vocabulary where
  directions : PhraseTable Text
  objectNouns : PhraseTable Text
  selectors : PhraseTable Text
  suggestionQualifiers : PhraseTable Text
  terminalActions : PhraseTable Text
  numberWords : PhraseTable Nat
  specialCharacters : PhraseTable Text
  /-- Phrases that are a command when they are the whole utterance. -/
  exactTriggers : PhraseTable Text
  /-- Phrases that start a command with arguments. -/
  parameterizedTriggers : PhraseTable Text
  fillerWords : List Text

namespace Vocabulary

/-- The vocabulary without phrases. -/
def empty : Vocabulary :=
  ⟨.empty, .empty, .empty, .empty, .empty, .empty, .empty, .empty, .empty, []⟩

/-- The phrases of one category. -/
def phrases (v : Vocabulary) : Category → PhraseTable Text
  | .directions => v.directions
  | .objectNouns => v.objectNouns
  | .selectors => v.selectors
  | .suggestionQualifiers => v.suggestionQualifiers
  | .terminalActions => v.terminalActions

/-- Whether some phrase of a category stands for a code. -/
def hasCode (v : Vocabulary) (category : Category) (code : Text) : Bool :=
  (v.phrases category).values.contains code

/-- The phrases that are, as whole utterances, the command with a code. -/
def triggersFor (v : Vocabulary) (code : Text) : List Text :=
  v.exactTriggers.phrasesWhere (· == code)

/-- A list followed by those of other words that it lacks, each once. -/
def appendNew (words : List Text) (others : List Text) : List Text :=
  others.foldl (fun ws w => if ws.contains w then ws else ws ++ [w]) words

/-- `lower` with `upper` laid over it. -/
def merge (lower upper : Vocabulary) : Vocabulary where
  directions := lower.directions.overlay upper.directions
  objectNouns := lower.objectNouns.overlay upper.objectNouns
  selectors := lower.selectors.overlay upper.selectors
  suggestionQualifiers := lower.suggestionQualifiers.overlay upper.suggestionQualifiers
  terminalActions := lower.terminalActions.overlay upper.terminalActions
  numberWords := lower.numberWords.overlay upper.numberWords
  specialCharacters := lower.specialCharacters.overlay upper.specialCharacters
  exactTriggers := lower.exactTriggers.overlay upper.exactTriggers
  parameterizedTriggers := lower.parameterizedTriggers.overlay upper.parameterizedTriggers
  fillerWords := appendNew lower.fillerWords upper.fillerWords

end Vocabulary

end VoiceEdit
