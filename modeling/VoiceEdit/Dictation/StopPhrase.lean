import VoiceEdit.Code
import VoiceEdit.Dictation.State
import VoiceEdit.EditDistance
import VoiceEdit.Phrase
import VoiceEdit.Vocabulary.Basic

/-!
# Stop phrases

While text is dictated or spelled, a stop phrase anywhere in an utterance wins,
so that it is never inserted. Leaving the mode is looked for before ending the
session. On demand a phrase is also heard where the whole utterance is close to
it.
-/
namespace VoiceEdit.Dictation

open Text

/-- Whether a stop phrase is heard in an utterance that is reduced to letters. -/
def hearsPhrase (isTolerant : Bool) (heard phrase : Text) : Bool :=
  let phrase := lettersOnly phrase
  containsPhrase heard phrase || (isTolerant && isCloseTo phrase heard)

/-- The transition that an utterance asks for by a stop phrase, if any. -/
def stopTransition? (v : Vocabulary) (isTolerant : Bool) (utterance : Text) : Option Transition :=
  let heard := lettersOnly utterance
  let hears (name : CommandName) := (v.triggersFor (code name)).any (hearsPhrase isTolerant heard)
  if heard.isEmpty then none
  else if hears .stopDictating then some .stopDictating
  else if hears .stop then some .stop
  else none

end VoiceEdit.Dictation
