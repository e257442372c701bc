import VoiceEdit.Text.Blank
import VoiceEdit.Text.Letter
import VoiceEdit.Text.Casing
import VoiceEdit.Text.Utf8

/-!
# Phrases inside a text

A phrase is heard where it stands on whole words: no letter, number, underscore
or apostrophe touches it on either side.

* `splitAtPhrase?`: the parts of a text before and after the first such place.
* `phraseOffset?`: the offset of that place in UTF-8 bytes.
* `lettersOnly`: a text reduced to its words in lower case, without anything
  but letters.
-/
namespace VoiceEdit.Text

/-- A character that continues a word. -/
def isWordChar (c : Char) : Bool := isAlphanumeric c || c = '_' || c = '\''

/-- Whether no word continues into a neighbour, if there is one. -/
def isBoundary (neighbour : Option Char) : Bool := !(neighbour.map isWordChar).getD false

/-- Look for a non-empty phrase at or after a place in a text; `before` is the
reversed text before that place. -/
def splitFrom (phrase before : Text) : Text → Option (Text × Text)
  | [] => none
  | c :: rest =>
    if phrase.isPrefixOf (c :: rest) && isBoundary before.head?
        && isBoundary ((c :: rest).drop phrase.length).head? then
      some (before.reverse, (c :: rest).drop phrase.length)
    else splitFrom phrase (c :: before) rest

/-- The parts of a text before and after the first place where a non-empty
phrase stands on whole words. -/
def splitAtPhrase? (text phrase : Text) : Option (Text × Text) :=
  if phrase.isEmpty then none else splitFrom phrase [] text

/-- The UTF-8 offset of the first place where a phrase stands on whole words. -/
def phraseOffset? (text phrase : Text) : Option Nat :=
  (splitAtPhrase? text phrase).map fun (before, _) => utf8Length before

/-- Whether a phrase stands on whole words somewhere in a text. -/
def containsPhrase (text phrase : Text) : Bool := (splitAtPhrase? text phrase).isSome

/-- The words of a text in lower case, with everything but letters removed. -/
def lettersOnly (t : Text) : Text :=
  joinWords (words ((lower t).filter fun c => isLetter c || isBlank c))

end VoiceEdit.Text
