import VoiceEdit.Text.Blank
import VoiceEdit.Text.Casing

/-!
# Transcripts

* `collapse`: a transcript without the punctuation at its end, its words
  separated by single spaces, in the spoken case.
* `normalize`: the same in lower case.
-/
namespace VoiceEdit.Transcript

open Text

/-- Punctuation that a recognizer puts at the end of a word or an utterance. -/
def isTrailingMark (c : Char) : Bool := ['.', ',', '!', '?', ';', ':'].contains c

/-- A text without the trailing marks at its end. -/
def dropTrailingMarks (t : Text) : Text := dropEndWhile isTrailingMark t

/-- A transcript in the spoken case, with trailing marks dropped and white space
collapsed. -/
def collapse (t : Text) : Text := joinWords (words (dropTrailingMarks (trim t)))

/-- A collapsed transcript in lower case. -/
def normalize (t : Text) : Text := lower (collapse t)

end VoiceEdit.Transcript
