import VoiceEdit.Text.CaseMap

/-!
# Case of texts

* `lower`: every character takes its lower-case image; a capital sigma becomes
  a final sigma at the end of a word, that is, when a cased character stands
  before it and none after it, case-ignorable characters being skipped.
* `upper`: every character takes its upper-case image.
* `sameAsciiLetters`: equality up to the case of the letters `A` to `Z`.
-/
namespace VoiceEdit.Text

/-- Whether the first character that is not case-ignorable has a case. -/
def meetsCased (t : Text) : Bool := ((t.dropWhile isCaseIgnorable).head?.map isCased).getD false

/-- The lower-case image of a capital sigma between two texts, the first of
which is reversed. -/
def lowerSigma (before after : Text) : Char :=
  if meetsCased before && !meetsCased after then '\u03c2' else '\u03c3'

/-- The lower-case image of a text after the reversed text `before`. -/
def lowerAfter (before : Text) : Text → Text
  | [] => []
  | c :: rest =>
    (if c = '\u03a3' then [lowerSigma before rest] else lowerChar c) ++ lowerAfter (c :: before) rest

/-- A text in lower case. -/
def lower (t : Text) : Text := lowerAfter [] t

/-- A text in upper case. -/
def upper (t : Text) : Text := t.flatMap upperChar

/-- Equality up to the case of ASCII letters. -/
def sameAsciiLetters (a b : Text) : Bool := a.map Char.toLower == b.map Char.toLower

end VoiceEdit.Text
