import VoiceEdit.Text.Ranges

/-!
# White space and words

* `isBlank`: the white space of Unicode, line ends and the non-breaking space
  included.
* `words`: the maximal runs of other characters.
* `trim`, `trimStart`, `trimEnd`: a text without the white space at its ends.
-/
namespace VoiceEdit.Text

/-- Code points with the property White_Space. -/
def blankRanges : List (Nat × Nat) := [
  (0x09, 0x0D), (0x20, 0x20), (0x85, 0x85), (0xA0, 0xA0), (0x1680, 0x1680), (0x2000, 0x200A),
  (0x2028, 0x2029), (0x202F, 0x202F), (0x205F, 0x205F), (0x3000, 0x3000)]

/-- A white-space character. -/
def isBlank (c : Char) : Bool := inRanges blankRanges c.toNat

/-- The maximal runs of characters that are not white space, in order. -/
def words : Text → List Text
  | [] => []
  | [c] => if isBlank c then [] else [[c]]
  | c :: d :: rest =>
    if isBlank c then words (d :: rest)
    else if isBlank d then [c] :: words (d :: rest)
    else consHead c (words (d :: rest))

/-- A text without its leading white space. -/
def trimStart (t : Text) : Text := t.dropWhile isBlank

/-- A text without its trailing white space. -/
def trimEnd (t : Text) : Text := dropEndWhile isBlank t

/-- A text without white space at its ends. -/
def trim (t : Text) : Text := trimEnd (trimStart t)

/-- The leading white space of a text. -/
def indentation (t : Text) : Text := t.takeWhile isBlank

end VoiceEdit.Text
