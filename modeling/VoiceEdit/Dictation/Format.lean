import VoiceEdit.Substitution

/-!
# Dictated text

Spoken numbers and special characters are written out. A special character takes
the space around it away and brings its own; all other pieces are separated by
single spaces, and runs of spaces collapse.
-/
namespace VoiceEdit.Dictation

open Text

/-- The phrases that dictated text is read with: special characters first. -/
def phrases (v : Vocabulary) : Substitution.Phrases :=
  Substitution.phrasesOf
    (v.specialCharacters.entries.map (fun e => (e.1, Replacement.special e.2)) ++
      Substitution.numberPhrases v)

/-- Text written so far, and whether the next piece follows it without a space. -/
structure Written where
  text : Text
  glued : Bool

/-- Write one more piece. -/
def Written.add (w : Written) : Piece → Written
  | .special s => ⟨w.text ++ s, true⟩
  | piece => ⟨w.text ++ (if w.text.isEmpty || w.glued then [] else [' ']) ++ piece.text, false⟩

/-- A text with every run of spaces reduced to one. -/
def collapseSpaces : Text → Text
  | ' ' :: ' ' :: rest => collapseSpaces (' ' :: rest)
  | c :: rest => c :: collapseSpaces rest
  | [] => []

/-- Dictated text with its numbers and special characters written out. -/
def format (v : Vocabulary) (text : Text) : Text :=
  let pieces := Substitution.substitute (phrases v) text
  collapseSpaces (pieces.foldl Written.add ⟨[], false⟩).text

end VoiceEdit.Dictation
