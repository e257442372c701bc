import VoiceEdit.Text.Blank

/-!
# What a source delivers

* `Hearing`: one result of listening.
* `Script.hearings`: the results of a recorded script, in which every line is an
  utterance, a blank line is silence, and a line that starts with `#` is a
  comment.
-/
namespace VoiceEdit

open Text

/-- One result of listening to a source that is still open. -/
inductive Hearing where
  | utterance (text : Text)
  | silence
  /-- The source failed, for these reasons from the outermost in. -/
  | failure (reasons : List Text)
  deriving DecidableEq, Repr

namespace Script

/-- What a line of a source says. -/
def hearing (line : Text) : Hearing :=
  if (trim line).isEmpty then .silence else .utterance (trim line)

/-- Whether a line is a comment. -/
def isComment (line : Text) : Bool := (trimStart line).head? == some '#'

/-- What a script says, line by line. -/
def hearings (script : Text) : List Hearing :=
  ((terminatedLines script).filter fun l => !isComment l).map hearing

end Script

end VoiceEdit
