import VoiceEdit.Dictation.State
import VoiceEdit.Outcome
import VoiceEdit.Text.Quoted

/-!
# Status lines

What the speaker is told while a session runs, one line at a time.
-/
namespace VoiceEdit

open Text

/-- Something that the speaker should know. -/
inductive Report where
  | listening (state : DictationState)
  | heard (utterance : Text)
  | interpreted (utterance : Text) (outcome : Outcome)
  | modeChanged (state : DictationState)
  /-- The source failed, for these reasons from the outermost in. -/
  | sourceFailed (reasons : List Text)
  | stopped
  deriving DecidableEq, Repr

namespace Report

/-- The status line of a report; success is silent. -/
def line? : Report → Option Text
  | listening s => some ("[LISTENING] mode: " ++ s.shown)
  | heard u => some ("[HEARD] " ++ u)
  | interpreted u o =>
    match o with
    | .success => none
    | .noCommandFound => some ("[INFO] " ++ o.shown ++ ": " ++ quoted u)
    | _ => some ("[ERROR] " ++ o.shown ++ ": " ++ quoted u)
  | modeChanged s => some ("[MODE] " ++ s.shown)
  | sourceFailed reasons =>
    some ("[ERROR] transcription failed: " ++ List.intercalate ": ".toList reasons)
  | stopped => some "[STOPPED]"

/-- Whether a report only repeats what was heard. -/
def isEcho : Report → Bool
  | heard _ => true
  | _ => false

/-- The status lines of some reports. -/
def lines (reports : List Report) : List Text := reports.filterMap line?

end Report

end VoiceEdit
