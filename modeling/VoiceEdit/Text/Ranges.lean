import VoiceEdit.Text.Basic

/-!
# Classes of characters as ranges

A class of characters is a list of closed ranges of code points in ascending
order; `inRanges` looks a code point up and stops at the first range beyond it.
-/
namespace VoiceEdit.Text

/-- Whether a code point lies in one of some ascending ranges. -/
def inRanges : List (Nat × Nat) → Nat → Bool
  | [], _ => false
  | (first, last) :: rest, n => if n < first then false else n ≤ last || inRanges rest n

end VoiceEdit.Text
