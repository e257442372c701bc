import VoiceEdit.Phrase
import VoiceEdit.Transcript
import VoiceEdit.Vocabulary.Basic

/-!
# Triggers

A transcript names a command in one of two ways: the whole of it is an exact
trigger, or the longest parameterized trigger stands somewhere in it on whole
words, and what follows that trigger is the argument text.

* `Trigger.find?`: the trigger that a transcript holds.
-/
namespace VoiceEdit

open Text

/-- A trigger found in a transcript. -/
structure Trigger where
  phrase : Text
  /-- The code that the phrase is bound to. -/
  command : Text
  /-- The text after the phrase, trimmed. -/
  arguments : Text
  /-- Whether the phrase is the whole transcript. -/
  isExact : Bool
  deriving DecidableEq, Repr

namespace Trigger

/-- A parameterized trigger at its first place in a transcript. -/
structure Candidate where
  phrase : Text
  command : Text
  before : Text
  after : Text

/-- A parameterized trigger at its first place in a lower-case transcript. -/
def candidate? (lowered : Text) (binding : Text × Text) : Option Candidate :=
  (splitAtPhrase? lowered binding.1).map fun (before, after) =>
    ⟨binding.1, binding.2, before, after⟩

/-- Whether a candidate is chosen over another: the longer phrase, then the
earlier place, then the phrase that sorts first. -/
def Candidate.beats (a b : Candidate) : Bool :=
  if a.phrase.length ≠ b.phrase.length then b.phrase.length < a.phrase.length
  else if a.before.length ≠ b.before.length then a.before.length < b.before.length
  else decide (a.phrase < b.phrase)

/-- The candidate that is chosen over all others. -/
def best (candidates : List Candidate) : Option Candidate :=
  candidates.foldl (fun best c =>
    match best with
    | none => some c
    | some b => if c.beats b then some c else some b) none

/-- The text after a candidate in its spoken case, or in lower case if offsets
in the two cases do not agree. -/
def argumentText (spoken lowered : Text) (c : Candidate) : Text :=
  let rest :=
    if utf8Length spoken = utf8Length lowered then
      dropUtf8? (utf8Length c.before + utf8Length c.phrase) spoken
    else none
  trim (rest.getD c.after)

/-- The trigger that a transcript holds. -/
def find? (v : Vocabulary) (transcript : Text) : Option Trigger :=
  let spoken := Transcript.collapse transcript
  let lowered := lower spoken
  if lowered.isEmpty then none
  else
    match v.exactTriggers.get? lowered with
    | some command => some ⟨lowered, command, [], true⟩
    | none =>
      (best (v.parameterizedTriggers.entries.filterMap (candidate? lowered))).map fun c =>
        ⟨c.phrase, c.command, argumentText spoken lowered c, false⟩

end Trigger

end VoiceEdit
