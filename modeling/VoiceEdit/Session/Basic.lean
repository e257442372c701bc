import VoiceEdit.Dictation.Interpretation
import VoiceEdit.Session.Report
import VoiceEdit.Session.Stats

/-!
# Sessions

A session carries the mode, the vocabulary and the counts from one utterance to
the next.

* `Session.respond`: interprets one utterance.
* `Session.settle`: takes over what an interpretation changed and tells of it.
* `Session.handle`: both in turn.
-/
namespace VoiceEdit

/-- What lasts from one utterance to the next. -/
structure Session where
  state : DictationState
  vocabulary : Vocabulary
  /-- Whether a stop phrase is also heard where an utterance is close to it. -/
  isTolerant : Bool
  stats : SessionStats

namespace Session

open Dictation (Interpretation)

/-- A session before its first utterance. -/
def new (vocabulary : Vocabulary) (isTolerant : Bool) : Session :=
  ⟨.initial, vocabulary, isTolerant, .empty⟩

/-- Use another vocabulary from the next utterance on. -/
def reload (s : Session) (vocabulary : Vocabulary) : Session := { s with vocabulary }

/-- One handled utterance: how it was interpreted, what is reported, and the
session after it. -/
structure Handled where
  interpretation : Interpretation
  reports : List Report
  session : Session

/-- Interpret one utterance. -/
def respond (s : Session) (utterance : Text) : EditorProgram Interpretation :=
  Dictation.interpret s.vocabulary s.isTolerant s.state utterance

/-- Take over an interpretation that took some nanoseconds. -/
def settle (s : Session) (utterance : Text) (nanoseconds : Nat) (i : Interpretation) : Handled where
  interpretation := i
  reports := [.heard utterance, .interpreted utterance i.outcome] ++
    if i.state = s.state then [] else [.modeChanged i.state]
  session :=
    { s with state := i.state, stats := s.stats.record i.mode i.outcome nanoseconds }

/-- Handle one utterance whose interpretation takes some nanoseconds. -/
def handle (s : Session) (utterance : Text) (nanoseconds : Nat) : EditorProgram Handled :=
  (s.respond utterance).bind fun i => .done (s.settle utterance nanoseconds i)

end Session

end VoiceEdit
