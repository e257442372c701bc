import VoiceEdit.Session.Basic
import VoiceEdit.Session.Script

/-!
# Listening until the end

A session listens until a stop phrase is spoken, the stop signal is raised, the
source is closed or the source fails three times in a row.

* `Session.hear`: what one result of listening does to a session.
* `Session.run`: a session over everything that a source delivers.
-/
namespace VoiceEdit

/-- Why a session ended. -/
inductive Ending where
  | spoken | signal | sourceClosed | sourceFailed
  deriving DecidableEq, Repr

/-- A result of listening, and whether the stop signal was raised meanwhile. -/
structure SourceEvent where
  hearing : Hearing
  raisesStop : Bool
  deriving DecidableEq, Repr

namespace Session

/-- How many failures of the source in a row end a session. -/
def maxFailures : Nat := 3

/-- A session that listens: itself, and the failures since the last success. -/
structure Listening where
  session : Session
  failures : Nat

/-- What one result of listening led to. -/
structure Heard where
  listening : Listening
  reports : List Report
  ending : Option Ending

/-- Take over a failure of the source. -/
def hearFailure (l : Listening) (reasons : List Text) : Heard where
  listening :=
    ⟨{ l.session with stats := l.session.stats.recordSourceError l.session.state.mode },
      l.failures + 1⟩
  reports := [.sourceFailed reasons]
  ending := if maxFailures ≤ l.failures + 1 then some .sourceFailed else none

/-- Take over a handled utterance. -/
def hearHandled (h : Handled) : Heard where
  listening := ⟨h.session, 0⟩
  reports := h.reports
  ending := if h.interpretation.stops then some .spoken else none

/-- What one result of listening does to a session. -/
def hear (l : Listening) : Hearing → EditorProgram Heard
  | .utterance text => (l.session.handle text 0).bind fun h => .done (hearHandled h)
  | .silence => .done ⟨⟨l.session, 0⟩, [], none⟩
  | .failure reasons => .done (hearFailure l reasons)

/-- A session that ended. -/
structure Ended where
  ending : Ending
  session : Session
  reports : List Report
  /-- What the source would still have delivered. -/
  unread : List SourceEvent

/-- Listen on after some reports; `stopped` tells whether the stop signal is
raised. -/
def listen (l : Listening) (reports : List Report) (stopped : Bool) :
    List SourceEvent → EditorProgram Ended
  | [] => .done ⟨if stopped then .signal else .sourceClosed, l.session, reports, []⟩
  | event :: rest =>
    if stopped then .done ⟨.signal, l.session, reports, event :: rest⟩
    else
      (hear l event.hearing).bind fun h =>
        match h.ending with
        | some ending => .done ⟨ending, h.listening.session, reports ++ h.reports, rest⟩
        | none => listen h.listening (reports ++ h.reports) event.raisesStop rest

/-- Listen to everything that a source delivers, or until the session ends. -/
def run (s : Session) (stopped : Bool) (events : List SourceEvent) : EditorProgram Ended :=
  (listen ⟨s, 0⟩ [.listening s.state] stopped events).bind fun e =>
    .done { e with reports := e.reports ++ [.stopped] }

end Session

end VoiceEdit
