import VoiceEdit.Decimal.Fixed
import VoiceEdit.Dictation.State
import VoiceEdit.Outcome

/-!
# Counts of a session

* `Tally`: how often each value was seen; `total_bump` and `count_bump` say what
  one more sighting changes.
* `SessionStats.summary`: the counts and timings of a session as text.
-/
namespace VoiceEdit

open Text

/-- How often values were seen. -/
structure Tally (α : Type) where
  counts : List (α × Nat)

namespace Tally

variable {α : Type} [DecidableEq α]

/-- Nothing seen. -/
def empty : Tally α := ⟨[]⟩

/-- How often a value was seen. -/
def count (t : Tally α) (a : α) : Nat := (t.counts.lookup a).getD 0

/-- Count a value once more in a list of counts. -/
def bumpIn (a : α) : List (α × Nat) → List (α × Nat)
  | [] => [(a, 1)]
  | (b, n) :: rest => if a = b then (b, n + 1) :: rest else (b, n) :: bumpIn a rest

/-- Count a value once more. -/
def bump (t : Tally α) (a : α) : Tally α := ⟨bumpIn a t.counts⟩

/-- How often anything was seen. -/
def total (t : Tally α) : Nat := t.counts.foldr (fun e n => e.2 + n) 0

theorem sum_bumpIn (a : α) (counts : List (α × Nat)) :
    (bumpIn a counts).foldr (fun e n => e.2 + n) 0 = counts.foldr (fun e n => e.2 + n) 0 + 1 := by
  induction counts with
  | nil => rfl
  | cons e rest ih =>
    simp only [bumpIn]
    split
    · simp only [List.foldr_cons]; omega
    · simp only [List.foldr_cons, ih]; omega

theorem lookup_bumpIn (a b : α) (counts : List (α × Nat)) :
    ((bumpIn a counts).lookup b).getD 0 =
      (counts.lookup b).getD 0 + if b = a then 1 else 0 := by
  induction counts with
  | nil =>
    by_cases h : b = a
    · simp [bumpIn, h]
    · simp [bumpIn, h, List.lookup_cons, beq_false_of_ne h]
  | cons e rest ih =>
    obtain ⟨c, n⟩ := e
    by_cases hac : a = c
    · subst hac
      by_cases h : b = a
      · simp [bumpIn, h]
      · simp [bumpIn, h, List.lookup_cons, beq_false_of_ne h]
    · by_cases h : b = c
      · have hba : ¬ b = a := fun hba => hac (hba.symm.trans h)
        simp [bumpIn, hac, h, Ne.symm hac]
      · simp [bumpIn, hac, List.lookup_cons, beq_false_of_ne h, ih]

theorem count_bump (t : Tally α) (a b : α) :
    (t.bump a).count b = t.count b + if b = a then 1 else 0 := lookup_bumpIn a b t.counts

theorem total_bump (t : Tally α) (a : α) : (t.bump a).total = t.total + 1 := sum_bumpIn a t.counts

end Tally

/-- Outcomes, modes and timings of a session. -/
structure SessionStats where
  outcomes : Tally Outcome
  modes : Tally Mode
  /-- How long each interpretation took, in nanoseconds. -/
  timings : List Nat
  sourceErrors : Nat

namespace SessionStats

/-- The counts before the first utterance. -/
def empty : SessionStats := ⟨.empty, .empty, [], 0⟩

/-- Count an interpreted utterance. -/
def record (s : SessionStats) (mode : Mode) (outcome : Outcome) (nanoseconds : Nat) :
    SessionStats :=
  { s with
    outcomes := s.outcomes.bump outcome
    modes := s.modes.bump mode
    timings := s.timings ++ [nanoseconds] }

/-- Count a failure of the source as a failed utterance in the current mode. -/
def recordSourceError (s : SessionStats) (mode : Mode) : SessionStats :=
  { s with
    outcomes := s.outcomes.bump .executionFailed
    modes := s.modes.bump mode
    sourceErrors := s.sourceErrors + 1 }

/-- The number of utterances, failures of the source included. -/
def utterances (s : SessionStats) : Nat := s.outcomes.total

/-! ## The summary -/

/-- A line for a count; counts stand in one column. -/
def countLine (label : Text) (n : Nat) : Text :=
  "  " ++ label ++ List.replicate (20 - label.length) ' ' ++ " " ++ ofNat n ++ "\n"

/-- A line for a count that is not zero. -/
def countLine? (label : Text) (n : Nat) : Text := if n = 0 then [] else countLine label n

/-- A duration in milliseconds, computed in binary floating point from whole
seconds and nanoseconds. -/
def milliseconds (places nanoseconds : Nat) : Text :=
  let billion := 1000000000
  let seconds := Float.ofNat (nanoseconds / billion) +
    Float.ofNat (nanoseconds % billion) / Float.ofNat billion
  let fraction := Decimal.fractionOf (seconds * 1000.0)
  Decimal.fixed places fraction.1 fraction.2 ++ "ms"

/-- The line about timings, if there are any. -/
def timingLine (timings : List Nat) : Text :=
  match timings with
  | [] => []
  | first :: rest =>
    let total := timings.foldr (· + ·) 0
    "Interpretation (n=" ++ ofNat timings.length ++ "): avg=" ++
      milliseconds 2 (total / timings.length) ++ " min=" ++
      milliseconds 2 (rest.foldl min first) ++ " max=" ++
      milliseconds 2 (rest.foldl max first) ++ " total=" ++ milliseconds 1 total ++ "\n"

/-- The lines about counts. -/
def countLines (s : SessionStats) : Text :=
  "Utterances: " ++ ofNat s.utterances ++ "\n" ++
    Outcome.all.flatMap (fun o => countLine? o.shown (s.outcomes.count o)) ++
    Mode.all.flatMap (fun m => countLine? (m.shown ++ " mode") (s.modes.count m)) ++
    countLine? "source errors" s.sourceErrors

/-- The counts and timings as text. -/
def summary (s : SessionStats) : Text :=
  if s.utterances = 0 then "No utterances recorded.\n" else s.countLines ++ timingLine s.timings

end SessionStats

end VoiceEdit
