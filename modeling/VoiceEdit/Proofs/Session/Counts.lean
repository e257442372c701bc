import Mathlib.Algebra.GroupWithZero.Nat
import VoiceEdit.Session.Stats

/-!
# Counts that add up

However utterances and failures of the source follow one another, the counts by
outcome and the counts by mode both add up to all of them, and there is one timing
for every handled utterance.

* `Tally.sum_count_bump`: one more sighting raises the sum of the counts by one.
* `SessionStats.Counted`: the counts that some utterances and failures lead to.
* `SessionStats.Counted.sums`: what they add up to.
-/
namespace VoiceEdit

namespace Tally

variable {α : Type} [DecidableEq α]

theorem sum_count_bump_of_not_mem {values : List α} {a : α} (h : a ∉ values) (t : Tally α) :
    values.map (t.bump a).count = values.map t.count := by
  refine List.map_congr_left fun b hb => ?_
  have hba : b ≠ a := by
    rintro rfl
    exact h hb
  rw [count_bump, if_neg hba, Nat.add_zero]

/-- A value that is listed once raises the sum of the counts by one. -/
theorem sum_count_bump {values : List α} (hnodup : values.Nodup) {a : α} (ha : a ∈ values)
    (t : Tally α) : (values.map (t.bump a).count).sum = (values.map t.count).sum + 1 := by
  induction values with
  | nil => exact absurd ha List.not_mem_nil
  | cons b rest ih =>
    obtain ⟨hb, hrest⟩ := List.nodup_cons.1 hnodup
    rw [List.map_cons, List.sum_cons, List.map_cons, List.sum_cons, count_bump]
    by_cases hba : b = a
    · subst hba
      rw [if_pos rfl, sum_count_bump_of_not_mem hb]
      omega
    · rw [if_neg hba, ih hrest (List.mem_of_ne_of_mem (Ne.symm hba) ha)]
      omega

end Tally

theorem Outcome.nodup_all : Outcome.all.Nodup := by decide

theorem Outcome.mem_all (o : Outcome) : o ∈ Outcome.all := by cases o <;> decide

theorem Mode.nodup_all : Mode.all.Nodup := by decide

theorem Mode.mem_all (m : Mode) : m ∈ Mode.all := by cases m <;> decide

namespace SessionStats

/-- The counts after some handled utterances and some failures of the source, in
any order and with any results. -/
inductive Counted : SessionStats → Nat → Nat → Prop where
  | empty : Counted .empty 0 0
  | utterance {s : SessionStats} {handled failed : Nat} (h : Counted s handled failed) (mode : Mode)
      (outcome : Outcome) (nanoseconds : Nat) :
      Counted (s.record mode outcome nanoseconds) (handled + 1) failed
  | failure {s : SessionStats} {handled failed : Nat} (h : Counted s handled failed)
      (mode : Mode) : Counted (s.recordSourceError mode) handled (failed + 1)

variable {s : SessionStats} {handled failed : Nat}

/-- **The counts add up.** -/
theorem Counted.sums (h : Counted s handled failed) :
    (Outcome.all.map s.outcomes.count).sum = handled + failed ∧
      (Mode.all.map s.modes.count).sum = handled + failed ∧ s.utterances = handled + failed ∧
      s.timings.length = handled ∧ s.sourceErrors = failed := by
  induction h with
  | empty => decide
  | @utterance s handled failed h mode outcome nanoseconds ih =>
    obtain ⟨houtcomes, hmodes, hall, htimings, herrors⟩ := ih
    refine ⟨?_, ?_, ?_, ?_, herrors⟩
    · rw [record, Tally.sum_count_bump Outcome.nodup_all outcome.mem_all, houtcomes]
      omega
    · rw [record, Tally.sum_count_bump Mode.nodup_all mode.mem_all, hmodes]
      omega
    · rw [utterances, record, Tally.total_bump, ← utterances, hall]
      omega
    · rw [record, List.length_append, htimings]
      rfl
  | @failure s handled failed h mode ih =>
    obtain ⟨houtcomes, hmodes, hall, htimings, herrors⟩ := ih
    refine ⟨?_, ?_, ?_, htimings, ?_⟩
    · rw [recordSourceError, Tally.sum_count_bump Outcome.nodup_all Outcome.executionFailed.mem_all,
        houtcomes, Nat.add_assoc]
    · rw [recordSourceError, Tally.sum_count_bump Mode.nodup_all mode.mem_all, hmodes,
        Nat.add_assoc]
    · rw [utterances, recordSourceError, Tally.total_bump, ← utterances, hall, Nat.add_assoc]
    · rw [recordSourceError, herrors]

end SessionStats

end VoiceEdit
