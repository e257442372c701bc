import VoiceEdit.Dictation.StopPhrase
import VoiceEdit.Proofs.Text.EditDistance
import VoiceEdit.Proofs.Text.LetterWords

/-!
# Which stop phrases are heard

A stop phrase is heard where its words stand in a row among those of the utterance, in lower
case and without anything but letters. A tolerant listener also hears it where a few edits
make the utterance of it. What is heard of one command decides before what is heard of the
other.

* `Heard`, `HearsCommand`: a phrase, and some phrase of a command, in an utterance.
* `hearsPhrase_iff`: what the search answers.
* `stopTransition?_eq`: leaving the mode goes before ending the session.
* `stopTransition?_cases`: each of the three answers, and what tolerance may change.
-/
namespace VoiceEdit.Dictation

open Text

variable {v : Vocabulary} {isTolerant : Bool} {utterance phrase : Text} {name : CommandName}

/-- A phrase is heard by its words in a row, or by a tolerant listener if a third of its
letters, and in any case one, was misheard at most. -/
inductive Heard (isTolerant : Bool) (utterance phrase : Text) : Prop where
  | words (hne : letterWords phrase ≠ []) (hrow : letterWords phrase <:+: letterWords utterance)
  | close (htolerant : isTolerant = true) {n : Nat}
      (hfew : n ≤ max 1 ((lettersOnly phrase).length / 3))
      (hedits : Edits n (lettersOnly phrase) (lettersOnly utterance))

/-- Some phrase of a command is heard. -/
def HearsCommand (v : Vocabulary) (isTolerant : Bool) (utterance : Text) (name : CommandName) :
    Prop :=
  ∃ phrase ∈ v.triggersFor (code name), Heard isTolerant utterance phrase

theorem isCloseTo_iff (expected heard : Text) : isCloseTo expected heard = true ↔
    ∃ n ≤ max 1 (expected.length / 3), Edits n expected heard := by
  rw [isCloseTo, Bool.or_eq_true, beq_iff_eq, decide_eq_true_iff, editDistance_le_iff, Nat.max_comm]
  refine or_iff_right_of_imp ?_
  rintro rfl
  exact ⟨0, Nat.zero_le _, .none expected⟩

/-- The search finds the phrases that are heard. -/
theorem hearsPhrase_iff :
    hearsPhrase isTolerant (lettersOnly utterance) phrase = true ↔
      Heard isTolerant utterance phrase := by
  rw [hearsPhrase, Bool.or_eq_true, Bool.and_eq_true, containsPhrase_lettersOnly, isCloseTo_iff]
  constructor
  · rintro (⟨hne, hrow⟩ | ⟨htolerant, n, hfew, hedits⟩)
    · exact .words hne hrow
    · exact .close htolerant hfew hedits
  · rintro (⟨hne, hrow⟩ | ⟨htolerant, hfew, hedits⟩)
    · exact .inl ⟨hne, hrow⟩
    · exact .inr ⟨htolerant, _, hfew, hedits⟩

theorem any_hearsPhrase_iff :
    (v.triggersFor (code name)).any (hearsPhrase isTolerant (lettersOnly utterance)) = true ↔
      HearsCommand v isTolerant utterance name := by
  simp only [List.any_eq_true, hearsPhrase_iff, HearsCommand]

/-! ## Tolerance -/

/-- A tolerant listener hears what any listener hears. -/
theorem Heard.tolerant (h : Heard isTolerant utterance phrase) : Heard true utterance phrase := by
  cases h with
  | words hne hrow => exact .words hne hrow
  | close _ hfew hedits => exact .close rfl hfew hedits

theorem HearsCommand.tolerant (h : HearsCommand v isTolerant utterance name) :
    HearsCommand v true utterance name := by
  obtain ⟨phrase, hmem, hheard⟩ := h
  exact ⟨phrase, hmem, hheard.tolerant⟩

/-! ## Transitions -/

open Classical in
/-- Nothing is heard in an utterance without letters, and leaving the mode goes before ending
the session. -/
theorem stopTransition?_eq (v : Vocabulary) (isTolerant : Bool) (utterance : Text) :
    stopTransition? v isTolerant utterance =
      if lettersOnly utterance = [] then none
      else if HearsCommand v isTolerant utterance .stopDictating then some .stopDictating
      else if HearsCommand v isTolerant utterance .stop then some .stop
      else none := by
  simp only [stopTransition?, List.isEmpty_iff, any_hearsPhrase_iff]

theorem stopTransition?_eq_stopDictating_iff :
    stopTransition? v isTolerant utterance = some .stopDictating ↔
      lettersOnly utterance ≠ [] ∧ HearsCommand v isTolerant utterance .stopDictating := by
  rw [stopTransition?_eq]
  split_ifs <;> simp_all

theorem stopTransition?_eq_stop_iff :
    stopTransition? v isTolerant utterance = some .stop ↔
      lettersOnly utterance ≠ [] ∧ ¬ HearsCommand v isTolerant utterance .stopDictating ∧
        HearsCommand v isTolerant utterance .stop := by
  rw [stopTransition?_eq]
  split_ifs <;> simp_all

theorem stopTransition?_ne_none_iff :
    stopTransition? v isTolerant utterance ≠ none ↔
      lettersOnly utterance ≠ [] ∧ (HearsCommand v isTolerant utterance .stopDictating ∨
        HearsCommand v isTolerant utterance .stop) := by
  rw [stopTransition?_eq]
  split_ifs <;> simp_all

/-- An utterance without letters asks for nothing. Any other leaves the mode if and only if
some phrase for that is heard, and ends the session if and only if none is and one for that is
heard; so that what a strict listener hears as a stop is a stop to a tolerant one, and what
only leaves the mode does so to both. -/
theorem stopTransition?_cases (v : Vocabulary) (isTolerant : Bool) (utterance : Text) :
    (lettersOnly utterance = [] → stopTransition? v isTolerant utterance = none) ∧
    (lettersOnly utterance ≠ [] →
      (stopTransition? v isTolerant utterance = some .stopDictating ↔
        HearsCommand v isTolerant utterance .stopDictating) ∧
      (stopTransition? v isTolerant utterance = some .stop ↔
        ¬ HearsCommand v isTolerant utterance .stopDictating ∧
          HearsCommand v isTolerant utterance .stop) ∧
      (stopTransition? v isTolerant utterance = none ↔
        ¬ HearsCommand v isTolerant utterance .stopDictating ∧
          ¬ HearsCommand v isTolerant utterance .stop)) ∧
    (stopTransition? v false utterance ≠ none → stopTransition? v true utterance ≠ none) ∧
    (stopTransition? v false utterance = some .stopDictating →
      stopTransition? v true utterance = some .stopDictating) := by
  refine ⟨fun hnone => ?_, fun hsome => ⟨?_, ?_, ?_⟩, fun hstop => ?_, fun hleave => ?_⟩
  · rw [stopTransition?_eq, if_pos hnone]
  · rw [stopTransition?_eq_stopDictating_iff, and_iff_right hsome]
  · rw [stopTransition?_eq_stop_iff, and_iff_right hsome]
  · rw [← not_or, ← not_iff_not, not_not]
    exact stopTransition?_ne_none_iff.trans (and_iff_right hsome)
  · obtain ⟨hsome, hheard⟩ := stopTransition?_ne_none_iff.1 hstop
    exact stopTransition?_ne_none_iff.2
      ⟨hsome, hheard.imp HearsCommand.tolerant HearsCommand.tolerant⟩
  · obtain ⟨hsome, hheard⟩ := stopTransition?_eq_stopDictating_iff.1 hleave
    exact stopTransition?_eq_stopDictating_iff.2 ⟨hsome, hheard.tolerant⟩

/-- An utterance that both listeners hear alike, and one of which the strict listener hears a
word only. -/
theorem stopTransition?_dictating :
    ∃ v : Vocabulary, v.triggersFor (code CommandName.stopDictating) = ["stop dictating"] ∧
      v.triggersFor (code CommandName.stop) = ["stop"] ∧
      HearsCommand v false "please, STOP dictating!" .stopDictating ∧
      stopTransition? v false "please, STOP dictating!" = some .stopDictating ∧
      stopTransition? v true "please, STOP dictating!" = some .stopDictating ∧
      ¬ HearsCommand v false "stop dictatin" .stopDictating ∧
      HearsCommand v false "stop dictatin" .stop ∧
      stopTransition? v false "stop dictatin" = some .stop ∧
      stopTransition? v true "stop dictatin" ≠ none ∧
      stopTransition? v true "stop dictatin" = some .stopDictating ∧
      stopTransition? v true " 12 " = none := by
  let v : Vocabulary :=
    { Vocabulary.empty with
      exactTriggers := .ofList
        [("stop dictating", code CommandName.stopDictating), ("stop", code CommandName.stop)] }
  have hboth : stopTransition? v false "please, STOP dictating!" = some .stopDictating := by
    decide +kernel
  have hword : stopTransition? v false "stop dictatin" = some .stop := by decide +kernel
  obtain ⟨-, hheard, -, htolerant⟩ := stopTransition?_cases v false "please, STOP dictating!"
  obtain ⟨-, hcut, hstays, -⟩ := stopTransition?_cases v false "stop dictatin"
  obtain ⟨hnothing, -⟩ := stopTransition?_cases v true " 12 "
  have hletters : lettersOnly "please, STOP dictating!" ≠ [] := by decide +kernel
  have hcutLetters : lettersOnly "stop dictatin" ≠ [] := by decide +kernel
  obtain ⟨hnot, hstop⟩ := (hcut hcutLetters).2.1.1 hword
  exact ⟨v, by decide +kernel, by decide +kernel, (hheard hletters).1.1 hboth, hboth,
    htolerant hboth, hnot, hstop, hword, hstays (by rw [hword]; exact Option.some_ne_none _),
    by decide +kernel, hnothing (by decide +kernel)⟩

end VoiceEdit.Dictation
