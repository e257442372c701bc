import VoiceEdit.Dictation.Interpretation
import VoiceEdit.Proofs.Text.Casing
import VoiceEdit.Proofs.Text.Words

/-!
# Contents of utterances

While text is dictated or spelled, an utterance without a stop phrase is written as
its content, or it has none.

* `hasContent`, `content`: whether an utterance is written, and as what.
* `spelled_eq_nil_iff`: letters are spelled where there are any.
* `interpret_eq_write`: what an utterance without a stop phrase does.
-/
namespace VoiceEdit.Dictation

open Text

variable {v : Vocabulary} {isTolerant : Bool} {s : DictationState} {utterance : Text}

/-- Whether an utterance has content in a mode. -/
def hasContent (mode : Mode) (utterance : Text) : Bool :=
  match mode with
  | .command => false
  | .dictate => utterance.any isVisible
  | .spell => utterance.any isAlphanumeric

/-- What is written for an utterance that has content. -/
def content (v : Vocabulary) (s : DictationState) (utterance : Text) : Text :=
  match s.mode with
  | .command => []
  | .dictate => if s.formatting then format v (trim utterance) else trim utterance
  | .spell => spelled s.uppercase (trim utterance)

/-- The outcome of an utterance without content: nothing was said, or nothing that
can be spelled. -/
def emptyOutcome (utterance : Text) : Outcome :=
  if utterance.any isVisible then .invalidArgument else .noCommandFound

theorem any_isVisible_eq_false_iff (t : Text) : t.any isVisible = false ↔ trim t = [] := by
  rw [trim_eq_nil_iff, List.any_eq_false]
  simp [isVisible]

/-- Nothing is spelled if and only if there is no letter and no number. -/
theorem spelled_eq_nil_iff (uppercase : Bool) (t : Text) :
    spelled uppercase t = [] ↔ t.any isAlphanumeric = false := by
  have hletters : (words t).filterMap (fun w => w.find? isAlphanumeric) = [] ↔
      t.any isAlphanumeric = false := by
    rw [List.filterMap_eq_nil_iff, List.any_eq_false]
    constructor
    · intro h c hc hletter
      obtain ⟨w, hw, hcw⟩ := exists_word hc (isBlank_of_isAlphanumeric hletter)
      exact List.find?_eq_none.1 (h w hw) c hcw hletter
    · exact fun h w hw => List.find?_eq_none.2 fun c hc => h c (mem_of_mem_words hw hc)
  unfold spelled
  simp only
  split
  · rw [upper_eq_nil_iff, hletters]
  · rw [lower_eq_nil_iff, hletters]

theorem any_isAlphanumeric_trim (t : Text) :
    (trim t).any isAlphanumeric = t.any isAlphanumeric := by
  rw [Bool.eq_iff_iff, List.any_eq_true, List.any_eq_true]
  constructor
  · rintro ⟨c, hc, hletter⟩
    exact ⟨c, mem_of_mem_trim hc, hletter⟩
  · rintro ⟨c, hc, hletter⟩
    exact ⟨c, (mem_trim_iff (isBlank_of_isAlphanumeric hletter) t).2 hc, hletter⟩

/-- Outside of commands an utterance without a stop phrase is written if it has
content, and does nothing if it has none. -/
theorem interpret_eq_write (hmode : s.mode ≠ .command)
    (hstop : stopTransition? v isTolerant utterance = none) :
    interpret v isTolerant s utterance =
      if hasContent s.mode utterance then write s (content v s utterance)
      else .done (.staying s (emptyOutcome utterance)) := by
  unfold interpret
  simp only [if_neg hmode, hstop, List.isEmpty_iff]
  cases hvisible : utterance.any isVisible with
  | false =>
    have hblank := (any_isVisible_eq_false_iff utterance).1 hvisible
    have hletters : utterance.any isAlphanumeric = false := by
      rw [← any_isAlphanumeric_trim, hblank]
      rfl
    have hnone : hasContent s.mode utterance = false := by
      cases hm : s.mode with
      | command => rfl
      | dictate => exact hvisible
      | spell => exact hletters
    rw [if_pos hblank, hnone, emptyOutcome, hvisible]
    rfl
  | true =>
    have hsaid : trim utterance ≠ [] := fun h => by
      rw [(any_isVisible_eq_false_iff utterance).2 h] at hvisible
      cases hvisible
    rw [if_neg hsaid]
    cases hm : s.mode with
    | command => exact absurd hm hmode
    | dictate => simp only [interpretContent, content, hasContent, hm, hvisible, if_true]
    | spell =>
      simp only [interpretContent, content, hasContent, hm, emptyOutcome, hvisible, if_true,
        List.isEmpty_iff, spelled_eq_nil_iff, any_isAlphanumeric_trim]
      cases utterance.any isAlphanumeric <;> rfl

end VoiceEdit.Dictation
